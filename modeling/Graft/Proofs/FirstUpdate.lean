import Graft.Proofs.LateIdentity
import Graft.Proofs.Locality

namespace Graft

open Json

namespace Injection

variable {object : Json} {l : Layers}

theorem path?_onTemplate (ok : layers object = .ok l) (f : Members → Members) :
    (onTemplate f object).path? ["spec", "template"] = (object.path? ["spec", "template"]).map (onMembers f) := by
  have place (template : Members) : (l.withTemplate template).path? ["spec", "template"] = some (.obj template) := by
    simp [Layers.withTemplate, Json.path?, Json.get?]
  rw [onTemplate_eq ok, place, path?_template ok]
  rfl

/-- A template in which the attributes of each container tell the identity of the owner too, if it is known. -/
def identify (kind : String) : Option String → Json → Json
  | none, template => template
  | some uid, template => onMembers (lengthenTemplate (Fragment.identityAttribute kind uid)) template

/-- Whatever has become known of the identity since an injection, the next call changes nothing else. That the kind of
the owner was known before is assumed, since the attribute is named by it. -/
theorem Clean.exists_mutate_identify (clean : Clean object) {g : Governing} {state : InjectionState}
    (nodup : g.platforms.Nodup) (run : (mutate object g).outcome = .ok (some state))
    (unknown : g.pod.ownerUid = none) {kind : String} (has : g.pod.ownerKind = some kind) (uid? : Option String) :
    ∃ final, mutate (mutate object g).object { g with pod := { g.pod with ownerUid := uid? } } =
        ⟨final, .ok (some state)⟩ ∧
      final.path? ["spec", "template"] =
        ((mutate object g).object.path? ["spec", "template"]).map (identify kind uid?) := by
  cases uid? with
  | none =>
    have same : { g with pod := { g.pod with ownerUid := none } } = g := by rw [← unknown]
    refine ⟨(mutate object g).object, ?_, Option.map_id'.symm⟩
    rw [same, clean.mutate_again nodup run, ← run]
  | some uid =>
    obtain ⟨l, ok⟩ := exists_layers_mutate run
    exact ⟨_, clean.mutate_identified nodup run unknown has uid, path?_onTemplate ok _⟩

end Injection

namespace Admission

/-- The members of metadata that the server fills in by itself. -/
def serverFields : List String := ["creationTimestamp", "generation", "resourceVersion", "uid"]

/-- An object in which the server has filled in members of the metadata, and nothing else has changed. Which of them
were filled in is left open. -/
structure Filled (created updated : Json) : Prop where
  canonical : updated.Canonical
  others : ∀ key, key ≠ "metadata" → updated.get? key = created.get? key
  metadata : ∀ key, key ∉ serverFields → updated.path? ["metadata", key] = created.path? ["metadata", key]

variable {registry : Registry} {cluster : ClusterIdentity} {request : Request} {object created updated : Json}

/-- An object in which the server has filled in a member of the metadata. -/
def fillIn (key : String) (value : Json) : Json → Json :=
  onMembers (Keyed.alter "metadata" (Option.map (onMembers (Keyed.insert key value))))

theorem filled_fillIn (canonical : created.Canonical) {key : String} (server : key ∈ serverFields) {value : Json}
    (new : value.Canonical) : Filled created (fillIn key value created) where
  canonical := canonical.onMembers fun _ h => h.alter_map fun _ h => h.onMembers fun _ h => h.insert new
  others other ne := by
    cases created with
    | obj members => exact Keyed.get?_alter_of_ne ne _ _
    | _ => rfl
  metadata other apart := by
    have ne : other ≠ key := fun same => apart (same ▸ server)
    cases created with
    | obj members =>
      simp only [fillIn, onMembers, Json.path?, Json.get?, Keyed.get?_alter_self]
      cases Keyed.get? "metadata" members with
      | none => rfl
      | some own =>
        cases own with
        | obj own => simpa [onMembers] using Keyed.get?_insert_of_ne ne value own
        | _ => rfl
    | _ => rfl

theorem metadata?_toJson (w : Workload) :
    PodIdentity.metadata? w.toJson "namespace" = w.metadata.ns.bind PodIdentity.nonEmpty? ∧
      PodIdentity.metadata? w.toJson "name" = w.metadata.name.bind PodIdentity.nonEmpty? ∧
      PodIdentity.metadata? w.toJson "uid" = w.metadata.uid.bind PodIdentity.nonEmpty? := by
  obtain ⟨name, ns, uid⟩ := w.texts_toJson
  exact ⟨congrArg (Option.bind · _) ns, congrArg (Option.bind · _) name, congrArg (Option.bind · _) uid⟩

/-- What is read from an object that the server has filled in is what was written before, but for its identity. Both
readings are assumed to succeed. -/
theorem Filled.read {w w' : Workload} {types : TypeMeta} (filled : Filled created updated)
    (written : ∀ key, key ≠ "spec" → created.get? key = w.toJson.get? key) (has : w.types = some types)
    (read : Workload.ofJson? updated = some w') :
    w'.types = some types ∧ w'.metadata.ns = w.metadata.ns ∧ w'.metadata.name = w.metadata.name := by
  have reads := Workload.readsFrom_of_ofJson? filled.canonical read
  have inside (key : String) (apart : key ∉ serverFields) :
      updated.path? ["metadata", key] = w.toJson.path? ["metadata", key] := by
    rw [filled.metadata key apart, Json.path?, Json.path?, written _ (by decide)]
  obtain ⟨atVersion, atKind⟩ := w.type_toJson has
  obtain ⟨name, ns, _⟩ := w.texts_toJson
  refine ⟨reads.types _ _ ?_ ?_, ?_, ?_⟩
  · rw [filled.others _ (by decide), written _ (by decide), atVersion]
  · rw [filled.others _ (by decide), written _ (by decide), atKind]
  · rw [reads.ns, inside _ (by decide), ns]
  · rw [reads.name, inside _ (by decide), name]

/-- What it tells of its pods differs by the identity only, given that it has the same containers to tell of. -/
theorem Filled.pod {w w' : Workload} {types : TypeMeta} (filled : Filled created updated)
    (written : ∀ key, key ≠ "spec" → created.get? key = w.toJson.get? key) (has : w.types = some types)
    (read : Workload.ofJson? updated = some w') (fallback : Option String)
    (containerName : (PodIdentity.ofObject w'.toJson fallback).onlyContainerName =
      (PodIdentity.ofObject w.toJson fallback).onlyContainerName) :
    PodIdentity.ofObject w'.toJson fallback =
      { PodIdentity.ofObject w.toJson fallback with ownerUid := PodIdentity.metadata? updated "uid" } := by
  have reads := Workload.readsFrom_of_ofJson? filled.canonical read
  obtain ⟨types', ns, name⟩ := filled.read written has read
  obtain ⟨atNs, atName, _⟩ := metadata?_toJson w
  obtain ⟨atNs', atName', atUid'⟩ := metadata?_toJson w'
  have kind : w'.toJson.get? "kind" = w.toJson.get? "kind" :=
    (w'.type_toJson types').2.trans (w.type_toJson has).2.symm
  have ns : PodIdentity.metadata? w'.toJson "namespace" = PodIdentity.metadata? w.toJson "namespace" := by
    rw [atNs', atNs, ns]
  have name : PodIdentity.metadata? w'.toJson "name" = PodIdentity.metadata? w.toJson "name" := by
    rw [atName', atName, name]
  have uid : PodIdentity.metadata? w'.toJson "uid" = PodIdentity.metadata? updated "uid" := by
    rw [atUid', reads.uid]
    rfl
  simp only [PodIdentity.ofObject] at containerName ⊢
  simp only [ns, name, kind, uid, containerName]

/-- A request for an object in a namespace that names a resource there. -/
def resolvedTo (registry : Registry) (object : Json) (here name : String) : Resolved :=
  ⟨object, here, ⟨here, name⟩, registry.get? ⟨here, name⟩⟩

theorem governing_congr {other : Json} (cluster : ClusterIdentity) (here name : String)
    (same : other.get? "spec" = object.get? "spec") :
    ((resolvedTo registry other here name).governing cluster).platforms =
        ((resolvedTo registry object here name).governing cluster).platforms ∧
      (PodIdentity.ofObject other (some here)).onlyContainerName =
        (PodIdentity.ofObject object (some here)).onlyContainerName := by
  simp only [Resolved.governing, resolvedTo, PodIdentity.ofObject, Injection.containers_congr same,
    Injection.templateAnnotations_congr same, and_self]

/-- What was found out about an object that got an injection: the workload that was read, its namespace, the name of the
resource that governed it, and the state that was recorded in it. -/
structure Admitted (registry : Registry) (cluster : ClusterIdentity) (ns : Option String) (object created : Json)
    (w : Workload) (here name : String) (state : InjectionState) : Prop where
  read : Workload.ofJson? object = some w
  located : (w.metadata.ns.orElse fun _ => ns).bind PodIdentity.nonEmpty? = some here
  named : Selection.resourceName (Selection.templateAnnotations object) = .ok name
  run : (Injection.mutate object ((resolvedTo registry w.toJson here name).governing cluster)).outcome = .ok (some state)
  created : created = (Injection.mutate w.toJson ((resolvedTo registry w.toJson here name).governing cluster)).object

/-- The admission of a deployment without an identity that got an injection. -/
structure Creation (registry : Registry) (cluster : ClusterIdentity) (request : Request) (ns : Option String)
    (object created : Json) : Prop where
  clean : Injection.Clean object
  version : ∃ version, object.get? "apiVersion" = some (.str version)
  kind : object.get? "kind" = some (.str supportedKind)
  unborn : PodIdentity.metadata? object "uid" = none
  asked : Asks request ns object
  patched : ∃ h types patch, (answer registry cluster h ⟨types, some request⟩).1.patch? = some patch ∧
    patch.perform? object = some created
  injected : Injection.isInjected created = true

variable {ns : Option String}

/-- An object that got an injection had a workload to read, a namespace and a resource. -/
theorem Creation.exists_admitted (creation : Creation registry cluster request ns object created) :
    ∃ w here name state, resolve registry request = .ok (resolvedTo registry w.toJson here name) ∧
      Admitted registry cluster ns object created w here name state := by
  obtain ⟨clean, _, _, _, asked, ⟨_, _, patch, answered, applied⟩, injected⟩ := creation
  obtain ⟨r, resolved, made⟩ := patch?_answer_eq_some_iff.mp answered
  obtain ⟨w, here, name, validated, named, rfl⟩ := resolve_eq_ok_iff.mp resolved
  obtain ⟨_, _, given, _, located⟩ := validate_eq_ok_iff.mp validated
  obtain ⟨_, _, rfl, _, read, isGiven⟩ := asked
  cases given.symm.trans isGiven
  have spec := Workload.spec_of_read clean.canonical read
  obtain ⟨state?, run, rfl⟩ := Injection.patch_eq_ok_iff.mp made
  rw [Patch.perform?_append_replace] at applied
  obtain ⟨_, _, rfl⟩ := Option.map_eq_some_iff.mp applied
  obtain ⟨sameOutcome, sameSpec⟩ := Injection.mutate_congr spec (Resolved.governing _ cluster)
  cases state? with
  | some state =>
    refine ⟨w, here, name, state, resolved, read, located, ?_, sameOutcome.symm.trans run, rfl⟩
    rw [← Injection.templateAnnotations_congr spec, named]
  | none =>
    -- Without an injection the object stays as clean as it was.
    have stillClean := Injection.isInjected_congr sameSpec
    rw [clean.mutate_idle (Injection.idle_of_mutate (sameOutcome.symm.trans run)), clean.not_injected] at stillClean
    exact absurd (injected.symm.trans stillClean) nofun

variable {w : Workload} {here name : String} {state : InjectionState}

theorem lowercase_supportedKind : Text.lowercase supportedKind = "deployment" := rfl

/-- What governs a deployment at its creation knows its kind and not its identity. That the object has no `uid` yet is
assumed; a server gives it one later. -/
theorem Admitted.pod (admitted : Admitted registry cluster ns object created w here name state)
    (clean : Injection.Clean object) {version : String} (has : w.types = some ⟨version, supportedKind⟩)
    (unborn : PodIdentity.metadata? object "uid" = none) :
    ((resolvedTo registry w.toJson here name).governing cluster).pod.ownerUid = none ∧
      ((resolvedTo registry w.toJson here name).governing cluster).pod.ownerKind = some "deployment" := by
  have reads := Workload.readsFrom_of_ofJson? clean.canonical admitted.read
  have kind := (w.type_toJson has).2
  obtain ⟨_, _, uid⟩ := metadata?_toJson w
  simp only [Resolved.governing, PodIdentity.ofObject, resolvedTo]
  constructor
  · rw [uid, reads.uid]
    exact unborn
  · rw [kind, ← lowercase_supportedKind]
    rfl

/-- With the specification that the creation left, a workload selects the same resource and the same platforms. The
annotations that decide this are the customer's, and an injection leaves them alone. -/
theorem Admitted.select_again (admitted : Admitted registry cluster ns object created w here name state)
    (clean : Injection.Clean object) {after : Json}
    (spec : after.get? "spec" =
      (Injection.mutate object ((resolvedTo registry w.toJson here name).governing cluster)).object.get? "spec") :
    Selection.resourceName (Selection.templateAnnotations after) = .ok name ∧
      ((resolvedTo registry after here name).governing cluster).platforms =
        ((resolvedTo registry w.toJson here name).governing cluster).platforms ∧
      (PodIdentity.ofObject after (some here)).onlyContainerName =
        (PodIdentity.ofObject w.toJson (some here)).onlyContainerName := by
  have run := admitted.run
  obtain ⟨l, ok⟩ := clean.layers
  obtain ⟨l', ok'⟩ := Injection.exists_layers_mutate run
  have is : (resolvedTo registry object here name).object = object := rfl
  obtain ⟨sameName, sameGoverning⟩ := governing_eq cluster clean.canonical
    (Injection.canonical_mutate clean.canonical run) ok ok' (clean.framed run)
    (fun key ne => Injection.get?_mutate ne object _) is
  obtain ⟨before, containerBefore⟩ := @governing_congr registry _ _ cluster here name
    (Workload.spec_of_read clean.canonical admitted.read)
  obtain ⟨later, containerLater⟩ := @governing_congr registry _ _ cluster here name spec
  have platforms := congrArg Injection.Governing.platforms sameGoverning
  have container := congrArg (fun g => g.pod.onlyContainerName) sameGoverning
  refine ⟨?_, later.trans (platforms.trans before.symm), containerLater.trans (container.trans containerBefore.symm)⟩
  rw [Injection.templateAnnotations_congr spec, sameName, admitted.named]

/-- The update is governed as the creation was, but that the identity is known. The registry is the same in both; a
resource that changes in between is another matter. -/
theorem Admitted.resolve_update (admitted : Admitted registry cluster ns object created w here name state)
    (clean : Injection.Clean object) {types : TypeMeta} (has : w.types = some types) (filled : Filled created updated)
    {later : Request} (asks : Asks later ns updated) :
    let g := (resolvedTo registry w.toJson here name).governing cluster
    ∃ w' : Workload, w'.toJson.get? "spec" = (Injection.mutate object g).object.get? "spec" ∧
      updated.get? "spec" = (Injection.mutate object g).object.get? "spec" ∧
      resolve registry later = .ok (resolvedTo registry w'.toJson here name) ∧
      (resolvedTo registry w'.toJson here name).governing cluster =
        { g with pod := { g.pod with ownerUid := PodIdentity.metadata? updated "uid" } } := by
  intro g
  obtain ⟨verb, kind, rfl, w', read', given⟩ := asks
  have reads' := Workload.readsFrom_of_ofJson? filled.canonical read'
  have written (key : String) (ne : key ≠ "spec") : created.get? key = w.toJson.get? key := by
    rw [admitted.created, Injection.get?_mutate ne]
  have updatedSpec : updated.get? "spec" = (Injection.mutate object g).object.get? "spec" := by
    rw [filled.others _ (by decide), admitted.created]
    exact (Injection.mutate_congr (Workload.spec_of_read clean.canonical admitted.read) g).2
  have spec : w'.toJson.get? "spec" = (Injection.mutate object g).object.get? "spec" :=
    (Workload.spec_of_read filled.canonical read').trans updatedSpec
  obtain ⟨named, platforms, containerName⟩ := admitted.select_again clean spec
  refine ⟨w', spec, updatedSpec, ?_, ?_⟩
  · refine resolve_eq_ok_iff.mpr ⟨w', here, name, validate_eq_ok_iff.mpr ⟨verb, kind, given, ?_, ?_⟩, named, rfl⟩
    · obtain ⟨l, ok⟩ := Injection.exists_layers_mutate admitted.run
      obtain ⟨is, atSpec, _⟩ := Injection.layers_eq_ok_iff.mp ok
      refine ⟨.obj l.spec, ?_, nofun⟩
      rw [reads'.others _ (by decide), updatedSpec, is]
      exact atSpec
    · rw [(filled.read written has read').2.1, admitted.located]
  · have pod := filled.pod written has read' (some here) containerName
    exact Injection.Governing.mk.injEq .. |>.mpr ⟨rfl, pod, platforms, rfl⟩

/-- The first update of a deployment that got an injection when it was created leaves the template as it is, unless the
server has given the deployment an identity since. Then the attributes of each container tell it too, and nothing else
changes. It is assumed that no platform was selected twice, and that the resources are the same as at the creation. -/
theorem first_update (creation : Creation registry cluster request ns object created)
    (unrepeated : ∀ r, resolve registry request = .ok r → (r.governing cluster).platforms.Nodup)
    (filled : Filled created updated) {later : Request} (asks : Asks later ns updated) (h : Heartbeat)
    (types : TypeMeta) :
    ∃ again after, (answer registry cluster h ⟨types, some later⟩).1.patch? = some again ∧
      again.perform? updated = some after ∧
      after.path? ["spec", "template"] = (updated.path? ["spec", "template"]).map
        (Injection.identify "deployment" (PodIdentity.metadata? updated "uid")) := by
  obtain ⟨w, here, name, state, resolved, admitted⟩ := creation.exists_admitted
  obtain ⟨clean, ⟨version, versioned⟩, deployment, unborn, _⟩ := creation
  have reads := Workload.readsFrom_of_ofJson? clean.canonical admitted.read
  have has := reads.types _ _ versioned deployment
  obtain ⟨w', spec, updatedSpec, resolvedLater, governed⟩ := admitted.resolve_update clean has filled asks
  obtain ⟨unknown, kind⟩ := admitted.pod clean has unborn
  have nodup := unrepeated _ resolved
  have run := admitted.run
  generalize (resolvedTo registry w.toJson here name).governing cluster = g at *
  -- The calls on what was read and on the updated object go as one on the object that the first call left.
  obtain ⟨final, next, changed⟩ := clean.exists_mutate_identify nodup run unknown kind
    (PodIdentity.metadata? updated "uid")
  rw [← governed] at next
  obtain ⟨sameOutcome, sameSpec⟩ := Injection.mutate_congr spec
    ((resolvedTo registry w'.toJson here name).governing cluster)
  rw [next] at sameOutcome sameSpec
  have made := Injection.patch_eq_ok_iff.mpr ⟨_, sameOutcome, rfl⟩
  refine ⟨_, _, patch?_answer_eq_some_iff.mpr ⟨_, resolvedLater, made⟩,
    Injection.perform?_of_same (updatedSpec.trans spec.symm) sameOutcome made, ?_⟩
  rw [Injection.path?_congr sameSpec, Injection.path?_congr updatedSpec, changed]

/-- What a registry makes of a deployment on its creation. -/
def createdBy (registry : Registry) (object : Json) : Json :=
  ((answer registry {} {} ⟨default, some (appsRequest .create object)⟩).1.patch?.bind (·.perform? object)).getD .null

theorem creation_webDeployment {patch : Patch}
    (answered : (answer registry {} {} ⟨default, some (appsRequest .create webDeployment)⟩).1.patch? = some patch)
    (applied : patch.perform? webDeployment = some created) (injected : Injection.isInjected created = true) :
    Creation registry {} (appsRequest .create webDeployment) (some "apps") webDeployment created where
  clean := by decide
  version := ⟨_, rfl⟩
  kind := rfl
  unborn := rfl
  asked := asks_appsRequest (.inl rfl) rfl
  patched := ⟨{}, default, patch, answered, applied⟩
  injected := injected

theorem web_deployment_updated :
    let born := fillIn "uid" (.str "u-1") (createdBy appsRegistry webDeployment)
    ∃ again after, (answer appsRegistry {} {} ⟨default, some (appsRequest .update born)⟩).1.patch? = some again ∧
      again.perform? born = some after ∧ after.path? ["spec", "template"] = (born.path? ["spec", "template"]).map
        (Injection.identify "deployment" (some "u-1")) := by
  intro born
  have creation := @creation_webDeployment appsRegistry (createdBy appsRegistry webDeployment) _ rfl rfl rfl
  have unrepeated : ∀ r, resolve appsRegistry (appsRequest .create webDeployment) = .ok r →
      (r.governing {}).platforms.Nodup := by
    intro r resolved
    cases resolved
    decide
  have canonical : (createdBy appsRegistry webDeployment).Canonical := rfl
  have filled : Filled (createdBy appsRegistry webDeployment) born := filled_fillIn canonical (by decide) (by decide)
  have normal : Normal born := rfl
  exact first_update creation unrepeated filled (asks_appsRequest (.inr rfl) normal) {} default

/-- The resource for those requests, with its platform twice. -/
def repeatingRegistry : Registry :=
  appsRegistry.map fun (key, resource) => (key, { resource with platforms := resource.platforms ++ resource.platforms })

/-- The first update of a deployment changes its template. -/
def Restarts (registry : Registry) (object created updated : Json) : Prop :=
  Creation registry {} (appsRequest .create object) (some "apps") object created ∧ Filled created updated ∧
    Asks (appsRequest .update updated) (some "apps") updated ∧ ∃ again after,
      (answer registry {} {} ⟨default, some (appsRequest .update updated)⟩).1.patch? = some again ∧
        again.perform? updated = some after ∧
        after.path? ["spec", "template"] ≠ updated.path? ["spec", "template"]

/-- An identity makes the first update change a template, and so does a platform that is there twice. In the second case
the server has filled in no more than a version. -/
theorem first_update_restarts :
    Restarts appsRegistry webDeployment (createdBy appsRegistry webDeployment)
      (fillIn "uid" (.str "u-1") (createdBy appsRegistry webDeployment)) ∧
    Restarts repeatingRegistry webDeployment (createdBy repeatingRegistry webDeployment)
      (fillIn "resourceVersion" (.str "1") (createdBy repeatingRegistry webDeployment)) := by
  constructor
  · have canonical : (createdBy appsRegistry webDeployment).Canonical := rfl
    have normal : Normal (fillIn "uid" (.str "u-1") (createdBy appsRegistry webDeployment)) := rfl
    refine ⟨creation_webDeployment rfl rfl rfl, filled_fillIn canonical (by decide) (by decide),
      asks_appsRequest (.inr rfl) normal, _, _, rfl, rfl, ?_⟩
    decide +kernel
  · have canonical : (createdBy repeatingRegistry webDeployment).Canonical := rfl
    have normal : Normal (fillIn "resourceVersion" (.str "1") (createdBy repeatingRegistry webDeployment)) := rfl
    refine ⟨creation_webDeployment rfl rfl rfl, filled_fillIn canonical (by decide) (by decide),
      asks_appsRequest (.inr rfl) normal, _, _, rfl, rfl, ?_⟩
    decide +kernel

end Admission

end Graft
