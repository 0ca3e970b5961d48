import Graft.Admission
import Graft.Proofs.Frame
import Graft.Proofs.PatchDocument
import Graft.Proofs.Rereading
import Graft.Proofs.Selection

namespace Graft

open Json

namespace Selection

/-- What is selected depends on the inject annotations only, and an injection sets none of them. -/
theorem chosenNames_congr {first second : Keyed String}
    (same : ∀ a ∈ injectAnnotations, first.get? a.2 = second.get? a.2) : chosenNames first = chosenNames second := by
  rw [chosenNames, chosenNames, List.filterMap_congr same]

theorem platforms_congr {first second : Keyed String}
    (same : ∀ a ∈ injectAnnotations, first.get? a.2 = second.get? a.2) (resource : Instrumentation) :
    platforms first resource = platforms second resource := by
  have agree : requested first = requested second := List.filterMap_congr fun a member => by rw [same a member]
  rw [platforms_eq, platforms_eq, agree]

theorem get?_strings {members : Members} (sorted : Keyed.Sorted members) (key : String) :
    Keyed.get? key (members.filterMap fun m => m.2.str?.map fun v => (m.1, v)) =
      (Keyed.get? key members).bind Json.str? := by
  induction members with
  | nil => rfl
  | cons m rest ih =>
    obtain ⟨k, v⟩ := m
    obtain ⟨smaller, sorted⟩ := List.pairwise_cons.mp sorted
    rw [List.filterMap_cons, Keyed.get?_cons]
    by_cases same : k = key
    · have absent : Keyed.get? key rest = none := Keyed.get?_eq_none fun m member eq =>
        String.lt_irrefl k ((eq.trans same.symm) ▸ smaller m member)
      cases text : v.str? with
      | none => simp [same, text, ih sorted, absent]
      | some value => simp [same, text, Keyed.get?_cons]
    · cases text : v.str? with
      | none => simp [same, ih sorted]
      | some value => simp [same, Keyed.get?_cons, ih sorted]

theorem get?_templateAnnotations {object : Json} {l : Injection.Layers} (ok : Injection.layers object = .ok l)
    (canonical : object.Canonical) (key : String) : (templateAnnotations object).get? key =
      (object.path? ["spec", "template", "metadata", "annotations", key]).bind Json.str? := by
  have annotations := Injection.canonical_annotations (Injection.Layers.canonical ok canonical).1
  rw [Injection.path?_inAnnotations ok, ← get?_strings annotations.sorted, templateAnnotations,
    Injection.path?_annotations ok]
  cases Keyed.get? "annotations" (mapped (Keyed.get? "metadata" l.template)) with
  | none => rfl
  | some value => cases value <;> rfl

end Selection

namespace Injection

variable {object after : Json}

/-- A container keeps its name. -/
theorem SameCustomer.name {first second : Json} (same : SameCustomer first second) :
    second.get? "name" = first.get? "name" := by
  have bare (container : Json) : (bareContainer container).get? "name" = container.get? "name" := by
    cases container with
    | obj members => exact (Keyed.get?_erase_of_ne (by decide) _).trans (Keyed.get?_erase_of_ne (by decide) _)
    | _ => rfl
  rw [← bare, same.others, bare]

/-- The identity of pods is read from what no call changes. That the object may have become another in its specification
does not matter. -/
theorem ofObject_eq (framed : Framed object after) (others : ∀ key, key ≠ "spec" → after.get? key = object.get? key)
    (fallback : Option String) : PodIdentity.ofObject after fallback = PodIdentity.ofObject object fallback := by
  have metadata (key : String) : PodIdentity.metadata? after key = PodIdentity.metadata? object key := by
    rw [PodIdentity.metadata?, PodIdentity.metadata?, Json.path?, Json.path?, others _ (by decide)]
  have containers := framed.containers
  unfold PodIdentity.ofObject
  simp only [metadata, others "kind" (by decide), PodIdentity.mk.injEq, true_and]
  generalize PodIdentity.containers object = before at containers ⊢
  generalize PodIdentity.containers after = later at containers ⊢
  cases containers with
  | nil => rfl
  | cons first rest =>
    cases rest with
    | nil => simp only [first.name]
    | cons _ _ => rfl

theorem Layers.exists_resume (l : Layers) (g : Governing) (template : Members) :
    ∃ result, (l.resume g template).object = l.withTemplate result := by
  unfold resume
  split
  · exact ⟨_, rfl⟩
  · split
    · exact ⟨_, rfl⟩
    · split
      · exact ⟨_, rfl⟩
      · split <;> exact ⟨_, rfl⟩

/-- A call changes the specification of an object and nothing beside it. The object must be canonical, or writing the
specification back would sort its members. -/
theorem exists_spec {g : Governing} {state : Option InjectionState} (canonical : object.Canonical)
    (run : (mutate object g).outcome = .ok state) : ∃ members spec, object = .obj members ∧ spec.Canonical ∧
      spec ≠ .null ∧ (mutate object g).object = .obj (Keyed.replace "spec" spec members) := by
  obtain ⟨l, ok⟩ := layers_of_mutate run
  have resultCanonical := canonical_mutate canonical run
  rw [mutate_of_layers ok] at resultCanonical ⊢
  obtain ⟨template, eq⟩ := l.exists_resume g (l.reverted (isInjected object))
  obtain ⟨rfl, atSpec, _⟩ := layers_eq_ok_iff.mp ok
  rw [eq] at resultCanonical ⊢
  refine ⟨l.object, _, rfl, resultCanonical.get? (Keyed.get?_insert_self _ _ _), nofun, ?_⟩
  exact congrArg Json.obj (canonical.sorted.insert_eq_replace (atSpec ▸ rfl) _)

/-- The patch of a call that changes nothing changes nothing. -/
theorem exists_patch_of_fixed {g : Governing} (fixed : (mutate object g).object = object)
    {state : Option InjectionState} (run : (mutate object g).outcome = .ok state) (annotatable : Annotatable object) :
    ∃ patch, Injection.patch object g = .ok patch ∧ patch.perform? object = some object := by
  obtain ⟨l, ok⟩ := layers_of_mutate run
  obtain ⟨prepared, found⟩ := Option.isSome_iff_exists.mp ((isSome_prepare_iff ok state).mpr annotatable)
  refine ⟨_, patch_eq_ok_iff.mpr ⟨state, run, rfl⟩, ?_⟩
  rw [Patch.perform?_append_replace, found, fixed]
  rfl

/-- After a call on an object that nothing has touched, the patch of the same call changes nothing. It still sets the
state annotation and replaces the object, by what is there already. -/
theorem Clean.exists_patch_again (clean : Clean object) {g : Governing} (nodup : g.platforms.Nodup) {patch : Patch}
    (made : Injection.patch object g = .ok patch) (applied : patch.perform? object = some after) :
    after = (mutate object g).object ∧ (∃ state, (mutate object g).outcome = .ok state) ∧
      ∃ again, Injection.patch after g = .ok again ∧ again.perform? after = some after := by
  obtain ⟨state, run, performed⟩ := perform?_patch made
  obtain ⟨l, ok⟩ := layers_of_mutate run
  rw [applied, eq_comm] at performed
  obtain ⟨prepared, found, rfl⟩ := Option.map_eq_some_iff.mp performed
  have same := clean.mutate_again nodup run
  refine ⟨rfl, ⟨state, run⟩, exists_patch_of_fixed (congrArg Mutation.object same) (same ▸ run) ?_⟩
  cases state with
  | some state => exact annotatable_of_injected (same ▸ run)
  | none =>
    rw [clean.mutate_idle (idle_of_mutate run)]
    exact (isSome_prepare_iff ok none).mp (found ▸ rfl)

theorem Clean.framed (clean : Clean object) {g : Governing} {state : Option InjectionState}
    (run : (mutate object g).outcome = .ok state) : Framed object (mutate object g).object := by
  cases state with
  | some state => exact framed_of_injected clean.canonical run
  | none =>
    obtain ⟨l, ok⟩ := clean.layers
    exact framed_of_idle ok clean.canonical (idle_of_mutate run)

end Injection

namespace Admission

/-- An object that is written back as it was read. -/
def Normal (object : Json) : Prop := (Workload.ofJson? object).map Workload.toJson = some object

/-- A request to create or update a deployment, in a namespace, that gives an object for it. -/
structure Asks (request : Request) (ns : Option String) (object : Json) : Prop where
  verb : request.verb = .create ∨ request.verb = .update
  kind : request.kind = supportedKind
  ns : request.ns = ns
  object : ∃ w, Workload.ofJson? object = some w ∧ request.object = some w

theorem validate_eq_ok_iff {request : Request} {w : Workload} {ns : String} :
    validate request = .ok (w, ns) ↔ (request.verb = .create ∨ request.verb = .update) ∧
      request.kind = supportedKind ∧ request.object = some w ∧
      (∃ spec, w.data.get? "spec" = some spec ∧ spec ≠ .null) ∧
      (w.metadata.ns.orElse fun _ => request.ns).bind PodIdentity.nonEmpty? = some ns := by
  unfold validate
  by_cases verb : request.verb = .create ∨ request.verb = .update
  · have allowed : ¬ (request.verb ≠ .create ∧ request.verb ≠ .update) := fun no => verb.elim no.1 no.2
    by_cases kind : request.kind = supportedKind
    · simp only [if_neg allowed, verb, kind, true_and]
      cases request.object with
      | none => exact ⟨nofun, nofun⟩
      | some given =>
        simp only [Option.some.injEq]
        cases spec : Keyed.get? "spec" given.data with
        | none =>
          refine iff_of_false nofun ?_
          rintro ⟨rfl, ⟨_, found, _⟩, _⟩
          cases spec.symm.trans found
        | some value =>
          cases value with
          | null =>
            refine iff_of_false nofun ?_
            rintro ⟨rfl, ⟨_, found, notNull⟩, _⟩
            exact absurd (Option.some.inj (found.symm.trans spec)) notNull
          | _ =>
            cases located : (given.metadata.ns.orElse fun _ => request.ns).bind PodIdentity.nonEmpty? with
            | none =>
              refine iff_of_false nofun ?_
              rintro ⟨rfl, _, found⟩
              cases located.symm.trans found
            | some here =>
              constructor
              · intro run
                cases run
                exact ⟨rfl, ⟨_, spec, nofun⟩, located⟩
              · rintro ⟨rfl, _, found⟩
                cases located.symm.trans found
                rfl
    · have unknown : request.kind ≠ supportedKind := kind
      simp only [if_neg allowed, if_pos unknown]
      exact iff_of_false nofun fun all => kind all.2.1
  · have refused : request.verb ≠ .create ∧ request.verb ≠ .update := not_or.mp verb
    simp only [if_pos refused]
    exact iff_of_false nofun fun all => verb all.1

theorem resolve_eq_ok_iff {registry : Registry} {request : Request} {r : Resolved} :
    resolve registry request = .ok r ↔ ∃ w ns name, validate request = .ok (w, ns) ∧
      Selection.resourceName (Selection.templateAnnotations w.toJson) = .ok name ∧
      r = ⟨w.toJson, ns, ⟨ns, name⟩, registry.get? ⟨ns, name⟩⟩ := by
  unfold resolve
  cases validate request with
  | error e => simp [Except.mapError, bind, Except.bind]
  | ok validated =>
    obtain ⟨w, ns⟩ := validated
    cases named : Selection.resourceName (Selection.templateAnnotations w.toJson) with
    | error e => simp [Except.mapError, bind, Except.bind, named]
    | ok name => simp [Except.mapError, bind, Except.bind, pure, Except.pure, named, eq_comm]

/-- The three ways in which an answer comes about. Each has a response of its own, so what holds of any answer is shown
of the three. -/
theorem response_cases (registry : Registry) (cluster : ClusterIdentity) (h : Heartbeat) (review : Review) :
    (review.request = none ∧ (answer registry cluster h review).1 = unusable) ∨
      ∃ request, review.request = some request ∧
        ((∃ patch, patchFor registry cluster request = .ok patch ∧
            (answer registry cluster h review).1 = patched review.types request patch) ∨
          ∃ e, patchFor registry cluster request = .error e ∧
            (answer registry cluster h review).1 = skipped review.types request e) := by
  obtain ⟨types, request⟩ := review
  cases request with
  | none => exact .inl ⟨rfl, rfl⟩
  | some request =>
    refine .inr ⟨request, rfl, ?_⟩
    simp only [answer]
    cases made : patchFor registry cluster request with
    | ok patch => exact .inl ⟨patch, rfl, rfl⟩
    | error e => exact .inr ⟨e, rfl, rfl⟩

theorem patch?_answer (registry : Registry) (cluster : ClusterIdentity) (h : Heartbeat) (types : TypeMeta)
    (request : Request) : (answer registry cluster h ⟨types, some request⟩).1.patch? =
      (patchFor registry cluster request).toOption := by
  rcases response_cases registry cluster h ⟨types, some request⟩ with
    ⟨none, -⟩ | ⟨_, asked, ⟨_, made, is⟩ | ⟨_, made, is⟩⟩
  · cases none
  all_goals
    cases asked
    rw [is, made]
    rfl

theorem injectAnnotations_apart : ∀ a ∈ Selection.injectAnnotations,
    a.2 ∉ [Convention.stateAnnotation, Convention.logsAnnotation, Convention.logsShadow] := by decide

variable {registry : Registry} {cluster : ClusterIdentity} {request : Request} {object after : Json}

theorem toOption_eq_some_iff {ε α : Type} {result : Except ε α} {value : α} :
    result.toOption = some value ↔ result = .ok value := by
  cases result <;> simp [Except.toOption]

theorem patchFor_eq_ok_iff {patch : Patch} : patchFor registry cluster request = .ok patch ↔
    ∃ r, resolve registry request = .ok r ∧ Injection.patch r.object (r.governing cluster) = .ok patch := by
  unfold patchFor
  cases resolve registry request <;> simp [bind, Except.bind]

/-- The patch of an answer is the one for the object that the request is resolved to; there is no other way to a
patch. -/
theorem patch?_answer_eq_some_iff {h : Heartbeat} {types : TypeMeta} {patch : Patch} :
    (answer registry cluster h ⟨types, some request⟩).1.patch? = some patch ↔
      ∃ r, resolve registry request = .ok r ∧ Injection.patch r.object (r.governing cluster) = .ok patch := by
  rw [patch?_answer, toOption_eq_some_iff, patchFor_eq_ok_iff]

/-- No platform is repeated if none is in a resource. -/
theorem Resolved.platforms_nodup {r : Resolved}
    (own : ∀ resource, r.resource = some resource → resource.platforms.Nodup) :
    (r.governing cluster).platforms.Nodup := by
  unfold governing
  cases has : r.resource with
  | none => exact .nil
  | some resource => exact Selection.platforms_nodup _ (own resource has)

/-- An object in normal form, with another specification in it, is in normal form, and is read as the same workload with
that specification. -/
theorem reread {w : Workload} {members : Members} {spec : Json} (read : Workload.ofJson? (.obj members) = some w)
    (written : w.toJson = .obj members) (canonical : spec.Canonical) :
    Workload.ofJson? (.obj (Keyed.replace "spec" spec members)) =
        some { w with data := Keyed.replace "spec" spec w.data } ∧
      Workload.toJson { w with data := Keyed.replace "spec" spec w.data } =
        .obj (Keyed.replace "spec" spec members) := by
  constructor
  · rw [Workload.ofJson?_replace (by decide) (by decide) (by decide) canonical, read]
    rfl
  · exact Workload.toJson_replace (by decide) (by decide) (by decide) spec w written

variable (cluster) in
/-- What governs an object depends on nothing that a call changes: neither the annotations that select nor the identity
of the pods. -/
theorem governing_eq {r : Resolved} (canonical : object.Canonical) (afterCanonical : after.Canonical)
    {l l' : Injection.Layers} (ok : Injection.layers object = .ok l) (ok' : Injection.layers after = .ok l')
    (framed : Injection.Framed object after) (others : ∀ key, key ≠ "spec" → after.get? key = object.get? key)
    (is : r.object = object) :
    Selection.resourceName (Selection.templateAnnotations after) =
        Selection.resourceName (Selection.templateAnnotations object) ∧
      Resolved.governing { r with object := after } cluster = r.governing cluster := by
  have same : ∀ a ∈ Selection.injectAnnotations,
      (Selection.templateAnnotations after).get? a.2 = (Selection.templateAnnotations object).get? a.2 := by
    intro a member
    rw [Selection.get?_templateAnnotations ok' afterCanonical, Selection.get?_templateAnnotations ok canonical,
      framed.annotations a.2 (injectAnnotations_apart a member)]
  constructor
  · rw [Selection.resourceName, Selection.resourceName, Selection.chosenNames_congr same]
  · subst is
    unfold Resolved.governing
    simp only [Injection.ofObject_eq framed others, Selection.platforms_congr same]

/-- How a request is resolved, by the object that it gives. -/
theorem Asks.resolve_eq_ok_iff {ns : Option String} (asked : Asks request ns object) {w : Workload}
    (read : Workload.ofJson? object = some w) (written : w.toJson = object) {r : Resolved} :
    resolve registry request = .ok r ↔ (∃ spec, w.data.get? "spec" = some spec ∧ spec ≠ .null) ∧ ∃ here name,
      (w.metadata.ns.orElse fun _ => ns).bind PodIdentity.nonEmpty? = some here ∧
      Selection.resourceName (Selection.templateAnnotations object) = .ok name ∧
      r = ⟨object, here, ⟨here, name⟩, registry.get? ⟨here, name⟩⟩ := by
  obtain ⟨verb, kind, rfl, _, again, given⟩ := asked
  cases read.symm.trans again
  rw [Admission.resolve_eq_ok_iff]
  constructor
  · rintro ⟨other, here, name, validated, named, rfl⟩
    obtain ⟨_, _, isGiven, spec, located⟩ := validate_eq_ok_iff.mp validated
    cases given.symm.trans isGiven
    exact ⟨spec, here, name, located, written ▸ named, by rw [written]⟩
  · rintro ⟨spec, here, name, located, named, rfl⟩
    exact ⟨w, here, name, validate_eq_ok_iff.mpr ⟨verb, kind, given, spec, located⟩, written.symm ▸ named,
      by rw [written]⟩

/-- An object that comes back with the patch in it is resolved as before, in a request that asks for it in the same
namespace. The registry is the same both times. -/
theorem resolve_again {r : Resolved} {ns : Option String} (clean : Injection.Clean object) (normal : Normal object)
    (asked : Asks request ns object) (resolved : resolve registry request = .ok r) {state : Option InjectionState}
    (run : (Injection.mutate object (r.governing cluster)).outcome = .ok state)
    (is : (Injection.mutate object (r.governing cluster)).object = after) :
    Normal after ∧ ∀ later, Asks later ns after → ∃ r', resolve registry later = .ok r' ∧ r'.object = after ∧
      r'.key = r.key ∧ r'.governing cluster = r.governing cluster := by
  have canonical := clean.canonical
  have framed := clean.framed run
  have afterCanonical := Injection.canonical_mutate canonical run
  obtain ⟨l, ok⟩ := clean.layers
  obtain ⟨l', ok'⟩ := Injection.exists_layers_mutate run
  obtain ⟨members, spec, rfl, specCanonical, notNull, replaced⟩ := Injection.exists_spec canonical run
  rw [is] at framed afterCanonical ok' replaced
  obtain ⟨w, read, written⟩ := Option.map_eq_some_iff.mp normal
  obtain ⟨⟨old, has, _⟩, here, name, located, named, rfl⟩ := (asked.resolve_eq_ok_iff read written).mp resolved
  obtain ⟨reread, rewritten⟩ := reread read written specCanonical
  rw [← replaced] at reread rewritten
  have others (key : String) (ne : key ≠ "spec") : after.get? key = (Json.obj members).get? key := by
    rw [replaced]
    exact (Keyed.get?_replace _ _ _ _).trans (if_neg ne)
  obtain ⟨sameName, sameGoverning⟩ := governing_eq cluster
    (r := ⟨.obj members, here, ⟨here, name⟩, registry.get? ⟨here, name⟩⟩) canonical afterCanonical ok ok' framed
    others rfl
  refine ⟨Option.map_eq_some_iff.mpr ⟨_, reread, rewritten⟩, fun later asks =>
    ⟨⟨after, here, ⟨here, name⟩, registry.get? ⟨here, name⟩⟩, ?_, rfl, rfl, sameGoverning⟩⟩
  refine (asks.resolve_eq_ok_iff reread rewritten).mpr
    ⟨⟨spec, ?_, notNull⟩, here, name, located, sameName.trans named, rfl⟩
  rw [Keyed.get?_replace, has]
  rfl

/-- What governed an object on its first admission governs it when it comes back, and its patch then changes nothing.
The object was one that nothing had touched and that is written back as it is read. Between the two reviews the registry
has not changed, and no resource in it may name a platform twice. -/
theorem readmission_stable
    (unrepeated : ∀ key resource, registry.get? key = some resource → resource.platforms.Nodup)
    (clean : Injection.Clean object) (normal : Normal object) {ns : Option String} (asked : Asks request ns object)
    {h : Heartbeat} {types : TypeMeta} {patch : Patch}
    (answered : (answer registry cluster h ⟨types, some request⟩).1.patch? = some patch)
    (applied : patch.perform? object = some after) :
    Normal after ∧ ∀ later, Asks later ns after → ∃ r r', resolve registry request = .ok r ∧
      resolve registry later = .ok r' ∧ r'.key = r.key ∧ r'.governing cluster = r.governing cluster ∧
      ∀ h types, ∃ again, (answer registry cluster h ⟨types, some later⟩).1.patch? = some again ∧
        again.perform? after = some after := by
  rw [patch?_answer] at answered
  obtain ⟨r, resolved, made⟩ := patchFor_eq_ok_iff.mp (toOption_eq_some_iff.mp answered)
  obtain ⟨w, read, written⟩ := Option.map_eq_some_iff.mp normal
  have own : ∀ resource, r.resource = some resource → resource.platforms.Nodup := by
    obtain ⟨_, _, _, _, _, rfl⟩ := (asked.resolve_eq_ok_iff read written).mp resolved
    exact unrepeated _
  have is : r.object = object := by
    obtain ⟨_, _, _, _, _, rfl⟩ := (asked.resolve_eq_ok_iff read written).mp resolved
    rfl
  rw [is] at made
  obtain ⟨rfl, ⟨state, run⟩, again, madeAgain, unchanged⟩ :=
    clean.exists_patch_again (Resolved.platforms_nodup own) made applied
  obtain ⟨normalAfter, resolves⟩ := resolve_again clean normal asked resolved run rfl
  refine ⟨normalAfter, fun later asks => ?_⟩
  obtain ⟨r', resolvedAgain, object', key, governing⟩ := resolves later asks
  refine ⟨r, r', resolved, resolvedAgain, key, governing, fun h types => ⟨again, ?_, unchanged⟩⟩
  rw [patch?_answer]
  exact toOption_eq_some_iff.mpr (patchFor_eq_ok_iff.mpr ⟨r', resolvedAgain, by rw [object', governing, madeAgain]⟩)

/-- A deployment with nothing to be taken out, as it is written back. -/
def webDeployment : Json := .obj [
  ("apiVersion", .str "apps/v1"),
  ("kind", .str supportedKind),
  ("metadata", .obj [("name", .str "web"), ("namespace", .str "apps")]),
  ("spec", .obj [("template", .obj [("spec", .obj [
    ("containers", .arr [.obj [("name", .str "main")]])])])])]

/-- A request for an object in a namespace with a resource for it. -/
def appsRequest (verb : Verb) (object : Json) : Request where
  uid := "1"
  kind := supportedKind
  verb := verb
  ns := some "apps"
  object := Workload.ofJson? object

/-- The resource for those requests, with one platform. -/
def appsRegistry : Registry := [(⟨"apps", Instrumentation.defaultName⟩,
  { metadata := { name := some Instrumentation.defaultName, ns := some "apps" }, connectionString := "key",
    platforms := [.java] })]

theorem asks_appsRequest {verb : Verb} (applies : verb = .create ∨ verb = .update) (normal : Normal object) :
    Asks (appsRequest verb object) (some "apps") object := by
  obtain ⟨w, read, _⟩ := Option.map_eq_some_iff.mp normal
  exact ⟨applies, rfl, rfl, w, read, read⟩

theorem web_deployment_readmitted : ∃ patch after,
    (answer appsRegistry {} {} ⟨default, some (appsRequest .create webDeployment)⟩).1.patch? = some patch ∧
      patch.perform? webDeployment = some after ∧ Injection.isInjected after = true ∧ ∃ again,
      (answer appsRegistry {} {} ⟨default, some (appsRequest .update after)⟩).1.patch? = some again ∧
        again.perform? after = some after := by
  have unrepeated : ∀ key resource, appsRegistry.get? key = some resource → resource.platforms.Nodup := by
    intro key resource found
    simp only [appsRegistry, Assoc.get?] at found
    split at found <;> cases found
    decide
  have normal : Normal webDeployment := rfl
  have answered : (answer appsRegistry {} {} ⟨default, some (appsRequest .create webDeployment)⟩).1.patch? =
      some _ := rfl
  obtain ⟨normalAfter, again⟩ := readmission_stable unrepeated (by decide) normal
    (asks_appsRequest (.inl rfl) normal) answered rfl
  obtain ⟨_, _, _, _, _, _, unchanged⟩ := again _ (asks_appsRequest (.inr rfl) normalAfter)
  exact ⟨_, _, answered, rfl, rfl, unchanged {} default⟩

end Admission

end Graft
