import Graft.Proofs.Mutation

namespace Graft

open Json

theorem canonical_str (text : String) : (Json.str text).Canonical := (rfl : (Json.str text).canonical = .str text)

theorem canonical_strings (values : List String) : (strings values).Canonical :=
  canonical_arr_iff.mpr (List.forall_mem_map.mpr fun text _ => canonical_str text)

/-- An object is canonical if its names, in the given order, ascend and its values are canonical. For an object that is
written out both are decided by looking. -/
theorem canonical_obj_of_names (names : List String) {members : Members} (are : members.map Prod.fst = names)
    (sorted : names.Pairwise (· < ·)) (each : ∀ m ∈ members, m.2.Canonical) : (Json.obj members).Canonical := by
  subst are
  exact canonical_obj_iff.mpr ⟨List.pairwise_map.mp sorted, each⟩

theorem EnvVar.canonical_toJson (var : EnvVar) : var.toJson.Canonical := by
  obtain ⟨name, source⟩ := var
  cases source with
  | value text => exact canonical_obj_of_names ["name", "value"] rfl (by decide) (by simp [canonical_str])
  | field path =>
    exact canonical_obj_of_names ["name", "valueFrom"] rfl (by decide)
      (by simp [canonical_obj_iff, canonical_str, Keyed.Sorted])

theorem Volume.canonical_toJson (v : Volume) : v.toJson.Canonical :=
  canonical_obj_of_names ["emptyDir", "name"] rfl (by decide) (by simp [canonical_obj_iff, canonical_str, Keyed.Sorted])

theorem Mount.canonical_toJson (m : Mount) : m.toJson.Canonical :=
  canonical_obj_of_names ["mountPath", "name"] rfl (by decide) (by simp [canonical_str])

theorem InitContainer.canonical_toJson (c : InitContainer) : c.toJson.Canonical := by
  have quantities (cpu memory : String) : (Json.obj [("cpu", .str cpu), ("memory", .str memory)]).Canonical :=
    canonical_obj_of_names ["cpu", "memory"] rfl (by decide) (by simp [canonical_str])
  have resources : (Json.obj [("limits", .obj [("cpu", .str "2"), ("memory", .str "1Gi")]),
      ("requests", .obj [("cpu", .str "100m"), ("memory", .str "128Mi")])]).Canonical :=
    canonical_obj_of_names ["limits", "requests"] rfl (by decide) (by simp [quantities])
  exact canonical_obj_of_names ["args", "command", "image", "name", "resources", "volumeMounts"] rfl (by decide)
    (by simp [canonical_arr_iff, canonical_str, canonical_strings, resources, Mount.canonical_toJson])

namespace Injection

open Json

/-- A list of canonical entries. -/
def AllCanonical (entries : List Json) : Prop := ∀ entry ∈ entries, entry.Canonical

namespace AllCanonical

variable {entries : List Json}

theorem append {others : List Json} (h : AllCanonical entries) (more : AllCanonical others) :
    AllCanonical (entries ++ others) :=
  List.forall_mem_append.mpr ⟨h, more⟩

theorem of_subset {others : List Json} (h : AllCanonical entries) (sub : others ⊆ entries) : AllCanonical others :=
  fun entry member => h entry (sub member)

theorem rename {entry : Json} (h : entry.Canonical) (name : String) : (Injection.rename name entry).Canonical := by
  cases entry with
  | obj members => exact h.insert rfl
  | _ => exact h

theorem expandFirst {name : String} {f : Json → List Json} (each : ∀ entry, entry.Canonical → AllCanonical (f entry))
    (h : AllCanonical entries) : AllCanonical (Injection.expandFirst name f entries) := by
  induction entries with
  | nil => exact nofun
  | cons entry rest ih =>
    obtain ⟨first, rest⟩ := List.forall_mem_cons.mp h
    unfold Injection.expandFirst
    split
    · exact (each entry first).append rest
    · exact List.forall_mem_cons.mpr ⟨first, ih rest⟩

theorem set {name : String} {value : Json} (h : AllCanonical entries) (new : value.Canonical) :
    AllCanonical (Env.set entries name value) := by
  have value : AllCanonical [value] := by simpa [AllCanonical] using new
  unfold Env.set
  split
  · exact expandFirst (fun entry old => List.forall_mem_cons.mpr ⟨rename old _, value⟩)
      (h.of_subset List.filter_sublist.subset)
  · exact h.append value

theorem preserve (h : AllCanonical entries) (name : String) : AllCanonical (Env.preserve entries name) := by
  unfold Env.preserve
  split
  · exact h
  · exact expandFirst (fun entry old => by simpa [AllCanonical] using ⟨rename old _, old⟩) h

theorem restore (h : AllCanonical entries) (injected : Bool) (name : String) :
    AllCanonical (Env.restore injected entries name) := by
  have erased (other : String) : AllCanonical (entries.eraseP (named other)) := h.of_subset List.eraseP_subset
  unfold Env.restore
  split
  · split
    · rename_i backup found
      have renamed := rename (h backup (List.mem_of_find?_eq_some found)) name
      exact expandFirst (fun _ _ => by simpa [AllCanonical] using renamed) (erased _)
    · split
      · exact erased name
      · exact h
  · exact h

/-- What each step of a fold keeps canonical, the fold does. -/
theorem foldl {α : Type} {op : List Json → α → List Json} {steps : List α}
    (each : ∀ step ∈ steps, ∀ env, AllCanonical env → AllCanonical (op env step)) (h : AllCanonical entries) :
    AllCanonical (steps.foldl op entries) := by
  induction steps generalizing entries with
  | nil => exact h
  | cons step rest ih =>
    exact ih (fun step member => each step (List.mem_cons_of_mem _ member)) (each step List.mem_cons_self _ h)

theorem revertEnv (h : AllCanonical entries) (injected : Bool) : AllCanonical (Injection.revertEnv injected entries) :=
  (h.foldl fun name _ _ env => env.restore injected name).of_subset List.filter_sublist.subset

end AllCanonical

/-- The variables that an injection leaves are canonical if those that it met were; what it adds always is. -/
theorem AllCanonical.injectEnv {env : List Json} (h : AllCanonical env) (load : Load) :
    AllCanonical (Injection.injectEnv load env) := by
  have isSet : AllCanonical (load.env.foldl (fun env var => Env.set env var.name var.toJson) env) :=
    h.foldl fun var _ _ env => env.set var.canonical_toJson
  have isKept : AllCanonical (load.untouched.foldl Env.preserve
      (load.env.foldl (fun env var => Env.set env var.name var.toJson) env)) :=
    isSet.foldl fun name _ _ env => env.preserve name
  unfold Injection.injectEnv
  simp only
  split
  · exact isKept
  · exact isKept.append (List.forall_mem_singleton.mpr (EnvVar.canonical_toJson _))

theorem canonical_of_shrink {f : List Json → List Json} {member : Option Json} {value : Json}
    (eq : shrink f member = some value) (each : ∀ value, member = some value → value.Canonical)
    (kept : AllCanonical (listed member) → AllCanonical (f (listed member))) : value.Canonical := by
  unfold shrink at eq
  split at eq
  · split at eq
    · cases eq
    · cases eq
      exact canonical_arr_iff.mpr (kept (canonical_listed each))
  · exact each value eq

theorem canonical_of_grow {f : List Json → List Json} {member : Option Json} {value : Json}
    (eq : grow f member = some value) (each : ∀ value, member = some value → value.Canonical)
    (kept : AllCanonical (listed member) → AllCanonical (f (listed member))) : value.Canonical := by
  cases eq
  exact canonical_arr_iff.mpr (kept (canonical_listed each))

variable {load : Load}

/-- Everything in a load is canonical. -/
structure Load.Canonical (load : Load) : Prop where
  initContainers : AllCanonical load.initContainers
  volumes : AllCanonical load.volumes
  mounts : AllCanonical load.mounts

theorem Load.canonical {resource : Instrumentation} {pod : PodIdentity} {platforms : List Platform}
    {cluster : ClusterIdentity} (made : Load.make resource pod platforms cluster = .ok load) : load.Canonical := by
  obtain ⟨_, _, _, _, _, _, _, initContainers, volumes, mounts, _⟩ := Load.make_eq_ok made
  refine ⟨initContainers ▸ ?_, volumes ▸ ?_, mounts ▸ ?_⟩
  · exact List.forall_mem_map.mpr fun c _ => c.canonical_toJson
  · exact List.forall_mem_map.mpr fun v _ => v.canonical_toJson
  · exact List.forall_mem_map.mpr fun m _ => m.canonical_toJson

theorem AllCanonical.unnamed {entries : List Json} (h : AllCanonical entries) (names : List String) :
    AllCanonical (Injection.unnamed names entries) :=
  h.of_subset List.filter_sublist.subset

theorem canonical_revertContainer {container : Json} (h : container.Canonical) (injected : Bool) :
    (revertContainer injected container).Canonical := by
  cases container with
  | obj members =>
    rw [revertContainer_obj h.sorted]
    have env : (Json.obj (Keyed.alter "env" (shrink (revertEnv injected)) members)).Canonical :=
      h.alter fun _ eq => canonical_of_shrink eq (fun _ => h.get?) fun env => env.revertEnv injected
    exact env.alter fun _ eq => canonical_of_shrink eq (fun _ => env.get?) fun mounts => mounts.unnamed _
  | _ => exact h

theorem canonical_injectContainer (canonical : load.Canonical) {container result : Json} (h : container.Canonical)
    (run : injectContainer load container = .ok result) : result.Canonical := by
  obtain ⟨members, rfl, _, _, rfl⟩ := injectContainer_eq_ok_iff.mp run
  have env : (Json.obj (Keyed.alter "env" (grow (injectEnv load)) members)).Canonical :=
    h.alter fun _ eq => canonical_of_grow eq (fun _ => h.get?) fun env => env.injectEnv load
  exact env.alter fun _ eq => canonical_of_grow eq (fun _ => env.get?) fun mounts => mounts.append canonical.mounts

theorem canonical_injectContainers (canonical : load.Canonical) {containers results : List Json}
    (h : AllCanonical containers) (run : injectContainers load containers = .ok results) :
    AllCanonical results := by
  intro result member
  obtain ⟨container, there, one⟩ := exists_injectContainer run result member
  exact canonical_injectContainer canonical (h container there) one

theorem canonical_revertPod {pod : Members} (h : (Json.obj pod).Canonical) (injected : Bool) :
    (Json.obj (revertPod injected pod)).Canonical := by
  rw [revertPod_eq h.sorted]
  have inits : (Json.obj (pod.alter "initContainers" (shrink (unnamed Fragment.reservedInitContainers)))).Canonical :=
    h.alter fun _ eq => canonical_of_shrink eq (fun _ => h.get?) fun entries => entries.unnamed _
  refine (inits.alter fun _ eq => canonical_of_shrink eq (fun _ => inits.get?) fun entries =>
    entries.unnamed _).alter_map fun value canonical => ?_
  cases value with
  | arr containers =>
    exact canonical_arr_iff.mpr (List.forall_mem_map.mpr fun container member =>
      canonical_revertContainer (canonical.item container member) injected)
  | _ => exact canonical

theorem canonical_injectPod (canonical : load.Canonical) {pod result : Members} (h : (Json.obj pod).Canonical)
    (listable : Listable (Keyed.get? "containers" pod)) (run : injectPod load pod = .ok result) :
    (Json.obj result).Canonical := by
  obtain ⟨_, _, injected, each, rfl⟩ := (injectPod_eq_ok_iff_of_listable listable).mp run
  have volumes : (Json.obj (pod.alter "volumes" (grow (· ++ load.volumes)))).Canonical :=
    h.alter fun _ eq => canonical_of_grow eq (fun _ => h.get?) fun entries => entries.append canonical.volumes
  have lists : (Json.obj (Keyed.alter "initContainers" (grow (· ++ load.initContainers))
      (pod.alter "volumes" (grow (· ++ load.volumes))))).Canonical :=
    volumes.alter fun _ eq => canonical_of_grow eq (fun _ => volumes.get?) fun entries =>
      entries.append canonical.initContainers
  have containers := canonical_injectContainers canonical (canonical_listed fun _ => h.get?) each
  exact lists.alter_map fun _ _ => canonical_arr_iff.mpr containers

theorem canonical_revertAnnotations {annotations : Members} (h : (Json.obj annotations).Canonical) (injected : Bool) :
    (Json.obj (revertAnnotations injected annotations)).Canonical := by
  have rest := h.erase Convention.stateAnnotation
  unfold revertAnnotations
  cases injected with
  | false => exact rest
  | true =>
    simp only [if_true]
    split
    · rename_i own found
      exact ((rest.erase _).erase _).insert (rest.get? found)
    · exact rest.erase _

theorem canonical_injectAnnotations {annotations : Members} (h : (Json.obj annotations).Canonical) (load : Load) :
    (Json.obj (injectAnnotations load annotations)).Canonical := by
  have withShadow : (Json.obj (shadowed annotations)).Canonical := by
    unfold shadowed
    split
    · rename_i own found
      split
      · exact h
      · exact h.insert (h.get? found)
    · exact h
  rw [injectAnnotations_eq]
  cases load.logsExcluded with
  | none => exact withShadow.insert (canonical_str _)
  | some excluded => exact (withShadow.insert (canonical_str _)).insert (canonical_str _)

theorem canonical_revertMetadata {template : Members} (h : (Json.obj template).Canonical) (injected : Bool) :
    (Json.obj (revertMetadata injected template)).Canonical := by
  unfold revertMetadata
  split
  · rename_i metadata found
    have metadataCanonical := h.get? found
    split
    · rename_i annotations inside
      have reverted := canonical_revertAnnotations (metadataCanonical.get? inside) injected
      simp only
      split
      · split
        · exact h.erase _
        · exact h.insert (metadataCanonical.erase _)
      · exact h.insert (metadataCanonical.insert reverted)
    · exact h
  · exact h

theorem canonical_annotations {template : Members} (h : (Json.obj template).Canonical) :
    (Json.obj (mapped (Keyed.get? "annotations" (mapped (Keyed.get? "metadata" template))))).Canonical := by
  have metadata : (Json.obj (mapped (Keyed.get? "metadata" template))).Canonical := canonical_mapped fun _ => h.get?
  exact canonical_mapped fun _ => metadata.get?

theorem canonical_annotate {template : Members} (h : (Json.obj template).Canonical) (load : Load) :
    (Json.obj (Keyed.alter "metadata" (annotate load) template)).Canonical := by
  have metadata : (Json.obj (mapped (Keyed.get? "metadata" template))).Canonical := canonical_mapped fun _ => h.get?
  have annotations := canonical_annotations h
  refine h.alter fun _ made => ?_
  cases made
  refine metadata.alter fun _ made => ?_
  cases made
  exact canonical_injectAnnotations annotations load

variable {object : Json} {l : Layers}

theorem Layers.canonical (ok : layers object = .ok l) (canonical : object.Canonical) :
    (Json.obj l.template).Canonical ∧ (Json.obj l.pod).Canonical := by
  obtain ⟨rfl, atSpec, atTemplate, atPod, _⟩ := layers_eq_ok_iff.mp ok
  have template := (canonical.get? atSpec).get? atTemplate
  exact ⟨template, template.get? atPod⟩

theorem Layers.canonical_withTemplate (ok : layers object = .ok l) (canonical : object.Canonical)
    {template : Members} (new : (Json.obj template).Canonical) : (l.withTemplate template).Canonical := by
  obtain ⟨rfl, atSpec, _, _, _⟩ := layers_eq_ok_iff.mp ok
  exact canonical.insert ((canonical.get? atSpec).insert new)

theorem canonical_reverted (ok : layers object = .ok l) (canonical : object.Canonical) (injected : Bool) :
    (Json.obj (l.reverted injected)).Canonical := by
  obtain ⟨template, pod⟩ := Layers.canonical ok canonical
  exact (canonical_revertMetadata template injected).insert (canonical_revertPod pod injected)

/-- A successful call leaves a canonical value, if it was given one. Each step of an injection and of a reversal keeps
the names of all objects in order. -/
theorem canonical_mutate (canonical : object.Canonical) {g : Governing} {state : Option InjectionState}
    (run : (mutate object g).outcome = .ok state) : (mutate object g).object.Canonical := by
  obtain ⟨l, ok⟩ := layers_of_mutate run
  have reverted := canonical_reverted ok canonical (isInjected object)
  obtain ⟨_, pod⟩ := Layers.canonical ok canonical
  obtain ⟨_, _, _, _, listable⟩ := layers_eq_ok_iff.mp ok
  rw [mutate_of_layers ok] at run ⊢
  cases state with
  | none =>
    rw [Layers.resume_idle (Layers.idle_of_resume run)]
    exact Layers.canonical_withTemplate ok canonical reverted
  | some state =>
    obtain ⟨_, load, result, _, _, made, injected, eq⟩ := Layers.resume_eq_some run
    obtain ⟨_, _, _, podRun, rfl⟩ := (injectTemplate_eq_ok_iff (l.get?_spec_reverted _)).mp injected
    have injectedPod := canonical_injectPod (Load.canonical made) (canonical_revertPod pod _)
      (listable_revertPod listable) podRun
    rw [eq]
    exact Layers.canonical_withTemplate ok canonical ((canonical_annotate reverted load).insert injectedPod)

end Injection

end Graft
