import Graft.Cleanup
import Graft.Proofs.Bookkeeping
import Graft.Proofs.Readmission
import Graft.Proofs.Run
import Graft.Proofs.WorkloadReading

namespace Graft

open Json

namespace Injection

theorem exists_members {key : String} {member : Option Json} {inner : Json}
    (there : Keyed.get? key (mapped member) = some inner) : ∃ members, member = some (.obj members) := by
  cases member with
  | none => cases there
  | some value =>
    cases value with
    | obj members => exact ⟨members, rfl⟩
    | _ => cases there

/-- An object with the state annotation has maps for its parents. -/
theorem annotatable_of_annotation {object value : Json} {l : Layers} (ok : layers object = .ok l)
    (noted : InjectionState.annotation? object = some value) : Annotatable object := by
  obtain ⟨annotations, found⟩ := exists_members ((annotation?_eq ok).symm.trans noted)
  obtain ⟨metadata, outer⟩ := exists_members found
  exact (annotatable_iff ok).mpr ⟨.inr ⟨metadata, outer⟩, .inr ⟨annotations, found⟩⟩

/-- The object is what a run of calls on a clean one has made of it, of which the last injected. There may be any number
of them, for any platforms that they do not repeat. -/
def InjectedInto (initial object : Json) : Prop := ∃ injected earlier g state, Reach initial injected earlier ∧
  g.platforms.Nodup ∧ (mutate earlier g).outcome = .ok (some state) ∧ object = (mutate earlier g).object

variable {initial object : Json} {injected : Bool}

theorem Reach.canonical (reach : Reach initial injected object) (canonical : initial.Canonical) :
    object.Canonical := by
  induction reach with
  | start => exact canonical
  | next _ _ run ih => exact canonical_mutate ih run

theorem Clean.needsCleanup_eq_false (clean : Clean object) : needsCleanup object = false := by
  rw [needsCleanup, clean.state, clean.not_injected]
  rfl

namespace InjectedInto

theorem needsCleanup (into : InjectedInto initial object) : Injection.needsCleanup object = true := by
  obtain ⟨_, earlier, g, state, _, _, run, rfl⟩ := into
  rw [Injection.needsCleanup, annotation?_mutate_injected run]
  rfl

theorem canonical (into : InjectedInto initial object) (clean : Clean initial) : object.Canonical := by
  obtain ⟨_, earlier, g, state, reach, _, run, rfl⟩ := into
  exact canonical_mutate (reach.canonical clean.canonical) run

/-- A call without a resource takes the injection back, whatever else it knows of the pod and the cluster. -/
theorem mutate_eq (into : InjectedInto initial object) (clean : Clean initial) {g : Governing}
    (none : g.resource = none) : mutate object g = ⟨trimmed initial, .ok Option.none⟩ := by
  obtain ⟨_, earlier, injecting, state, reach, nodup, run, rfl⟩ := into
  rw [(reach.next nodup run).mutate_eq clean g, Option.isSome_some, Bool.or_true]
  exact clean.trimmed.mutate_idle (.inl none)

/-- The patch of that call applies, and what it leaves is the initial object without its empty lists and maps. -/
theorem exists_patch (into : InjectedInto initial object) (clean : Clean initial) {g : Governing}
    (none : g.resource = none) : ∃ patch, Injection.patch object g = .ok patch ∧
      patch.perform? object = some (trimmed initial) := by
  have reverted := into.mutate_eq clean none
  have run : (mutate object g).outcome = .ok Option.none := congrArg Mutation.outcome reverted
  obtain ⟨_, earlier, injecting, state, _, _, injectedRun, rfl⟩ := into
  obtain ⟨l, ok⟩ := exists_layers_mutate injectedRun
  have annotatable := annotatable_of_annotation ok (annotation?_mutate_injected injectedRun)
  obtain ⟨prepared, found⟩ := Option.isSome_iff_exists.mp ((isSome_prepare_iff ok Option.none).mpr annotatable)
  refine ⟨_, patch_eq_ok_iff.mpr ⟨Option.none, run, rfl⟩, ?_⟩
  rw [Patch.perform?_append_replace, found, reverted]
  rfl

end InjectedInto

end Injection

namespace Cleanup

/-- The namespace and the name under which an object is known, empty if it has none. -/
def keyOf (object : Json) : String × String :=
  let text (field : String) := ((object.path? ["metadata", field]).bind str?).getD ""
  (text "namespace", text "name")

/-- Objects of a cluster, and the keys of the patches that it has applied. -/
structure Cluster where
  objects : List Json
  patched : List (String × String) := []

/-- Applies a patch to the object with a key. -/
def patchNamed (key : String × String) (patch : Json.Patch) : List Json → Option (List Json)
  | [] => none
  | object :: rest =>
    if keyOf object = key then (patch.perform? object).map (· :: rest)
    else (patchNamed key patch rest).map (object :: ·)

/-- Objects that cannot be read and patches that do not apply stay without an answer. -/
def Cluster.answer : (call : Call) → Cluster → Option (Reply call) × Cluster
  | .list, c => ((c.objects.mapM Workload.ofJson?).map .ok, c)
  | .patch ns name patch, c =>
    match patchNamed (ns, name) patch c.objects with
    | some objects => (some (.ok ()), ⟨objects, c.patched ++ [(ns, name)]⟩)
    | none => (none, c)

/-- The job on a cluster. -/
def cleanUp (identity : ClusterIdentity) (c : Cluster) : Option (Except Error Nat) × Cluster :=
  let (result, course) := (run identity).run Cluster.answer (fun _ => default) { state := c }
  (result, course.state)

/-- A workload, and the object that it was before it was injected, if it was. The job knows only the first. -/
structure Deployment where
  object : Json
  initial : Option Json

namespace Deployment

def key (d : Deployment) : String × String := keyOf d.object

/-- What the job makes of it. -/
def restored (d : Deployment) : Json :=
  match d.initial with
  | none => d.object
  | some initial => Injection.trimmed initial

structure Sound (d : Deployment) : Prop where
  normal : Admission.Normal d.object
  named : d.key.2 ≠ ""
  clean : d.initial = none → Injection.Clean d.object
  injected : ∀ initial, d.initial = some initial →
    Injection.Clean initial ∧ Injection.InjectedInto initial d.object

namespace Sound

variable {d : Deployment}

theorem exists_read (sound : d.Sound) : ∃ w, Workload.ofJson? d.object = some w ∧ w.toJson = d.object :=
  Option.map_eq_some_iff.mp sound.normal

/-- A call that takes the injection back changes the specification at most. -/
theorem exists_spec (sound : d.Sound) {initial : Json} (has : d.initial = some initial) :
    ∃ members spec, d.object = .obj members ∧ spec.Canonical ∧
      Injection.trimmed initial = .obj (Keyed.replace "spec" spec members) := by
  obtain ⟨clean, into⟩ := sound.injected initial has
  have reverted := into.mutate_eq (g := {}) clean rfl
  have run : (Injection.mutate d.object {}).outcome = .ok none := congrArg Injection.Mutation.outcome reverted
  obtain ⟨members, spec, eq, canonical, _, result⟩ := Injection.exists_spec (into.canonical clean) run
  rw [reverted] at result
  exact ⟨members, spec, eq, canonical, result⟩

end Sound

end Deployment

theorem keyOf_toJson (w : Workload) : keyOf w.toJson = (nsOf w, nameOf w) := by
  obtain ⟨name, ns, _⟩ := w.texts_toJson
  simp only [keyOf, name, ns, nsOf, nameOf]

namespace Deployment.Sound

variable {d : Deployment}

/-- What the job leaves can be read again, under the same key. -/
theorem restored (sound : d.Sound) : Sound ⟨d.restored, none⟩ ∧ keyOf d.restored = d.key := by
  cases has : d.initial with
  | none =>
    have same : d.restored = d.object := by rw [Deployment.restored, has]
    rw [same]
    exact ⟨⟨sound.normal, sound.named, fun _ => sound.clean has, nofun⟩, rfl⟩
  | some initial =>
    have same : d.restored = Injection.trimmed initial := by rw [Deployment.restored, has]
    obtain ⟨w, read, written⟩ := sound.exists_read
    obtain ⟨members, spec, eq, canonical, result⟩ := sound.exists_spec has
    rw [eq] at read written
    obtain ⟨readAgain, writtenAgain⟩ := Admission.reread read written canonical
    have key : keyOf d.restored = d.key := by
      rw [same, result, ← writtenAgain, keyOf_toJson, key, eq, ← written, keyOf_toJson]
      rfl
    refine ⟨⟨?_, ?_, ?_, nofun⟩, key⟩
    · rw [same, result, Admission.Normal, readAgain]
      exact congrArg some writtenAgain
    · exact (congrArg Prod.snd key).trans_ne sound.named
    · intro _
      rw [same]
      exact (sound.injected initial has).1.trimmed

variable (identity : ClusterIdentity) {w : Workload}

theorem reversal_clean (sound : d.Sound) (clean : d.initial = none) (written : w.toJson = d.object) :
    reversal identity w = .ok none := by
  have nothing := (sound.clean clean).needsCleanup_eq_false
  rw [reversal, written]
  exact if_neg (Bool.eq_false_iff.mp nothing)

theorem exists_reversal (sound : d.Sound) {initial : Json} (has : d.initial = some initial)
    (written : w.toJson = d.object) : ∃ patch, reversal identity w = .ok (some patch) ∧
      patch.perform? d.object = some d.restored := by
  obtain ⟨clean, into⟩ := sound.injected initial has
  have named : nameOf w ≠ "" := by
    have same : nameOf w = d.key.2 := by rw [key, ← written, keyOf_toJson]
    exact same ▸ sound.named
  obtain ⟨patch, made, applies⟩ := into.exists_patch clean
    (g := { pod := PodIdentity.ofObject d.object (some (nsOf w)), cluster := identity }) rfl
  refine ⟨patch, ?_, ?_⟩
  · simp only [reversal, written, into.needsCleanup, if_true, if_neg named, made]
    rfl
  · rw [applies, Deployment.restored, has]

end Deployment.Sound

/-- A patch reaches the first object with its key, and leaves the objects before and after it alone. -/
theorem patchNamed_append {key : String × String} {patch : Json.Patch} {done rest : List Json} {object result : Json}
    (others : ∀ other ∈ done, keyOf other ≠ key) (here : keyOf object = key)
    (applies : patch.perform? object = some result) :
    patchNamed key patch (done ++ object :: rest) = some (done ++ result :: rest) := by
  induction done with
  | nil => simp [patchNamed, here, applies]
  | cons first between ih =>
    have other := others first List.mem_cons_self
    have later := ih fun object there => others object (List.mem_cons_of_mem _ there)
    simp [patchNamed, other, later]

section

variable (identity : ClusterIdentity) (jitter : Nat → Jitter)

/-- One workload is reverted in its place, or left there if it was not injected, and nothing waits or fails on the
way. -/
theorem run_revert {d : Deployment} (sound : d.Sound) {w : Workload} (written : w.toJson = d.object)
    {done : List Json} (rest : List Json) (others : ∀ object ∈ done, keyOf object ≠ d.key)
    (patched : List (String × String)) (h : Heartbeat) (pauses : List Duration) : ∃ h',
      (revert identity w).run Cluster.answer jitter ⟨⟨done ++ d.object :: rest, patched⟩, h, pauses⟩ =
        (some (.ok d.initial.isSome), ⟨⟨done ++ d.restored :: rest,
          patched ++ if d.initial.isSome then [d.key] else []⟩, h', pauses⟩) := by
  cases has : d.initial with
  | none =>
    have same : d.restored = d.object := by rw [Deployment.restored, has]
    refine ⟨h, ?_⟩
    simp [revert, sound.reversal_clean identity has written, same]
  | some initial =>
    obtain ⟨patch, made, applies⟩ := sound.exists_reversal identity has written
    have key : (nsOf w, nameOf w) = d.key := by rw [Deployment.key, ← written, keyOf_toJson]
    have reached : patchNamed d.key patch (done ++ d.object :: rest) = some (done ++ d.restored :: rest) :=
      patchNamed_append others rfl applies
    refine ⟨h.count .cleanedWorkloads, ?_⟩
    have answered : Cluster.answer (.patch (nsOf w) (nameOf w) patch) ⟨done ++ d.object :: rest, patched⟩ =
        (some (.ok ()), ⟨done ++ d.restored :: rest, patched ++ [d.key]⟩) := by
      rw [Cluster.answer, key, reached]
    simp only [revert, made, Dialogue.run, answered]
    rfl

/-- All workloads are, one after another. By induction over those that are left; the ones behind are done and have other
keys. -/
theorem run_revertAll {deployments : List Deployment} (sound : ∀ d ∈ deployments, d.Sound)
    (distinct : (deployments.map Deployment.key).Nodup) {workloads : List Workload}
    (written : workloads.map Workload.toJson = deployments.map Deployment.object) (done : List Json)
    (others : ∀ d ∈ deployments, ∀ object ∈ done, keyOf object ≠ d.key) (patched : List (String × String))
    (h : Heartbeat) (pauses : List Duration) : ∃ h',
      (revertAll identity workloads).run Cluster.answer jitter
          ⟨⟨done ++ deployments.map Deployment.object, patched⟩, h, pauses⟩ =
        (some (deployments.countP fun d => d.initial.isSome), ⟨⟨done ++ deployments.map Deployment.restored,
          patched ++ (deployments.filter fun d => d.initial.isSome).map Deployment.key⟩, h', pauses⟩) := by
  induction deployments generalizing workloads done patched h with
  | nil =>
    cases List.map_eq_nil_iff.mp written
    exact ⟨h, by simp [revertAll]⟩
  | cons d rest ih =>
    obtain ⟨w, others', rfl, writtenHere, writtenLater⟩ := List.map_eq_cons_iff.mp written
    obtain ⟨fresh, distinctLater⟩ := List.nodup_cons.mp distinct
    obtain ⟨h₁, first⟩ := run_revert identity jitter (sound d List.mem_cons_self) writtenHere
      (rest.map Deployment.object) (others d List.mem_cons_self) patched h pauses
    have othersLater : ∀ e ∈ rest, ∀ object ∈ done ++ [d.restored], keyOf object ≠ e.key := by
      intro e member object there
      rcases List.mem_append.mp there with before | here
      · exact others e (List.mem_cons_of_mem _ member) object before
      · rw [List.mem_singleton.mp here, (sound d List.mem_cons_self).restored.2]
        exact fun same => fresh (same ▸ List.mem_map_of_mem member)
    obtain ⟨h₂, later⟩ := ih (fun e member => sound e (List.mem_cons_of_mem _ member)) distinctLater writtenLater
      (done ++ [d.restored]) othersLater (patched ++ if d.initial.isSome then [d.key] else []) h₁
    refine ⟨h₂, ?_⟩
    rw [revertAll, Dialogue.run_bind, List.map_cons, first]
    simp only [Dialogue.run_bind]
    rw [List.append_cons, later]
    cases has : d.initial <;> simp [has]

end

theorem mapM_read {deployments : List Deployment} (sound : ∀ d ∈ deployments, d.Sound) :
    ∃ workloads, (deployments.map Deployment.object).mapM Workload.ofJson? = some workloads ∧
      workloads.map Workload.toJson = deployments.map Deployment.object := by
  induction deployments with
  | nil => exact ⟨[], rfl, rfl⟩
  | cons d rest ih =>
    obtain ⟨w, read, written⟩ := (sound d List.mem_cons_self).exists_read
    obtain ⟨workloads, later, writtenLater⟩ := ih fun e member => sound e (List.mem_cons_of_mem _ member)
    exact ⟨w :: workloads, by simp [List.mapM_cons, read, later], by simp [written, writtenLater]⟩

/-- What the job makes of a cluster. -/
theorem cleanUp_eq {deployments : List Deployment} (sound : ∀ d ∈ deployments, d.Sound)
    (distinct : (deployments.map Deployment.key).Nodup) (identity : ClusterIdentity) :
    cleanUp identity { objects := deployments.map Deployment.object } =
      (some (.ok (deployments.countP fun d => d.initial.isSome)),
        ⟨deployments.map Deployment.restored, (deployments.filter fun d => d.initial.isSome).map Deployment.key⟩) := by
  obtain ⟨workloads, read, written⟩ := mapM_read sound
  obtain ⟨h, reverted⟩ := run_revertAll identity (fun _ => default) sound distinct written []
    (fun _ _ _ none => absurd none List.not_mem_nil) [] {} []
  rw [List.nil_append, List.nil_append, List.nil_append] at reverted
  have listed : Cluster.answer .list { objects := deployments.map Deployment.object } =
      (some (.ok workloads), { objects := deployments.map Deployment.object }) := by
    rw [Cluster.answer, read]
    rfl
  simp only [cleanUp, run, Dialogue.run, listed, Dialogue.run_bind, reverted]

/-- The job turns each workload that was injected into what it was before, up to empty lists and maps, counts those,
and patches no other. The same job, or another, has nothing to do after that. Each workload either is one that
nothing has touched or was injected by such calls, and no two have one name in one namespace; every patch that
applies is applied. -/
theorem cleanUp_restores {deployments : List Deployment} (sound : ∀ d ∈ deployments, d.Sound)
    (distinct : (deployments.map Deployment.key).Nodup) (identity again : ClusterIdentity) :
    cleanUp identity { objects := deployments.map Deployment.object } =
      (some (.ok (deployments.countP fun d => d.initial.isSome)),
        ⟨deployments.map Deployment.restored, (deployments.filter fun d => d.initial.isSome).map Deployment.key⟩) ∧
    cleanUp again { objects := deployments.map Deployment.restored } =
      (some (.ok 0), { objects := deployments.map Deployment.restored }) := by
  refine ⟨cleanUp_eq sound distinct identity, ?_⟩
  -- What the job leaves is a cluster of clean workloads.
  let cleaned : Deployment → Deployment := fun d => ⟨d.restored, none⟩
  have objects : (deployments.map cleaned).map Deployment.object = deployments.map Deployment.restored := by
    simp [cleaned]
  have same : (deployments.map cleaned).map Deployment.restored = deployments.map Deployment.restored := by
    simp [cleaned, Deployment.restored]
  have keys : (deployments.map cleaned).map Deployment.key = deployments.map Deployment.key := by
    rw [List.map_map]
    exact List.map_congr_left fun d member => (sound d member).restored.2
  have soundCleaned : ∀ d ∈ deployments.map cleaned, d.Sound :=
    List.forall_mem_map.mpr fun d member => (sound d member).restored.1
  have second := cleanUp_eq soundCleaned (keys ▸ distinct) again
  rw [objects, same] at second
  rw [second]
  simp [cleaned]

/-- A deployment of the same pods under another name, with an empty list. -/
def shopDeployment : Json := .obj [
  ("apiVersion", .str "apps/v1"),
  ("kind", .str Admission.supportedKind),
  ("metadata", .obj [("name", .str "shop"), ("namespace", .str "apps")]),
  ("spec", .obj [("template", .obj [("spec", .obj [
    ("containers", .arr [.obj [("env", .arr []), ("name", .str "main")]])])])])]

/-- The deployment after two injections. -/
def injectedShop : Json := (Injection.mutate (Injection.mutate shopDeployment (Injection.governing [.java])).object
  (Injection.governing [.nodeJs])).object

theorem injected_shop_restored :
    cleanUp {} { objects := [Admission.webDeployment, injectedShop] } =
      (some (.ok 1), ⟨[Admission.webDeployment, Injection.trimmed shopDeployment], [("apps", "shop")]⟩) ∧
    cleanUp {} { objects := [Admission.webDeployment, Injection.trimmed shopDeployment] } =
      (some (.ok 0), { objects := [Admission.webDeployment, Injection.trimmed shopDeployment] }) := by
  have web : Deployment.Sound ⟨Admission.webDeployment, none⟩ := ⟨rfl, by decide, fun _ => by decide, nofun⟩
  have shop : Deployment.Sound ⟨injectedShop, some shopDeployment⟩ := by
    refine ⟨rfl, by decide, nofun, fun initial has => ?_⟩
    cases has
    have first := @Injection.Reach.next shopDeployment false shopDeployment (Injection.governing [.java])
      (some ⟨"default", "", [.java]⟩) .start (by decide) rfl
    exact ⟨by decide, _, _, Injection.governing [.nodeJs], ⟨"default", "", [.nodeJs]⟩, first, by decide, rfl, rfl⟩
  exact @cleanUp_restores [⟨Admission.webDeployment, none⟩, ⟨injectedShop, some shopDeployment⟩] (by simp [web, shop])
    (by decide) {} {}

end Cleanup

end Graft
