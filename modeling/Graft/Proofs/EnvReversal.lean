import Graft.Proofs.Catalog

namespace Graft.Injection

theorem named_markerEntry : named Convention.marker markerEntry = true := named_toJson _

/-- The changes that an injection makes to the variables of a container, in order. -/
def Load.steps (load : Load) : List (String × Option Json) :=
  load.env.map (fun var => (var.name, some var.toJson)) ++ load.untouched.map fun name => (name, none)

theorem Load.steps_proper (load : Load) : ∀ step ∈ load.steps, Env.Proper step := by
  intro step member value eq
  rcases List.mem_append.mp member with isSet | isKept
  · obtain ⟨var, _, rfl⟩ := List.mem_map.mp isSet
    cases eq
    exact named_toJson var
  · obtain ⟨name, _, rfl⟩ := List.mem_map.mp isKept
    cases eq

theorem Load.steps_names (load : Load) : load.steps.map Prod.fst = load.env.map EnvVar.name ++ load.untouched := by
  simp [steps, Function.comp_def]

theorem Load.mem_untouched_iff {load : Load} {name : String} :
    name ∈ load.untouched ↔ name ∈ Fragment.reservedEnv ∧ name ∉ load.env.map EnvVar.name := by
  simp [untouched, List.mem_filter]

theorem Load.steps_reserved {load : Load} (reserved : ∀ var ∈ load.env, var.name ∈ Fragment.reservedEnv) :
    ∀ step ∈ load.steps, step.1 ∈ Fragment.reservedEnv := by
  intro step member
  have inNames : step.1 ∈ load.steps.map Prod.fst := List.mem_map_of_mem member
  rw [steps_names] at inNames
  rcases List.mem_append.mp inNames with isSet | isKept
  · obtain ⟨var, here, eq⟩ := List.mem_map.mp isSet
    exact eq ▸ reserved var here
  · exact (mem_untouched_iff.mp isKept).1

/-- Every reserved variable is set or kept, and none twice. That a variable is kept counts as a step, since it may get a
backup. -/
theorem Load.Reversible.steps_perm {load : Load} (h : load.Reversible) :
    (load.steps.map Prod.fst).Perm Fragment.reservedEnv := by
  have untouched : load.untouched.Nodup := Fragment.reservedEnv_nodup.filter _
  have nodup : (load.steps.map Prod.fst).Nodup := by
    rw [steps_names]
    refine List.nodup_append.mpr ⟨h.env, untouched, ?_⟩
    rintro name isSet other isKept rfl
    exact (mem_untouched_iff.mp isKept).2 isSet
  refine (List.perm_ext_iff_of_nodup nodup Fragment.reservedEnv_nodup).mpr fun name => ?_
  rw [steps_names, List.mem_append, mem_untouched_iff]
  constructor
  · rintro (isSet | ⟨reserved, _⟩)
    · obtain ⟨var, here, rfl⟩ := List.mem_map.mp isSet
      exact h.reserved var here
    · exact reserved
  · intro reserved
    by_cases isSet : name ∈ load.env.map EnvVar.name
    · exact .inl isSet
    · exact .inr ⟨reserved, isSet⟩

theorem primary_reserved : Env.Primary Fragment.reservedEnv := fun a ha b hb =>
  Fragment.reservedEnv_primary a (List.mem_cons_of_mem _ ha) b (List.mem_cons_of_mem _ hb)

/-- The marker stands where it stood before the changes, if anywhere. -/
theorem Load.ignores_marker {load : Load} (reserved : ∀ var ∈ load.env, var.name ∈ Fragment.reservedEnv) :
    Env.Ignores (load.steps.foldl Env.change ·) Convention.marker :=
  (Env.ignores_steps load.steps Fragment.reservedEnv_primary load.steps_proper
    (fun step member => List.mem_cons_of_mem _ (steps_reserved reserved step member)) List.mem_cons_self
    fun step member same => Fragment.marker_not_reserved (same ▸ steps_reserved reserved step member)).1

/-- In a list without a marker an injection makes its changes one after another and puts the marker at the end. -/
theorem injectEnv_eq {load : Load} (reserved : ∀ var ∈ load.env, var.name ∈ Fragment.reservedEnv)
    {env : List Json} (unmarked : env.find? (named Convention.marker) = none) :
    injectEnv load env = load.steps.foldl Env.change env ++ [markerEntry] := by
  have steps : load.untouched.foldl Env.preserve (load.env.foldl (fun env var => Env.set env var.name var.toJson) env) =
      load.steps.foldl Env.change env := by
    rw [Load.steps, List.foldl_append, List.foldl_map, List.foldl_map]
    rfl
  have stillUnmarked := ((Load.ignores_marker reserved).find?_eq env).trans unmarked
  simp only [injectEnv, steps, any_named_eq_isSome, stillUnmarked]
  rfl

theorem marked_injectEnv (load : Load) (env : List Json) :
    (injectEnv load env).any (named Convention.marker) = true := by
  unfold injectEnv
  simp only
  split
  · rename_i marked
    exact marked
  · simp [named_markerEntry]

theorem foldl_restore_append {injected : Bool} {names : List String} {last : Json}
    (other : ∀ name ∈ names, named name last = false ∧ named (Convention.backupName name) last = false)
    (env : List Json) :
    names.foldl (Env.restore injected) (env ++ [last]) = names.foldl (Env.restore injected) env ++ [last] := by
  induction names generalizing env with
  | nil => rfl
  | cons name rest ih =>
    obtain ⟨notPrimary, notBackup⟩ := other name List.mem_cons_self
    rw [List.foldl_cons, List.foldl_cons,
      Env.restore_comm (Env.ignores_append notPrimary) (Env.ignores_append notBackup)]
    exact ih (fun name member => other name (List.mem_cons_of_mem _ member)) _

theorem marker_apart : ∀ name ∈ Fragment.reservedEnv,
    named name markerEntry = false ∧ named (Convention.backupName name) markerEntry = false := by
  intro name member
  refine ⟨named_of_ne named_markerEntry fun same => Fragment.marker_not_reserved (same ▸ member), ?_⟩
  exact named_of_ne named_markerEntry
    (Fragment.reservedEnv_primary _ List.mem_cons_self _ (List.mem_cons_of_mem _ member))

theorem revertEnv_append_marker {injected : Bool} (env : List Json) :
    revertEnv injected (env ++ [markerEntry]) = revertEnv injected env := by
  rw [revertEnv, foldl_restore_append marker_apart, List.filter_append]
  simp [revertEnv, named_markerEntry]

/-- The variables of a container that nothing has touched are what they were, in their places. They may have reserved
names and may repeat them, but there may be no backup of a reserved variable and no marker. -/
theorem revertEnv_injectEnv {load : Load} (h : load.Reversible) {env : List Json}
    (free : Free traces env)
    (canonical : ∀ entry ∈ env, entry.Canonical) : revertEnv true (injectEnv load env) = env := by
  have unmarked := free.find?_eq_none List.mem_cons_self
  have restored := Env.foldl_restore_foldl_change h.steps_perm Fragment.reservedEnv_nodup primary_reserved
    load.steps_proper (fun entry member name wanted => free entry member name (List.mem_cons_of_mem _ wanted)) canonical
  rw [injectEnv_eq h.reserved unmarked, revertEnv_append_marker, revertEnv, restored,
    Env.filter_named_eq_self unmarked]

theorem revertEnv_nil {injected : Bool} : revertEnv injected [] = [] := by cases injected <;> rfl

/-- A reversal takes every marker out, however many there are. -/
theorem find?_marker_revertEnv (injected : Bool) (env : List Json) :
    (revertEnv injected env).find? (named Convention.marker) = none := by
  refine List.find?_eq_none.mpr fun entry member => ?_
  simpa using (List.mem_filter.mp member).2

/-- No reserved variable stands in a list together with its backup. -/
def Unpaired (env : List Json) : Prop := ∀ name ∈ Fragment.reservedEnv,
  env.find? (named name) = none ∨ env.find? (named (Convention.backupName name)) = none

instance (env : List Json) : Decidable (Unpaired env) :=
  inferInstanceAs (Decidable (∀ name ∈ Fragment.reservedEnv,
    env.find? (named name) = none ∨ env.find? (named (Convention.backupName name)) = none))

/-- Without an injection, a reversal goes by markers and backups: it leaves a list alone exactly if there is no marker
and no variable stands beside its backup. -/
theorem revertEnv_eq_self_iff {env : List Json} :
    revertEnv false env = env ↔ Unpaired env ∧ env.find? (named Convention.marker) = none := by
  constructor
  · intro same
    have unmarked := find?_marker_revertEnv false env
    rw [same] at unmarked
    have kept : (Fragment.reservedEnv.foldl (Env.restore false) env).length ≤ (revertEnv false env).length := by
      rw [same]
      exact Env.length_foldl_restore_le _ _
    have restored : revertEnv false env = Fragment.reservedEnv.foldl (Env.restore false) env :=
      List.filter_sublist.eq_of_length_le kept
    exact ⟨Env.foldl_restore_eq_self_iff.mp (restored.symm.trans same), unmarked⟩
  · rintro ⟨unpaired, unmarked⟩
    rw [revertEnv, Env.foldl_restore_eq_self_iff.mpr unpaired]
    exact Env.filter_named_eq_self unmarked

theorem Free.unpaired {env : List Json} (free : Free traces env) : Unpaired env := fun _ reserved =>
  .inr (free.find?_eq_none (List.mem_cons_of_mem _ (List.mem_map_of_mem reserved)))

end Graft.Injection
