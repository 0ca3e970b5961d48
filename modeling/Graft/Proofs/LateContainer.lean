import Graft.Proofs.CanonicalSteps

namespace Graft.Injection

open Json

/-- Removes the first entry of each name. -/
def eraseEach (names : List String) (entries : List Json) : List Json :=
  names.foldl (fun entries name => entries.eraseP (named name)) entries

theorem eraseEach_sublist (names : List String) (entries : List Json) : (eraseEach names entries).Sublist entries := by
  induction names generalizing entries with
  | nil => exact .refl _
  | cons name rest ih => exact (ih _).trans List.eraseP_sublist

theorem eraseP_eq_self_iff {name : String} {entries : List Json} :
    entries.eraseP (named name) = entries ↔ Free [name] entries := by
  constructor
  · intro same entry member other isOther
    cases List.mem_singleton.mp isOther
    refine Bool.eq_false_iff.mpr fun is => ?_
    have length := List.length_eraseP_of_mem member is
    have some := List.length_pos_of_mem member
    rw [same] at length
    omega
  · intro free
    exact List.eraseP_of_forall_not fun entry member => by simp [free entry member name List.mem_cons_self]

/-- Nothing is removed if and only if there is nothing to remove. -/
theorem eraseEach_eq_self_iff {names : List String} {entries : List Json} :
    eraseEach names entries = entries ↔ Free names entries := by
  induction names with
  | nil => exact ⟨fun _ _ _ _ none => absurd none List.not_mem_nil, fun _ => rfl⟩
  | cons name rest ih =>
    have split : Free (name :: rest) entries ↔ Free [name] entries ∧ Free rest entries := by
      simp only [Free, List.forall_mem_cons, forall_and, List.not_mem_nil, false_imp_iff, implies_true, and_true]
    have step : eraseEach (name :: rest) entries = eraseEach rest (entries.eraseP (named name)) := rfl
    rw [split, ← ih, ← eraseP_eq_self_iff, step]
    constructor
    · intro same
      -- Each removal only shortens the list, so none may shorten it.
      have lower := (eraseEach_sublist rest (entries.eraseP (named name))).length_le
      rw [same] at lower
      have first : entries.eraseP (named name) = entries := List.eraseP_sublist.eq_of_length_le lower
      exact ⟨first, by rw [first] at same; exact same⟩
    · rintro ⟨first, others⟩
      rw [first, others]

/-- A reversal for injected objects takes a variable without a backup for an injected one. In a container that never was
injected it removes the first entry of each reserved name and leaves the rest. -/
theorem revertEnv_of_untouched {env : List Json} (free : Free traces env) :
    revertEnv true env = eraseEach Fragment.reservedEnv env := by
  have restored (names : List String) (known : names ⊆ Fragment.reservedEnv) {env : List Json}
      (free : Free traces env) : names.foldl (Env.restore true) env = eraseEach names env := by
    induction names generalizing env with
    | nil => rfl
    | cons name rest ih =>
      obtain ⟨here, there⟩ := List.cons_subset.mp known
      have noBackup := free.find?_eq_none (List.mem_cons_of_mem _ (List.mem_map_of_mem here))
      have erased : Env.restore true env name = env.eraseP (named name) := by
        rw [Env.restore_eq, noBackup, eraseP_eq_expandFirst]
        cases found : env.find? (named name) with
        | none => exact (expandFirst_of_absent found).symm
        | some entry => rfl
      rw [List.foldl_cons, erased, ih there (free.of_subset List.eraseP_sublist.subset)]
      rfl
  rw [revertEnv, restored _ (List.Subset.refl _) free]
  exact Env.filter_named_eq_self ((free.of_subset (eraseEach_sublist _ _).subset).find?_eq_none List.mem_cons_self)

theorem revertEnv_sublist {env : List Json} (free : Free traces env) : (revertEnv true env).Sublist env := by
  rw [revertEnv_of_untouched free]
  exact eraseEach_sublist _ _

theorem Untouched.revertContainer {container : Json} (h : Untouched container) :
    Untouched (Injection.revertContainer true container) := by
  refine ⟨?_, ?_⟩
  · rw [get?_env_revertContainer, listed_shrink revertEnv_nil]
    exact h.env.of_subset (revertEnv_sublist h.env).subset
  · rw [get?_volumeMounts_revertContainer, listed_shrink rfl]
    exact h.mounts.of_subset (List.filter_sublist.subset)

theorem injectContainers_append {load : Load} {containers results : List Json} {last : Json}
    (run : injectContainers load (containers ++ [last]) = .ok results) :
    ∃ others result, results = others ++ [result] ∧ injectContainer load last = .ok result := by
  have each := injectContainers_eq_ok_iff.mp run
  clear run
  induction containers generalizing results with
  | nil =>
    obtain ⟨result, others, first, none, rfl⟩ := List.forall₂_cons_left_iff.mp each
    exact ⟨[], result, by rw [List.forall₂_nil_left_iff.mp none, List.nil_append], first⟩
  | cons container rest ih =>
    obtain ⟨first, results, _, later, rfl⟩ := List.forall₂_cons_left_iff.mp each
    obtain ⟨others, result, rfl, lastRun⟩ := ih later
    exact ⟨first :: others, result, rfl, lastRun⟩

/-- The variables of the last container. -/
def lastEnv (object : Json) : Option Json := (PodIdentity.containers object).getLast?.bind (Json.get? "env")

/-- An injection that found a container leaves an object that says so, also after one more container was added to it. -/
theorem isInjected_of_append {object edited late : Json} {g : Governing} {state : InjectionState} (clean : Clean object)
    (run : (mutate object g).outcome = .ok (some state))
    (edit : PodIdentity.containers edited = PodIdentity.containers (mutate object g).object ++ [late]) :
    isInjected edited = true := by
  obtain ⟨container, member, marked⟩ := isInjected_iff.mp (isInjected_mutate clean.containers run)
  exact isInjected_iff.mpr ⟨container, edit ▸ List.mem_append_left _ member, marked⟩

/-- A container that is added after an injection keeps its variables through a reversal, and gets them back after a
further injection, if and only if none of them has a reserved name. A reversal goes by the markers of all containers
together, so the one that was added is taken for injected too. -/
theorem late_container_restored_iff {object edited late : Json} {g : Governing} {state : InjectionState}
    (clean : Clean object) (run : (mutate object g).outcome = .ok (some state))
    (edit : PodIdentity.containers edited = PodIdentity.containers (mutate object g).object ++ [late])
    (canonical : late.Canonical) (untouched : Untouched late) :
    ((mutate edited {}).outcome = .ok none ∧ (lastEnv (mutate edited {}).object = late.get? "env" ↔
      Free Fragment.reservedEnv (listed (late.get? "env")))) ∧
    ∀ (again : Governing) (recorded : InjectionState), again.platforms.Nodup →
      (mutate edited again).outcome = .ok (some recorded) →
      (listed (lastEnv (mutate (mutate edited again).object {}).object) = listed (late.get? "env") ↔
        Free Fragment.reservedEnv (listed (late.get? "env"))) := by
  have injected := isInjected_of_append clean run edit
  have nonempty : PodIdentity.containers edited ≠ [] := by simp [edit]
  have idle : Governing.Idle {} := .inl rfl
  have kept : revertEnv true (listed (late.get? "env")) = listed (late.get? "env") ↔
      Free Fragment.reservedEnv (listed (late.get? "env")) := by
    rw [revertEnv_of_untouched untouched.env, eraseEach_eq_self_iff]
  obtain ⟨l, ok⟩ := exists_layers nonempty
  refine ⟨⟨?_, ?_⟩, fun again recorded nodup rerun => ?_⟩
  · rw [mutate_of_layers ok, Layers.resume_idle idle]
  · rw [lastEnv, containers_mutate_idle ok idle, injected, edit, List.map_append, List.map_singleton,
      List.getLast?_concat, Option.bind_some, get?_env_revertContainer, shrink_eq_self_iff revertEnv_nil, kept]
  · -- The call reverts the late container before it injects, so what is lost is lost before there is a backup.
    obtain ⟨resource, load, _, platforms, made, each⟩ := containers_mutate_injected rerun
    rw [injected, edit, List.map_append, List.map_singleton] at each
    obtain ⟨others, result, ends, lastRun⟩ := injectContainers_append each
    have reinjected := isInjected_mutate nonempty rerun
    have still : PodIdentity.containers (mutate edited again).object ≠ [] := by simp [ends]
    obtain ⟨l', ok'⟩ := exists_layers still
    have restored := revertContainer_injectContainer (Load.reversible platforms nodup made)
      (canonical_revertContainer canonical true) untouched.revertContainer lastRun
    rw [lastEnv, containers_mutate_idle ok' idle, reinjected, ends, List.map_append, List.map_singleton,
      List.getLast?_concat, Option.bind_some, restored, get?_env_trimContainer, listed_nonEmptyList,
      get?_env_revertContainer, listed_shrink revertEnv_nil, kept]

/-- A container with a variable of an agent. -/
def lateContainer : Json :=
  .obj [("env", .arr [.obj [("name", .str "NODE_OPTIONS"), ("value", .str "--inspect")]]), ("name", .str "late")]

/-- An injection, and a customer's patch that adds a container after it. -/
def withLateContainer : Json :=
  ((Patch.perform? [.add ⟨["spec", "template", "spec", "containers", "-"]⟩ lateContainer]
    (mutate plainWorkload (governing [.java])).object)).getD .null

/-- Both ways lose the variable: the reversal at once, and a further injection by its own reversal before, so that there
is nothing to keep a backup of. -/
theorem late_container_not_restored :
    lastEnv (mutate withLateContainer {}).object ≠ lateContainer.get? "env" ∧
    listed (lastEnv (mutate (mutate withLateContainer (governing [.java])).object {}).object) ≠
      listed (lateContainer.get? "env") := by
  have reserved : ¬ Free Fragment.reservedEnv (listed (lateContainer.get? "env")) := by decide
  obtain ⟨⟨_, once⟩, again⟩ := @late_container_restored_iff plainWorkload withLateContainer lateContainer
    (governing [.java]) ⟨"default", "", [.java]⟩ (by decide) rfl rfl (by decide) (by decide)
  exact ⟨fun same => reserved (once.mp same),
    fun same => reserved ((again (governing [.java]) ⟨"default", "", [.java]⟩ (by decide) rfl).mp same)⟩

end Graft.Injection
