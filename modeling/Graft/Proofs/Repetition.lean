import Graft.Proofs.Lookup
import Graft.Proofs.Mutation
import Mathlib.Data.List.Count
import Mathlib.Data.List.Flatten

namespace Graft.Injection

open Json

/-- No name has more than one entry that was not there before. Names that the customer repeats may stay repeated. -/
def Distinct (before after : List Json) : Prop :=
  ∀ name, after.countP (named name) ≤ before.countP (named name) + 1

theorem countP_named_of_names {added : List Json} {names : List String}
    (same : added.map entryName? = names.map some) (name : String) : added.countP (named name) = names.count name := by
  have counted : added.countP (named name) = (added.map entryName?).count (some name) := by
    rw [List.count_eq_countP, List.countP_map]
    rfl
  rw [counted, same, List.count_map_of_injective _ _ fun _ _ => Option.some.inj]

theorem distinct_append_iff {before added : List Json} {names : List String}
    (same : added.map entryName? = names.map some) : Distinct before (before ++ added) ↔ names.Nodup := by
  simp only [Distinct, List.countP_append, countP_named_of_names same, Nat.add_le_add_iff_left,
    List.nodup_iff_count_le_one]

theorem agentNames_nodup_iff {field : Agent → String} {platforms : List Platform}
    (own : ∀ p ∈ Platform.supported, ∀ q ∈ Platform.supported, p.agent?.map field = q.agent?.map field → p = q)
    (supported : ∀ p ∈ platforms, p ∈ Platform.supported) :
    (Fragment.agentNames field platforms).Nodup ↔ platforms.Nodup := by
  induction platforms with
  | nil => simp [Fragment.agentNames]
  | cons p rest ih =>
    have here := supported p List.mem_cons_self
    have there : ∀ q ∈ rest, q ∈ Platform.supported := fun q member => supported q (List.mem_cons_of_mem _ member)
    obtain ⟨agent, has⟩ := Option.isSome_iff_exists.mp (Platform.agent?_isSome_iff.mpr here)
    have names : Fragment.agentNames field (p :: rest) = field agent :: Fragment.agentNames field rest := by
      simp [Fragment.agentNames, has]
    have again : field agent ∈ Fragment.agentNames field rest ↔ p ∈ rest := by
      constructor
      · intro member
        obtain ⟨q, inRest, eq⟩ := List.mem_filterMap.mp member
        have same := own p here q (there q inRest) (by rw [has, eq]; rfl)
        exact same ▸ inRest
      · exact fun inRest => List.mem_filterMap.mpr ⟨p, inRest, by rw [has]; rfl⟩
    rw [names, List.nodup_cons, List.nodup_cons, again, ih there]

theorem initContainer_own : ∀ p ∈ Platform.supported, ∀ q ∈ Platform.supported,
    p.agent?.map Agent.initContainer = q.agent?.map Agent.initContainer → p = q := by decide

theorem volume_own : ∀ p ∈ Platform.supported, ∀ q ∈ Platform.supported,
    p.agent?.map Agent.volume = q.agent?.map Agent.volume → p = q := by decide

/-- The volume that all agents share is no agent's own. -/
theorem logsVolume_not_own : Agent.logsVolume ∉ Fragment.agentNames Agent.volume Platform.supported := by decide

theorem volumeNames_nodup_iff {platforms : List Platform} (supported : ∀ p ∈ platforms, p ∈ Platform.supported) :
    (Fragment.volumeNames platforms).Nodup ↔ platforms.Nodup := by
  have apart : Agent.logsVolume ∉ Fragment.agentNames Agent.volume platforms := fun member =>
    logsVolume_not_own (Fragment.mem_agentNames_supported member)
  rw [Fragment.volumeNames, ← List.concat_eq_append, List.nodup_concat, agentNames_nodup_iff volume_own supported]
  exact and_iff_right apart

/-- Of each name, an injection adds one variable at most, backups and the marker included. -/
theorem Load.Reversible.distinct_injectEnv {load : Load} (h : load.Reversible) {env : List Json}
    (free : Free traces env) : Distinct env (injectEnv load env) := by
  intro name
  have nodup : (load.steps.map Prod.fst).Nodup := h.steps_perm.nodup_iff.mpr Fragment.reservedEnv_nodup
  have inside : ∀ step ∈ load.steps, step.1 ∈ Fragment.reservedEnv := Load.steps_reserved h.reserved
  have changed := @Env.countP_changes_le name _ load.steps_proper env
  have most := Env.countP_concerns_le name primary_reserved inside nodup
  rw [injectEnv_eq h.reserved (free.find?_eq_none List.mem_cons_self), List.countP_append,
    countP_cons_of_named named_markerEntry, List.countP_nil]
  by_cases isMarker : name = Convention.marker
  · have none : load.steps.countP (fun step => Env.Concerns name step) = 0 := by
      refine List.countP_eq_zero.mpr fun step member concerns => ?_
      rcases of_decide_eq_true concerns with is | is
      · exact Fragment.marker_not_reserved (isMarker ▸ is ▸ inside step member)
      · exact Fragment.reservedEnv_primary _ List.mem_cons_self _ (List.mem_cons_of_mem _ (inside step member))
          (isMarker ▸ is)
    simp only [isMarker, if_true] at none changed ⊢
    omega
  · simp only [isMarker, if_false]
    omega

/-- The first variable of each reserved name is kept as its backup. -/
theorem Load.Reversible.find?_backup_injectEnv {load : Load} (h : load.Reversible) {env : List Json}
    (free : Free traces env) {name : String} (reserved : name ∈ Fragment.reservedEnv) {entry : Json}
    (found : env.find? (named name) = some entry) :
    (injectEnv load env).find? (named (Convention.backupName name)) =
      some (rename (Convention.backupName name) entry) := by
  obtain ⟨earlier, step, later, split, rfl, _, ignores⟩ :=
    Env.exists_turn h.steps_perm Fragment.reservedEnv_nodup primary_reserved load.steps_proper reserved
  obtain ⟨keptBefore, keptBackup⟩ := ignores earlier (List.subset_append_left _ _)
  obtain ⟨_, keptBackupAfter⟩ := ignores later (List.subset_append_right _ _)
  have isBackup : Convention.backupName step.1 ∈ traces := List.mem_cons_of_mem _ (List.mem_map_of_mem reserved)
  rw [injectEnv_eq h.reserved (free.find?_eq_none List.mem_cons_self),
    (Env.ignores_append (marker_apart _ reserved).2).find?_eq, split, List.foldl_append, List.foldl_cons,
    keptBackupAfter.find?_eq]
  refine Env.find?_backup_change ?_ ?_
  · rw [keptBefore.find?_eq, found]
  · rw [keptBackup.find?_eq, free.find?_eq_none isBackup]

/-- What an injection leaves of an object that nothing has touched: its lists with more entries at their ends, and
each container injected. -/
theorem Clean.mutate_injected {object : Json} (clean : Clean object) {g : Governing} {state : InjectionState}
    (run : (mutate object g).outcome = .ok (some state)) :
    ∃ resource load, g.resource = some resource ∧ g.platforms ≠ [] ∧
      Load.make resource g.pod g.platforms g.cluster = .ok load ∧
      listed ((mutate object g).object.path? ["spec", "template", "spec", "volumes"]) =
        listed (object.path? ["spec", "template", "spec", "volumes"]) ++ load.volumes ∧
      listed ((mutate object g).object.path? ["spec", "template", "spec", "initContainers"]) =
        listed (object.path? ["spec", "template", "spec", "initContainers"]) ++ load.initContainers ∧
      injectContainers load (PodIdentity.containers object) = .ok (PodIdentity.containers (mutate object g).object) := by
  obtain ⟨l, ok⟩ := clean.layers
  have untouched := (clean.template ok).pod.map_revertContainer_eq_self
  obtain ⟨resource, load, has, platforms, made, _, volumes, initContainers, each⟩ := lists_mutate_injected run
  rw [unnamed_eq_self clean.volumes] at volumes
  rw [unnamed_eq_self clean.initContainers] at initContainers
  rw [clean.not_injected, containers_eq_listed ok, untouched, ← containers_eq_listed ok] at each
  exact ⟨resource, load, has, platforms, made, volumes, initContainers, each⟩

/-- What a customer may expect of an injection: whatever it adds to a list has a name of its own there, and the
variables of every container are kept and can be had back. -/
structure Harmless (object : Json) (g : Governing) : Prop where
  volumes : Distinct (listed (object.path? ["spec", "template", "spec", "volumes"]))
    (listed ((mutate object g).object.path? ["spec", "template", "spec", "volumes"]))
  initContainers : Distinct (listed (object.path? ["spec", "template", "spec", "initContainers"]))
    (listed ((mutate object g).object.path? ["spec", "template", "spec", "initContainers"]))
  mounts : List.Forall₂
    (fun before after => Distinct (listed (before.get? "volumeMounts")) (listed (after.get? "volumeMounts")))
    (PodIdentity.containers object) (PodIdentity.containers (mutate object g).object)
  env : List.Forall₂ (fun before after => Distinct (listed (before.get? "env")) (listed (after.get? "env")))
    (PodIdentity.containers object) (PodIdentity.containers (mutate object g).object)
  backups : List.Forall₂ (fun before after => ∀ name ∈ Fragment.reservedEnv, ∀ entry,
      (listed (before.get? "env")).find? (named name) = some entry →
        (listed (after.get? "env")).find? (named (Convention.backupName name)) =
          some (rename (Convention.backupName name) entry))
    (PodIdentity.containers object) (PodIdentity.containers (mutate object g).object)
  restored : List.Forall₂ (fun before after => listed (after.get? "env") = listed (before.get? "env"))
    (PodIdentity.containers object) (PodIdentity.containers (mutate (mutate object g).object {}).object)

/-- An injection is harmless if and only if no platform is repeated. Every fragment of a repeated platform is added
twice, and its variables are set twice: the second time, what is kept as a backup is what the first time has set. -/
theorem harmless_iff_nodup {object : Json} {g : Governing} {state : InjectionState} (clean : Clean object)
    (run : (mutate object g).outcome = .ok (some state)) : Harmless object g ↔ g.platforms.Nodup := by
  obtain ⟨resource, load, _, platforms, made, volumes, initContainers, run'⟩ := clean.mutate_injected run
  have each := injectContainers_eq_ok_iff.mp run'
  have eachUntouched := (List.forall₂_and_left _ _).mpr ⟨clean.untouched, each⟩
  have supported := Load.supported made
  have atVolumes := @distinct_append_iff (listed (object.path? ["spec", "template", "spec", "volumes"])) _ _
    (Load.volumes_names platforms made)
  rw [volumeNames_nodup_iff supported, ← volumes] at atVolumes
  constructor
  · exact fun harmless => atVolumes.mp harmless.volumes
  · intro nodup
    have h := Load.reversible platforms nodup made
    constructor
    · exact atVolumes.mpr nodup
    · rw [initContainers, distinct_append_iff (Load.initContainers_names made),
        agentNames_nodup_iff initContainer_own supported]
      exact nodup
    · refine each.imp fun container result one => ?_
      rw [listed_volumeMounts_injectContainer one, distinct_append_iff (Load.mounts_names platforms made),
        volumeNames_nodup_iff supported]
      exact nodup
    · refine eachUntouched.imp fun container result ⟨untouched, one⟩ => ?_
      rw [listed_env_injectContainer one]
      exact h.distinct_injectEnv untouched.env
    · refine eachUntouched.imp fun container result ⟨untouched, one⟩ name reserved entry found => ?_
      rw [listed_env_injectContainer one]
      exact h.find?_backup_injectEnv untouched.env reserved found
    · obtain ⟨l, ok⟩ := clean.layers
      rw [clean.mutate_mutate nodup run, clean.trimmed.mutate_idle (.inl rfl), containers_trimmed ok,
        List.forall₂_map_right_iff, List.forall₂_same]
      intro container _
      rw [get?_env_trimContainer, listed_nonEmptyList]

theorem not_harmless_twice : ¬ Harmless plainWorkload (governing [.nodeJs, .nodeJs]) := fun harmless =>
  absurd ((@harmless_iff_nodup _ _ ⟨"default", "", [.nodeJs, .nodeJs]⟩ (by decide) rfl).mp harmless) (by decide)

/-- A variable of a repeated platform is set twice, and nothing else has its name. -/
theorem Load.env_of_repeated {resource : Instrumentation} {pod : PodIdentity} {platforms : List Platform}
    {cluster : ClusterIdentity} {load : Load} (made : Load.make resource pod platforms cluster = .ok load)
    {p : Platform} (repeated : 2 ≤ platforms.count p) {var : EnvVar}
    (own : var ∈ Fragment.ownEnv resource.appLogsEnabled p) :
    2 ≤ load.env.count var ∧ ∀ other ∈ load.env, other.name = var.name → other = var := by
  obtain ⟨_, _, _, _, _, _, env, _⟩ := Load.make_eq_ok made
  obtain ⟨_, eq⟩ := Fragment.env_eq_ok env
  have ownName : var.name ∈ (Fragment.ownEnv resource.appLogsEnabled p).map EnvVar.name := List.mem_map_of_mem own
  rw [eq]
  constructor
  · have pairs : (List.replicate 2 p).Sublist platforms := List.replicate_sublist_iff.mpr repeated
    have vars : (List.replicate 2 var).Sublist
        ((List.replicate 2 p).flatMap (Fragment.ownEnv resource.appLogsEnabled)) :=
      (List.singleton_sublist.mpr own).append ((List.singleton_sublist.mpr own).append (List.nil_sublist _))
    exact List.replicate_sublist_iff.mp
      ((vars.trans (pairs.flatMap _)).trans (List.sublist_append_right _ _))
  · intro other member same
    rcases List.mem_append.mp member with common | isOwn
    · refine absurd ?_ (Fragment.ownEnv_names_not_common _ p _ ownName)
      rw [← same, ← Fragment.commonEnv_names pod resource.connectionString cluster]
      exact List.mem_map_of_mem common
    · obtain ⟨q, _, inOwn⟩ := List.mem_flatMap.mp isOwn
      by_cases samePlatform : q = p
      · subst samePlatform
        exact List.inj_on_of_nodup_map (Fragment.ownEnv_names_nodup _ q) inOwn own same
      · exact absurd (same ▸ ownName) (Fragment.ownEnv_names_disjoint _ samePlatform _ (List.mem_map_of_mem inOwn))

theorem exists_last_of_twice {α : Type} [DecidableEq α] {value : α} {values : List α}
    (twice : 2 ≤ values.count value) :
    ∃ before after, values = before ++ value :: after ∧ value ∈ before ∧ value ∉ after := by
  have there : value ∈ values.reverse := List.mem_reverse.mpr (List.count_pos_iff.mp (by omega))
  obtain ⟨after, before, split, last⟩ := List.eq_append_cons_of_mem there
  have eq : values = before.reverse ++ value :: after.reverse := by
    rw [← List.reverse_reverse values, split]
    simp
  have none : after.count value = 0 := List.count_eq_zero.mpr last
  refine ⟨before.reverse, after.reverse, eq, List.count_pos_iff.mp ?_, by simpa using last⟩
  rw [eq, List.count_append, List.count_cons_self, List.count_reverse, List.count_reverse, none] at twice
  rw [List.count_reverse]
  omega

theorem canonical_toJson (var : EnvVar) : rename var.name var.toJson = var.toJson := by
  obtain ⟨name, source⟩ := var
  cases source <;> rfl

/-- A variable that an injection sets twice is its own backup, and what the customer had is gone. No other variable of
the load may have its name. -/
theorem injectEnv_of_twice {load : Load} (reserved : ∀ var ∈ load.env, var.name ∈ Fragment.reservedEnv)
    {var : EnvVar} (twice : 2 ≤ load.env.count var) (alone : ∀ other ∈ load.env, other.name = var.name → other = var)
    {env : List Json} (unmarked : env.find? (named Convention.marker) = none) :
    (injectEnv load env).find? (named var.name) = some var.toJson ∧
      (injectEnv load env).find? (named (Convention.backupName var.name)) =
        some (rename (Convention.backupName var.name) var.toJson) := by
  obtain ⟨before, after, split, earlier, last⟩ := exists_last_of_twice twice
  have member : var ∈ load.env := split ▸ List.mem_append_right _ List.mem_cons_self
  have isReserved := reserved var member
  have steps : load.steps = before.map (fun var => (var.name, some var.toJson)) ++ (var.name, some var.toJson) ::
      (after.map (fun var => (var.name, some var.toJson)) ++ load.untouched.map fun name => (name, none)) := by
    rw [Load.steps, split, List.map_append, List.map_cons, List.append_assoc, List.cons_append]
  have fixed : ∀ step ∈ load.steps, step.1 = var.name → step.2 = some var.toJson := by
    intro step inSteps same
    rcases List.mem_append.mp inSteps with isSet | isKept
    · obtain ⟨other, here, rfl⟩ := List.mem_map.mp isSet
      rw [alone other here same]
    · obtain ⟨name, here, rfl⟩ := List.mem_map.mp isKept
      have isName : name = var.name := same
      exact absurd (isName ▸ List.mem_map_of_mem member) (Load.mem_untouched_iff.mp here).2
  have inside := Load.steps_reserved reserved
  have is := named_toJson var
  obtain ⟨notPrimary, notBackup⟩ := marker_apart var.name isReserved
  rw [injectEnv_eq reserved unmarked, (Env.ignores_append notPrimary).find?_eq,
    (Env.ignores_append notBackup).find?_eq]
  constructor
  · exact Env.find?_changes primary_reserved load.steps_proper inside isReserved is fixed
      (.inr (steps ▸ List.mem_append_right _ List.mem_cons_self))
  · -- The last setting finds the value of an earlier one, and no later step is about the variable.
    have first : ∀ step ∈ before.map (fun var => (var.name, some var.toJson)), step ∈ load.steps :=
      fun step here => steps ▸ List.mem_append_left _ here
    have set : ((before.map fun var => (var.name, some var.toJson)).foldl Env.change env).find? (named var.name) =
        some var.toJson :=
      Env.find?_changes primary_reserved (fun step here => load.steps_proper step (first step here))
        (fun step here => inside step (first step here)) isReserved is (fun step here => fixed step (first step here))
        (.inr (List.mem_map.mpr ⟨var, earlier, rfl⟩))
    have later : ∀ step ∈ after.map (fun var => (var.name, some var.toJson)) ++
        load.untouched.map (fun name => (name, none)), step ∈ load.steps ∧ var.name ≠ step.1 := by
      intro step here
      refine ⟨steps ▸ List.mem_append_right _ (List.mem_cons_of_mem _ here), fun same => ?_⟩
      rcases List.mem_append.mp here with isSet | isKept
      · obtain ⟨other, isAfter, rfl⟩ := List.mem_map.mp isSet
        have inEnv : other ∈ load.env := split ▸ List.mem_append_right _ (List.mem_cons_of_mem _ isAfter)
        exact last (alone other inEnv same.symm ▸ isAfter)
      · obtain ⟨name, isUntouched, rfl⟩ := List.mem_map.mp isKept
        have isName : var.name = name := same
        exact (Load.mem_untouched_iff.mp isUntouched).2 (isName ▸ List.mem_map_of_mem member)
    have ignores := Env.ignores_steps _ primary_reserved (fun step here => load.steps_proper step (later step here).1)
      (fun step here => inside step (later step here).1) isReserved fun step here => (later step here).2
    rw [steps, List.foldl_append, List.foldl_cons, ignores.2.find?_eq]
    exact Env.find?_backup_set set

/-- It stays in the place of the customer's when the injection is reverted. -/
theorem revertEnv_of_twice {load : Load} (reserved : ∀ var ∈ load.env, var.name ∈ Fragment.reservedEnv)
    {var : EnvVar} (twice : 2 ≤ load.env.count var) (alone : ∀ other ∈ load.env, other.name = var.name → other = var)
    {env : List Json} (unmarked : env.find? (named Convention.marker) = none) :
    (revertEnv true (injectEnv load env)).find? (named var.name) = some var.toJson := by
  have isReserved := reserved var (List.count_pos_iff.mp (by omega))
  obtain ⟨set, kept⟩ := injectEnv_of_twice reserved twice alone unmarked
  have notMarker : var.name ≠ Convention.marker := fun same => Fragment.marker_not_reserved (same ▸ isReserved)
  rw [revertEnv, Env.find?_filter_of_ne notMarker,
    Env.find?_foldl_restore Fragment.reservedEnv_nodup primary_reserved isReserved set kept, rename_rename,
    canonical_toJson]

/-- A variable of a repeated platform stays in every container when the injection is reverted, whatever the customer's
value was and whether there was one. -/
theorem repeated_variable_stays {object : Json} {g : Governing} {state : InjectionState} (clean : Clean object)
    (run : (mutate object g).outcome = .ok (some state)) {p : Platform} (repeated : 2 ≤ g.platforms.count p) :
    ∃ resource, g.resource = some resource ∧ ∀ var ∈ Fragment.ownEnv resource.appLogsEnabled p,
      ∀ container ∈ PodIdentity.containers (mutate (mutate object g).object {}).object,
        (listed (container.get? "env")).find? (named var.name) = some var.toJson := by
  obtain ⟨resource, load, has, platforms, made, _, _, each⟩ := clean.mutate_injected run
  refine ⟨resource, has, fun var own container member => ?_⟩
  obtain ⟨twice, alone⟩ := Load.env_of_repeated made repeated own
  obtain ⟨_, _, _, _, _, _, env, _⟩ := Load.make_eq_ok made
  have reserved := Fragment.env_names_reserved env
  have eachUntouched := (List.forall₂_and_left _ _).mpr ⟨clean.untouched, injectContainers_eq_ok_iff.mp each⟩
  have stays : List.Forall₂ (fun (result : Json) (_ : Json) =>
      (listed ((revertContainer true result).get? "env")).find? (named var.name) = some var.toJson ∧ True)
      (PodIdentity.containers (mutate object g).object) (PodIdentity.containers object) := by
    refine (eachUntouched.imp fun before result ⟨untouched, one⟩ => ?_).flip
    have unmarked := untouched.env.find?_eq_none List.mem_cons_self
    refine ⟨?_, trivial⟩
    rw [get?_env_revertContainer, listed_shrink rfl, listed_env_injectContainer one]
    exact revertEnv_of_twice reserved twice alone unmarked
  have nonempty : PodIdentity.containers (mutate object g).object ≠ [] := by
    intro none
    rw [none] at stays
    exact clean.containers (List.forall₂_nil_left_iff.mp stays)
  obtain ⟨l, ok⟩ := exists_layers nonempty
  rw [containers_mutate_idle ok (.inl rfl), isInjected_mutate clean.containers run] at member
  obtain ⟨result, here, rfl⟩ := List.mem_map.mp member
  exact ((List.forall₂_and_left _ _).mp stays).1 result here

end Graft.Injection
