import Graft.Proofs.Backup

namespace Graft.Injection

theorem countP_cons_of_named {name own : String} {entry : Json} {rest : List Json} (is : named own entry = true) :
    (entry :: rest).countP (named name) = rest.countP (named name) + if name = own then 1 else 0 := by
  rw [List.countP_cons]
  by_cases same : name = own
  · simp [same, is]
  · simp [same, named_of_ne is (Ne.symm same)]

namespace Env

/-- A change may add an entry of these names. -/
def Concerns (name : String) (step : String × Option Json) : Prop :=
  name = step.1 ∨ name = Convention.backupName step.1

instance (name : String) (step : String × Option Json) : Decidable (Concerns name step) :=
  inferInstanceAs (Decidable (_ ∨ _))

theorem countP_set_le {name own : String} {value : Json} (is : named own value = true) (env : List Json) :
    (set env own value).countP (named name) ≤
      env.countP (named name) + if Concerns name (own, some value) then 1 else 0 := by
  have apart := backupName_ne own
  cases found : env.find? (named own) with
  | none =>
    rw [set_of_absent found, List.countP_append, countP_cons_of_named is, List.countP_nil]
    by_cases same : name = own <;> simp [Concerns, same]
  | some entry =>
    obtain ⟨before, after, _, split, eq⟩ := set_of_found value found
    have entryIs := List.find?_some found
    have less : (before ++ entry :: after).countP (named name) ≤ env.countP (named name) :=
      split ▸ List.filter_sublist.countP_le
    rw [eq]
    simp only [List.countP_append, countP_cons_of_named entryIs, countP_cons_of_named (named_rename entryIs),
      countP_cons_of_named is] at less ⊢
    by_cases same : name = own
    · simp only [same, apart.symm, Concerns, true_or, if_true, if_false] at less ⊢
      omega
    · by_cases backup : name = Convention.backupName own
      · simp only [backup, apart, Concerns, or_true, if_true, if_false] at less ⊢
        omega
      · simp only [same, backup, Concerns, or_self, if_false] at less ⊢
        omega

theorem countP_preserve_le {name own : String} (env : List Json) :
    (preserve env own).countP (named name) ≤
      env.countP (named name) + if Concerns name (own, none) then 1 else 0 := by
  unfold preserve
  split
  · exact Nat.le_add_right _ _
  · cases found : env.find? (named own) with
    | none =>
      rw [expandFirst_of_absent found]
      exact Nat.le_add_right _ _
    | some entry =>
      obtain ⟨is, before, after, rfl, earlier⟩ := exists_first found
      rw [expandFirst_of_found earlier is]
      simp only [List.countP_append, List.cons_append, List.nil_append, countP_cons_of_named is,
        countP_cons_of_named (named_rename is)]
      by_cases backup : name = Convention.backupName own
      · simp only [backup, Concerns, or_true, if_true]
        omega
      · simp only [backup, if_false]
        omega

theorem countP_change_le {name : String} {step : String × Option Json} (proper : Proper step) (env : List Json) :
    (change env step).countP (named name) ≤ env.countP (named name) + if Concerns name step then 1 else 0 := by
  obtain ⟨own, value?⟩ := step
  cases value? with
  | none => exact countP_preserve_le env
  | some value => exact countP_set_le (proper value rfl) env

/-- Changes add no more entries of a name than there are changes that concern it. A change concerns the name that it
sets and the name of its backup. -/
theorem countP_changes_le {name : String} {steps : List (String × Option Json)}
    (proper : ∀ step ∈ steps, Proper step) (env : List Json) : (steps.foldl change env).countP (named name) ≤
      env.countP (named name) + steps.countP fun step => Concerns name step := by
  induction steps generalizing env with
  | nil => exact Nat.le_add_right _ _
  | cons step rest ih =>
    have first := @countP_change_le name step (proper step List.mem_cons_self) env
    have later := ih (fun other member => proper other (List.mem_cons_of_mem _ member)) (change env step)
    simp only [List.foldl_cons, List.countP_cons, decide_eq_true_eq]
    omega

theorem Concerns.unique {names : List String} {name : String} {first second : String × Option Json}
    (primary : Primary names) (inFirst : first.1 ∈ names) (inSecond : second.1 ∈ names)
    (ofFirst : Concerns name first) (ofSecond : Concerns name second) : first.1 = second.1 := by
  rcases ofFirst with is | is <;> rcases ofSecond with is' | is'
  · exact is.symm.trans is'
  · exact absurd (is.symm.trans is') (primary _ inFirst _ inSecond)
  · exact absurd (is'.symm.trans is) (primary _ inSecond _ inFirst)
  · exact backupName_injective (is.symm.trans is')

theorem countP_concerns_le {names : List String} {steps : List (String × Option Json)} (name : String)
    (primary : Primary names) (inside : ∀ step ∈ steps, step.1 ∈ names) (nodup : (steps.map Prod.fst).Nodup) :
    steps.countP (fun step => Concerns name step) ≤ 1 := by
  induction steps with
  | nil => exact Nat.zero_le _
  | cons step rest ih =>
    obtain ⟨fresh, restNodup⟩ := List.nodup_cons.mp nodup
    have later : ∀ other ∈ rest, other.1 ∈ names := fun other member => inside other (List.mem_cons_of_mem _ member)
    by_cases here : Concerns name step
    · have none : rest.countP (fun step => Concerns name step) = 0 := by
        refine List.countP_eq_zero.mpr fun other member there => fresh ?_
        rw [here.unique primary (inside step List.mem_cons_self) (later other member) (of_decide_eq_true there)]
        exact List.mem_map_of_mem member
      simp [none, here]
    · simp [here, ih later restNodup]

/-- The customer's entry is kept under the backup's name, as a whole and only renamed. -/
theorem find?_backup_set {env : List Json} {name : String} {value entry : Json}
    (found : env.find? (named name) = some entry) :
    (set env name value).find? (named (Convention.backupName name)) =
      some (rename (Convention.backupName name) entry) := by
  obtain ⟨before, after, free, _, eq⟩ := set_of_found value found
  have absent : before.find? (named (Convention.backupName name)) = none := free.find?_eq_none (by simp)
  have kept := named_rename (b := Convention.backupName name) (List.find?_some found)
  simp only [eq, List.find?_append, absent, List.find?_cons, kept, Option.none_or]

theorem find?_backup_change {env : List Json} {step : String × Option Json} {entry : Json}
    (found : env.find? (named step.1) = some entry)
    (noBackup : env.find? (named (Convention.backupName step.1)) = none) :
    (change env step).find? (named (Convention.backupName step.1)) =
      some (rename (Convention.backupName step.1) entry) := by
  obtain ⟨name, value?⟩ := step
  cases value? with
  | some value => exact find?_backup_set found
  | none =>
    have kept := named_rename (b := Convention.backupName name) (List.find?_some found)
    obtain ⟨is, before, after, rfl, earlier⟩ := exists_first found
    have absent : before.find? (named (Convention.backupName name)) = none :=
      (List.find?_append.symm.trans noBackup |> Option.or_eq_none_iff.mp).1
    simp only [change, preserve, any_named_eq_isSome, noBackup, Option.isSome_none, Bool.false_eq_true, if_false]
    rw [expandFirst_of_found earlier is]
    simp only [List.find?_append, absent, List.cons_append, List.find?_cons, kept, Option.none_or]

theorem find?_set_self {env : List Json} {name : String} {value : Json} (is : named name value = true) :
    (set env name value).find? (named name) = some value := by
  cases found : env.find? (named name) with
  | none => simp [set_of_absent found, List.find?_append, found, is]
  | some entry =>
    obtain ⟨before, after, free, _, eq⟩ := set_of_found value found
    have absent : before.find? (named name) = none := free.find?_eq_none List.mem_cons_self
    have notBackup := named_of_ne (named_rename (List.find?_some found)) (backupName_ne name)
    simp [eq, List.find?_append, absent, notBackup, is]

/-- A variable that is set to one value only has it in the end, whether it was there with that value before or is set on
the way. Other variables may be set to anything in between. -/
theorem find?_changes {names : List String} {steps : List (String × Option Json)} {name : String} {value : Json}
    (primary : Primary names) (proper : ∀ step ∈ steps, Proper step) (inside : ∀ step ∈ steps, step.1 ∈ names)
    (member : name ∈ names) (is : named name value = true)
    (alone : ∀ step ∈ steps, step.1 = name → step.2 = some value) {env : List Json}
    (set : env.find? (named name) = some value ∨ (name, some value) ∈ steps) :
    (steps.foldl change env).find? (named name) = some value := by
  induction steps generalizing env with
  | nil => exact set.resolve_right List.not_mem_nil
  | cons step rest ih =>
    refine ih (fun other later => proper other (List.mem_cons_of_mem _ later))
      (fun other later => inside other (List.mem_cons_of_mem _ later))
      (fun other later => alone other (List.mem_cons_of_mem _ later)) ?_
    by_cases same : step.1 = name
    · left
      obtain ⟨own, value?⟩ := step
      have is' := alone _ List.mem_cons_self same
      cases same
      cases is'
      exact find?_set_self is
    · rcases set with already | later
      · left
        have ignores := ignores_change (proper step List.mem_cons_self) (Ne.symm same)
          (primary _ member _ (inside step List.mem_cons_self))
        exact (ignores.find?_eq env).trans already
      · exact .inr ((List.mem_cons.mp later).resolve_left fun eq => same (eq ▸ rfl))

theorem find?_restore_of_ne {injected : Bool} {env : List Json} {a b : String} (ne : a ≠ b)
    (ne_backup : a ≠ Convention.backupName b) : (restore injected env b).find? (named a) = env.find? (named a) := by
  rw [restore_eq]
  split
  · rename_i backup _ found
    have out : [rename b backup].find? (named a) = none := by
      simp [named_of_ne (named_rename (List.find?_some found)) ne.symm]
    rw [find?_expandFirst (fun _ _ => out) ne, find?_expandFirst (fun _ _ => rfl) ne_backup]
  · split
    · exact find?_expandFirst (fun _ _ => rfl) ne
    · rfl
  · rfl

theorem find?_restore_self {injected : Bool} {env : List Json} {name : String} {entry backup : Json}
    (found : env.find? (named name) = some entry)
    (kept : env.find? (named (Convention.backupName name)) = some backup) :
    (restore injected env name).find? (named name) = some (rename name backup) := by
  have still : (expandFirst (Convention.backupName name) (fun _ => []) env).find? (named name) = some entry :=
    (find?_expandFirst (fun _ _ => rfl) (backupName_ne name).symm).trans found
  obtain ⟨is, before, after, split, earlier⟩ := exists_first still
  have absent : before.find? (named name) = none :=
    List.find?_eq_none.mpr fun other member => by simp [earlier other member]
  rw [restore_eq, found, kept]
  simp only [split, expandFirst_of_found earlier is]
  simp [List.find?_append, absent, named_rename (List.find?_some kept)]

/-- Whatever else is restored, a variable is restored from its backup. The names must differ and none may be the backup
of another. -/
theorem find?_foldl_restore {injected : Bool} {names : List String} {env : List Json} {name : String}
    {entry backup : Json} (nodup : names.Nodup) (primary : Primary names) (member : name ∈ names)
    (found : env.find? (named name) = some entry)
    (kept : env.find? (named (Convention.backupName name)) = some backup) :
    (names.foldl (restore injected) env).find? (named name) = some (rename name backup) := by
  have others (part : List String) (sub : part ⊆ names) (fresh : name ∉ part) (env : List Json) :
      (part.foldl (restore injected) env).find? (named name) = env.find? (named name) ∧
        (part.foldl (restore injected) env).find? (named (Convention.backupName name)) =
          env.find? (named (Convention.backupName name)) := by
    induction part generalizing env with
    | nil => exact ⟨rfl, rfl⟩
    | cons other rest ih =>
      obtain ⟨here, there⟩ := List.cons_subset.mp sub
      have ne : name ≠ other := fun same => fresh (same ▸ List.mem_cons_self)
      obtain ⟨first, second⟩ :=
        ih there (fun later => fresh (List.mem_cons_of_mem _ later)) (restore injected env other)
      exact ⟨first.trans (find?_restore_of_ne ne (primary _ member _ here)),
        second.trans (find?_restore_of_ne (primary _ here _ member).symm fun same => ne (backupName_injective same))⟩
  obtain ⟨before, after, rfl⟩ := List.append_of_mem member
  have apart := (List.perm_middle.nodup_iff.mp nodup)
  have fresh := (List.nodup_cons.mp apart).1
  obtain ⟨first, second⟩ := others before (List.subset_append_left _ _)
    (fun inside => fresh (List.mem_append_left _ inside)) env
  rw [List.foldl_append, List.foldl_cons,
    (others after (fun other inside => List.mem_append_right _ (List.mem_cons_of_mem _ inside))
      (fun inside => fresh (List.mem_append_right _ inside)) _).1]
  exact find?_restore_self (first.trans found) (second.trans kept)

end Env

end Graft.Injection
