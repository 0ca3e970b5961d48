import Graft.Injection.Env
import Graft.Proofs.Canonical

namespace Graft.Injection

theorem named_iff {name : String} {entry : Json} :
    named name entry = true ↔ ∃ members, entry = .obj members ∧ Keyed.get? "name" members = some (.str name) := by
  cases entry with
  | obj members =>
    simp only [named, entryName?, Json.get?, beq_iff_eq, Json.obj.injEq, exists_eq_left']
    constructor
    · intro h
      obtain ⟨value, found, text⟩ := Option.bind_eq_some_iff.mp h
      cases value with
      | str text => cases text; exact found
      | _ => cases text
    · intro found
      rw [found]
      rfl
  | _ => simp [named, entryName?, Json.get?]

/-- An entry has one name. -/
theorem named_unique {a b : String} {entry : Json} (isA : named a entry = true) (isB : named b entry = true) :
    a = b := by
  simp only [named, beq_iff_eq] at isA isB
  exact Option.some.inj (isA.symm.trans isB)

theorem named_of_ne {a b : String} {entry : Json} (isA : named a entry = true) (ne : a ≠ b) :
    named b entry = false :=
  Bool.eq_false_iff.mpr fun isB => ne (named_unique isA isB)

theorem named_rename {a b : String} {entry : Json} (isA : named a entry = true) :
    named b (rename b entry) = true := by
  obtain ⟨members, rfl, _⟩ := named_iff.mp isA
  exact named_iff.mpr ⟨_, rfl, Keyed.get?_insert_self _ _ _⟩

theorem rename_rename {a b : String} {entry : Json} : rename a (rename b entry) = rename a entry := by
  cases entry with
  | obj members => exact congrArg Json.obj (Keyed.insert_insert_self _ _ _ _)
  | _ => rfl

theorem rename_eq_self {name : String} {entry : Json} (canonical : entry.Canonical)
    (is : named name entry = true) : rename name entry = entry := by
  obtain ⟨members, rfl, found⟩ := named_iff.mp is
  exact congrArg Json.obj (canonical.sorted.insert_eq_self found)

/-- No entry of the list has any of the names. -/
def Free (names : List String) (entries : List Json) : Prop :=
  ∀ entry ∈ entries, ∀ name ∈ names, named name entry = false

instance (names : List String) (entries : List Json) : Decidable (Free names entries) :=
  inferInstanceAs (Decidable (∀ entry ∈ entries, ∀ name ∈ names, named name entry = false))

theorem Free.of_subset {names : List String} {entries others : List Json} (free : Free names entries)
    (sub : others ⊆ entries) : Free names others := fun entry member => free entry (sub member)

theorem Free.any_eq_false {names : List String} {entries : List Json} (free : Free names entries)
    {name : String} (member : name ∈ names) : entries.any (named name) = false :=
  List.any_eq_false.mpr fun entry inside => by simp [free entry inside name member]

theorem Free.find?_eq_none {names : List String} {entries : List Json} (free : Free names entries)
    {name : String} (member : name ∈ names) : entries.find? (named name) = none :=
  List.find?_eq_none.mpr fun entry inside => by simp [free entry inside name member]

theorem any_named_eq_isSome (name : String) (entries : List Json) :
    entries.any (named name) = (entries.find? (named name)).isSome := by
  rw [Bool.eq_iff_iff, List.find?_isSome, List.any_eq_true]

theorem expandFirst_of_absent {name : String} {f : Json → List Json} {entries : List Json}
    (absent : entries.find? (named name) = none) : expandFirst name f entries = entries := by
  induction entries with
  | nil => rfl
  | cons entry rest ih =>
    simp only [List.find?_cons] at absent
    split at absent
    · cases absent
    · rename_i other
      simp [expandFirst, other, ih absent]

/-- The first entry of a name splits the list into what stands before it and what stands after it, and only that entry
is replaced. -/
theorem expandFirst_of_found {name : String} {f : Json → List Json} {before after : List Json} {entry : Json}
    (earlier : ∀ other ∈ before, named name other = false) (is : named name entry = true) :
    expandFirst name f (before ++ entry :: after) = before ++ (f entry ++ after) := by
  induction before with
  | nil => simp [expandFirst, is]
  | cons first rest ih =>
    have free := earlier first List.mem_cons_self
    simp [expandFirst, free, ih fun other member => earlier other (List.mem_cons_of_mem _ member)]

theorem exists_first {name : String} {entries : List Json} {entry : Json}
    (found : entries.find? (named name) = some entry) :
    named name entry = true ∧ ∃ before after, entries = before ++ entry :: after ∧
      ∀ other ∈ before, named name other = false := by
  obtain ⟨is, before, after, split, earlier⟩ := List.find?_eq_some_iff_append.mp found
  exact ⟨is, before, after, split, fun other member => by simpa using earlier other member⟩

theorem eraseP_eq_expandFirst (name : String) (entries : List Json) :
    entries.eraseP (named name) = expandFirst name (fun _ => []) entries := by
  induction entries with
  | nil => rfl
  | cons entry rest ih =>
    by_cases is : named name entry = true <;> simp [expandFirst, is, ih]

theorem length_expandFirst_singleton (name : String) (value : Json) (entries : List Json) :
    (expandFirst name (fun _ => [value]) entries).length = entries.length := by
  induction entries with
  | nil => rfl
  | cons entry rest ih => by_cases is : named name entry = true <;> simp [expandFirst, is, ih]

theorem find?_expandFirst {a b : String} {f : Json → List Json} {entries : List Json}
    (others : ∀ entry, named b entry = true → (f entry).find? (named a) = none) (ne : a ≠ b) :
    (expandFirst b f entries).find? (named a) = entries.find? (named a) := by
  induction entries with
  | nil => rfl
  | cons entry rest ih =>
    by_cases is : named b entry = true
    · have not := named_of_ne is (Ne.symm ne)
      simp [expandFirst, is, not, List.find?_append, others entry is]
    · simp [expandFirst, is, List.find?_cons, ih]

theorem expandFirst_append {name : String} {f : Json → List Json} {entries : List Json} {last : Json}
    (other : named name last = false) :
    expandFirst name f (entries ++ [last]) = expandFirst name f entries ++ [last] := by
  induction entries with
  | nil => simp [expandFirst, other]
  | cons entry rest ih => by_cases is : named name entry = true <;> simp [expandFirst, is, ih]

theorem filter_expandFirst {a b : String} {out entries : List Json}
    (outs : ∀ entry ∈ out, named a entry = true) (ne : a ≠ b) :
    (expandFirst a (fun _ => out) entries).filter (fun entry => !named b entry) =
      expandFirst a (fun _ => out) (entries.filter fun entry => !named b entry) := by
  have kept : out.filter (fun entry => !named b entry) = out :=
    List.filter_eq_self.mpr fun entry member => by simp [named_of_ne (outs entry member) ne]
  induction entries with
  | nil => rfl
  | cons entry rest ih =>
    by_cases is : named a entry = true
    · simp [expandFirst, is, named_of_ne is ne, kept]
    · by_cases gone : named b entry = true <;> simp [expandFirst, is, gone, ih]

/-- Expansions of different names commute if neither makes entries of the other's name. One of them puts in a fixed
list, for what the other puts in may depend on the entry. -/
theorem expandFirst_comm {a b : String} {out : List Json} {f : Json → List Json} {entries : List Json}
    (ne : a ≠ b) (outs : out.find? (named b) = none)
    (others : ∀ entry, named b entry = true → (f entry).find? (named a) = none) :
    expandFirst b f (expandFirst a (fun _ => out) entries) =
      expandFirst a (fun _ => out) (expandFirst b f entries) := by
  have skip (name : String) (g : Json → List Json) (front rest : List Json)
      (absent : front.find? (named name) = none) :
      expandFirst name g (front ++ rest) = front ++ expandFirst name g rest := by
    induction front with
    | nil => rfl
    | cons entry front ih =>
      simp only [List.find?_cons] at absent
      split at absent
      · cases absent
      · rename_i other
        simp [expandFirst, other, ih absent]
  induction entries with
  | nil => rfl
  | cons entry rest ih =>
    by_cases isA : named a entry = true
    · simp [expandFirst, isA, named_of_ne isA ne, skip b f out rest outs]
    · by_cases isB : named b entry = true
      · simp [expandFirst, isA, isB, skip a _ (f entry) rest (others entry isB)]
      · simp [expandFirst, isA, isB, ih]

namespace Env

/-- An operation on lists that leaves the entries of a name as and where they are. A restoration of that name can be
done before it instead of after it, which is what lets variables be restored in any order, whatever the order in which
they were set. -/
structure Ignores (op : List Json → List Json) (name : String) : Prop where
  find?_eq : ∀ env, (op env).find? (named name) = env.find? (named name)
  expandFirst_eq : ∀ out, (∀ entry ∈ out, named name entry = true) → ∀ env,
    op (expandFirst name (fun _ => out) env) = expandFirst name (fun _ => out) (op env)

theorem Ignores.foldl {α : Type} {op : List Json → α → List Json} {name : String} {steps : List α}
    (each : ∀ step ∈ steps, Ignores (op · step) name) : Ignores (steps.foldl op ·) name := by
  induction steps with
  | nil => exact ⟨fun _ => rfl, fun _ _ _ => rfl⟩
  | cons step rest ih =>
    have first := each step List.mem_cons_self
    have later := ih fun step member => each step (List.mem_cons_of_mem _ member)
    refine ⟨fun env => ?_, fun out outs env => ?_⟩
    · exact (later.find?_eq _).trans (first.find?_eq env)
    · simp only [List.foldl_cons]
      rw [first.expandFirst_eq out outs, later.expandFirst_eq out outs]

theorem find?_filter_of_ne {a b : String} (ne : a ≠ b) (entries : List Json) :
    (entries.filter fun entry => !named b entry).find? (named a) = entries.find? (named a) := by
  induction entries with
  | nil => rfl
  | cons entry rest ih =>
    by_cases gone : named b entry = true
    · simp [gone, named_of_ne gone (Ne.symm ne), ih]
    · simp [gone, List.find?_cons, ih]

theorem ignores_append {name : String} {last : Json} (other : named name last = false) :
    Ignores (· ++ [last]) name where
  find?_eq env := by simp [List.find?_append, other]
  expandFirst_eq out _ env := (expandFirst_append other).symm

theorem backupName_injective {a b : String} (same : Convention.backupName a = Convention.backupName b) : a = b :=
  String.append_left_inj _ |>.mp same

theorem backupName_ne (name : String) : Convention.backupName name ≠ name := by
  intro same
  have length := congrArg String.length same
  have suffix : Convention.backupSuffix.length = 28 := by decide
  rw [Convention.backupName, String.length_append, suffix] at length
  omega

theorem ignores_set {a b : String} {value : Json} (is : named b value = true) (ne : a ≠ b)
    (ne_backup : a ≠ Convention.backupName b) : Ignores (set · b value) a := by
  have notValue : named a value = false := named_of_ne is ne.symm
  have others : ∀ entry, named b entry = true →
      [rename (Convention.backupName b) entry, value].find? (named a) = none := fun entry isB => by
    simp [notValue, named_of_ne (named_rename isB) ne_backup.symm]
  refine ⟨fun env => ?_, fun out outs env => ?_⟩
  · unfold set
    split
    · rw [find?_expandFirst others ne, find?_filter_of_ne ne_backup]
    · exact (ignores_append notValue).find?_eq env
  · have absent : out.find? (named b) = none :=
      List.find?_eq_none.mpr fun entry member => by simp [named_of_ne (outs entry member) ne]
    have anyEq : (expandFirst a (fun _ => out) env).any (named b) = env.any (named b) := by
      rw [any_named_eq_isSome, any_named_eq_isSome, find?_expandFirst (fun _ _ => absent) ne.symm]
    simp only [set, anyEq]
    split
    · rw [filter_expandFirst outs ne_backup, expandFirst_comm ne absent others]
    · exact (expandFirst_append notValue).symm

theorem ignores_preserve {a b : String} (ne : a ≠ b) (ne_backup : a ≠ Convention.backupName b) :
    Ignores (preserve · b) a := by
  have others : ∀ entry, named b entry = true →
      [rename (Convention.backupName b) entry, entry].find? (named a) = none := fun entry isB => by
    simp [named_of_ne isB ne.symm, named_of_ne (named_rename isB) ne_backup.symm]
  refine ⟨fun env => ?_, fun out outs env => ?_⟩
  · unfold preserve
    split
    · rfl
    · rw [find?_expandFirst others ne]
  · have absent (other : String) (apart : a ≠ other) : out.find? (named other) = none :=
      List.find?_eq_none.mpr fun entry member => by simp [named_of_ne (outs entry member) apart]
    have anyEq : (expandFirst a (fun _ => out) env).any (named (Convention.backupName b)) =
        env.any (named (Convention.backupName b)) := by
      rw [any_named_eq_isSome, any_named_eq_isSome,
        find?_expandFirst (fun _ _ => absent _ ne_backup) ne_backup.symm]
    simp only [preserve, anyEq]
    split
    · rfl
    · rw [expandFirst_comm ne (absent b ne) others]

/-- What a restoration does, by what it finds. A backup without its variable stays, and so does a variable without a
backup unless there was an injection. -/
theorem restore_eq (injected : Bool) (env : List Json) (name : String) :
    restore injected env name =
      match env.find? (named name), env.find? (named (Convention.backupName name)) with
      | some _, some backup =>
        expandFirst name (fun _ => [rename name backup]) (expandFirst (Convention.backupName name) (fun _ => []) env)
      | some _, none => if injected then expandFirst name (fun _ => []) env else env
      | none, _ => env := by
  unfold restore
  rw [any_named_eq_isSome]
  cases env.find? (named name) with
  | none => rfl
  | some entry =>
    simp only [Option.isSome_some, if_true, eraseP_eq_expandFirst]
    cases env.find? (named (Convention.backupName name)) <;> rfl

theorem restore_of_unpaired {env : List Json} {name : String}
    (unpaired : env.find? (named name) = none ∨ env.find? (named (Convention.backupName name)) = none) :
    restore false env name = env := by
  rw [restore_eq]
  rcases unpaired with absent | absent
  · rw [absent]
  · rw [absent]
    cases env.find? (named name) <;> rfl

/-- A variable and its backup become one entry, so a restoration that finds both shortens the list. -/
theorem length_restore {env : List Json} {name : String} {entry backup : Json}
    (found : env.find? (named name) = some entry)
    (kept : env.find? (named (Convention.backupName name)) = some backup) (injected : Bool) :
    (restore injected env name).length < env.length := by
  obtain ⟨is, before, after, rfl, earlier⟩ := exists_first kept
  rw [restore_eq, found, kept, expandFirst_of_found earlier is, List.nil_append, length_expandFirst_singleton]
  simp

theorem length_restore_le (env : List Json) (name : String) : (restore false env name).length ≤ env.length := by
  cases found : env.find? (named name) with
  | none => exact Nat.le_of_eq (congrArg _ (restore_of_unpaired (.inl found)))
  | some entry =>
    cases kept : env.find? (named (Convention.backupName name)) with
    | none => exact Nat.le_of_eq (congrArg _ (restore_of_unpaired (.inr kept)))
    | some backup => exact Nat.le_of_lt (length_restore found kept false)

theorem length_foldl_restore_le (names : List String) (env : List Json) :
    (names.foldl (restore false) env).length ≤ env.length := by
  induction names generalizing env with
  | nil => exact Nat.le_refl _
  | cons name rest ih => exact Nat.le_trans (ih _) (length_restore_le env name)

/-- Restorations do nothing without an injection if and only if no variable stands in the list together with its backup.
They never make up for each other, since each that does something shortens the list. -/
theorem foldl_restore_eq_self_iff {names : List String} {env : List Json} :
    names.foldl (restore false) env = env ↔ ∀ name ∈ names,
      env.find? (named name) = none ∨ env.find? (named (Convention.backupName name)) = none := by
  induction names with
  | nil => simp
  | cons name rest ih =>
    rw [List.foldl_cons, List.forall_mem_cons]
    cases found : env.find? (named name) with
    | none => simp [restore_of_unpaired (.inl found), ih]
    | some entry =>
      cases kept : env.find? (named (Convention.backupName name)) with
      | none => simp [restore_of_unpaired (.inr kept), ih]
      | some backup =>
        -- One entry less, and none of the later restorations brings it back.
        have shorter := length_restore found kept false
        have later := length_foldl_restore_le rest (restore false env name)
        constructor
        · intro same
          rw [same] at later
          omega
        · simp

/-- A restoration can be done before an operation that ignores the variable and its backup. Nothing is assumed of what
the operation does to other entries. -/
theorem restore_comm {op : List Json → List Json} {name : String} (primary : Ignores op name)
    (backup : Ignores op (Convention.backupName name)) (injected : Bool) (env : List Json) :
    restore injected (op env) name = op (restore injected env name) := by
  have nothing : ∀ entry ∈ ([] : List Json), ∀ other : String, named other entry = true := by simp
  rw [restore_eq, restore_eq, primary.find?_eq, backup.find?_eq]
  cases env.find? (named name) with
  | none => rfl
  | some entry =>
    cases found : env.find? (named (Convention.backupName name)) with
    | none =>
      cases injected with
      | false => rfl
      | true => exact (primary.expandFirst_eq [] (by simp) env).symm
    | some kept =>
      have out : ∀ entry ∈ [rename name kept], named name entry = true := by
        simpa using named_rename (List.find?_some found)
      simp only
      rw [primary.expandFirst_eq _ out, backup.expandFirst_eq [] (by simp)]

/-- A backup immediately before its variable takes the variable's place. Further entries of either name may follow; only
the first of each counts. -/
theorem restore_pair {injected : Bool} {name : String} {before after : List Json} {backup primary : Json}
    (free : Free [name, Convention.backupName name] before)
    (backupIs : named (Convention.backupName name) backup = true) (primaryIs : named name primary = true) :
    restore injected (before ++ backup :: primary :: after) name = before ++ rename name backup :: after := by
  have backupFree : ∀ other ∈ before, named (Convention.backupName name) other = false :=
    fun other member => free other member _ (by simp)
  have primaryFree : ∀ other ∈ before, named name other = false :=
    fun other member => free other member _ (by simp)
  have foundBackup :
      (before ++ backup :: primary :: after).find? (named (Convention.backupName name)) = some backup := by
    rw [List.find?_append, free.find?_eq_none (by simp)]
    simp [backupIs]
  have foundPrimary : (before ++ backup :: primary :: after).find? (named name) = some primary := by
    rw [List.find?_append, free.find?_eq_none (by simp)]
    simp [named_of_ne backupIs (backupName_ne name), primaryIs]
  rw [restore_eq, foundBackup, foundPrimary]
  simp only
  rw [expandFirst_of_found backupFree backupIs, List.nil_append, expandFirst_of_found primaryFree primaryIs]
  rfl

theorem set_of_found {env : List Json} {name : String} (value : Json) {entry : Json}
    (found : env.find? (named name) = some entry) :
    ∃ before after, Free [name, Convention.backupName name] before ∧
      (env.filter fun entry => !named (Convention.backupName name) entry) = before ++ entry :: after ∧
      set env name value = before ++ rename (Convention.backupName name) entry :: value :: after := by
  obtain ⟨is, before, after, split, earlier⟩ :=
    exists_first ((find?_filter_of_ne (backupName_ne name).symm env).trans found)
  refine ⟨before, after, ?_, split, ?_⟩
  · intro other member wanted isWanted
    rcases List.mem_pair.mp isWanted with rfl | rfl
    · exact earlier other member
    · have kept : other ∈ env.filter fun entry => !named (Convention.backupName name) entry :=
        split ▸ List.mem_append_left _ member
      simpa using (List.mem_filter.mp kept).2
  · simp only [set, any_named_eq_isSome, found, Option.isSome_some, if_true]
    rw [split, expandFirst_of_found earlier is]
    rfl

theorem set_of_absent {env : List Json} {name : String} {value : Json}
    (absent : env.find? (named name) = none) : set env name value = env ++ [value] := by
  simp [set, any_named_eq_isSome, absent]

theorem filter_named_eq_self {env : List Json} {name : String} (absent : env.find? (named name) = none) :
    (env.filter fun entry => !named name entry) = env :=
  List.filter_eq_self.mpr fun entry member => by simpa using List.find?_eq_none.mp absent entry member

/-- Restoring right after setting a variable that was there gives back the list, without any backup that was there
before. The entry must be canonical, since a backup is renamed to and fro. -/
theorem restore_set_of_found {injected : Bool} {env : List Json} {name : String} {value entry : Json}
    (is : named name value = true) (found : env.find? (named name) = some entry) (canonical : entry.Canonical) :
    restore injected (set env name value) name =
      env.filter fun entry => !named (Convention.backupName name) entry := by
  obtain ⟨before, after, free, split, expanded⟩ := set_of_found value found
  have entryIs := List.find?_some found
  rw [expanded, restore_pair free (named_rename entryIs) is, rename_rename, rename_eq_self canonical entryIs,
    split]

/-- Where a variable was set that had not been there, nor a backup of it, restoring takes it out again. This takes the
knowledge that there was an injection. -/
theorem restore_set_of_absent {env : List Json} {name : String} {value : Json} (is : named name value = true)
    (absent : env.find? (named name) = none) (noBackup : env.find? (named (Convention.backupName name)) = none) :
    restore true (set env name value) name = env := by
  have foundPrimary : (env ++ [value]).find? (named name) = some value := by
    simp [List.find?_append, absent, is]
  have foundBackup : (env ++ [value]).find? (named (Convention.backupName name)) = none := by
    simp [List.find?_append, noBackup, named_of_ne is (backupName_ne name).symm]
  rw [set_of_absent absent, restore_eq, foundPrimary, foundBackup]
  simp only [if_true]
  rw [expandFirst_of_found (fun other member => by simpa using List.find?_eq_none.mp absent other member) is]
  simp

theorem restore_preserve {injected : Bool} {env : List Json} {name : String}
    (canonical : ∀ entry, env.find? (named name) = some entry → entry.Canonical)
    (noBackup : env.find? (named (Convention.backupName name)) = none) :
    restore injected (preserve env name) name = env := by
  simp only [preserve, any_named_eq_isSome, noBackup, Option.isSome_none]
  cases found : env.find? (named name) with
  | none => simp [expandFirst_of_absent found, restore_eq, found]
  | some entry =>
    obtain ⟨is, before, after, rfl, earlier⟩ := exists_first found
    have free : Free [name, Convention.backupName name] before := by
      intro other member wanted isWanted
      rcases List.mem_pair.mp isWanted with rfl | rfl
      · exact earlier other member
      · simpa using List.find?_eq_none.mp noBackup other (List.mem_append_left _ member)
    simp only [Bool.false_eq_true, if_false]
    rw [expandFirst_of_found earlier is]
    refine (restore_pair free (named_rename is) is).trans ?_
    rw [rename_rename, rename_eq_self (canonical entry found) is]
    rfl

/-- One step of an injection: a variable that is set, or one that keeps its value. -/
def change (env : List Json) (step : String × Option Json) : List Json :=
  match step.2 with
  | some value => set env step.1 value
  | none => preserve env step.1

/-- What a step sets is a variable of its name. -/
def Proper (step : String × Option Json) : Prop := ∀ value, step.2 = some value → named step.1 value = true

theorem ignores_change {name : String} {step : String × Option Json} (proper : Proper step) (ne : name ≠ step.1)
    (ne_backup : name ≠ Convention.backupName step.1) : Ignores (change · step) name := by
  obtain ⟨other, value?⟩ := step
  cases value? with
  | none => exact ignores_preserve ne ne_backup
  | some value => exact ignores_set (proper value rfl) ne ne_backup

theorem restore_change {env : List Json} {step : String × Option Json} (proper : Proper step)
    (canonical : ∀ entry, env.find? (named step.1) = some entry → entry.Canonical)
    (noBackup : env.find? (named (Convention.backupName step.1)) = none) :
    restore true (change env step) step.1 = env := by
  obtain ⟨name, value?⟩ := step
  cases value? with
  | none => exact restore_preserve canonical noBackup
  | some value =>
    have is := proper value rfl
    cases found : env.find? (named name) with
    | none => exact restore_set_of_absent is found noBackup
    | some entry =>
      exact (restore_set_of_found is found (canonical entry found)).trans (filter_named_eq_self noBackup)

/-- Names that are used for variables and none of which is the backup of another. -/
def Primary (names : List String) : Prop := ∀ a ∈ names, ∀ b ∈ names, a ≠ Convention.backupName b

theorem ignores_steps {names : List String} (steps : List (String × Option Json)) (primary : Primary names)
    (proper : ∀ step ∈ steps, Proper step) (inside : ∀ step ∈ steps, step.1 ∈ names) {name : String}
    (member : name ∈ names) (other : ∀ step ∈ steps, name ≠ step.1) :
    Ignores (steps.foldl change ·) name ∧ Ignores (steps.foldl change ·) (Convention.backupName name) := by
  refine ⟨Ignores.foldl fun step here => ?_, Ignores.foldl fun step here => ?_⟩
  · exact ignores_change (proper step here) (other step here) (primary _ member _ (inside step here))
  · exact ignores_change (proper step here) (primary _ (inside step here) _ member).symm
      fun same => other step here (backupName_injective same)

/-- Where one of several variables has its turn, and that the others leave it and its backup alone. The names must
differ and none may be the backup of another. -/
theorem exists_turn {names : List String} {steps : List (String × Option Json)} {name : String}
    (perm : (steps.map Prod.fst).Perm names) (nodup : names.Nodup) (primary : Primary names)
    (proper : ∀ step ∈ steps, Proper step) (member : name ∈ names) :
    ∃ earlier step later, steps = earlier ++ step :: later ∧ step.1 = name ∧
      (name :: (earlier ++ later).map Prod.fst).Perm names ∧ ∀ part ⊆ earlier ++ later,
        Ignores (part.foldl change ·) name ∧ Ignores (part.foldl change ·) (Convention.backupName name) := by
  obtain ⟨step, here, rfl⟩ := List.mem_map.mp (perm.mem_iff.mpr member)
  obtain ⟨earlier, later, rfl⟩ := List.append_of_mem here
  have moved : (step.1 :: (earlier ++ later).map Prod.fst).Perm names :=
    (List.perm_middle.map Prod.fst).symm.trans perm
  have fresh := (List.nodup_cons.mp (moved.nodup_iff.mpr nodup)).1
  refine ⟨earlier, step, later, rfl, rfl, moved, fun part sub => ?_⟩
  refine ignores_steps part primary (fun other inside => proper other ?_) (fun other inside => ?_) member
    fun other inside same => fresh (same ▸ List.mem_map_of_mem (sub inside))
  · rcases List.mem_append.mp (sub inside) with first | second
    · exact List.mem_append_left _ first
    · exact List.mem_append_right _ (List.mem_cons_of_mem _ second)
  · exact moved.mem_iff.mp (List.mem_cons_of_mem _ (List.mem_map_of_mem (sub inside)))

/-- Variables that were set or kept, each once and in any order, are restored in any other order. Before, none of them
may have had a backup; entries may repeat a name, and may have none. -/
theorem foldl_restore_foldl_change {names : List String} {steps : List (String × Option Json)} {env : List Json}
    (perm : (steps.map Prod.fst).Perm names) (nodup : names.Nodup) (primary : Primary names)
    (proper : ∀ step ∈ steps, Proper step) (free : Free (names.map Convention.backupName) env)
    (canonical : ∀ entry ∈ env, entry.Canonical) :
    names.foldl (restore true) (steps.foldl change env) = env := by
  induction names generalizing steps with
  | nil =>
    have none : steps = [] := List.map_eq_nil_iff.mp perm.eq_nil
    rw [none]
    rfl
  | cons name rest ih =>
    -- What comes after the turn of the first name ignores it, so restoring it undoes that turn alone and leaves
    -- the other steps for the rest of the names.
    obtain ⟨earlier, step, later, rfl, rfl, others, ignores⟩ :=
      exists_turn perm nodup primary proper List.mem_cons_self
    obtain ⟨keptBefore, keptBackup⟩ := ignores earlier (List.subset_append_left _ _)
    obtain ⟨keptAfter, keptBackupAfter⟩ := ignores later (List.subset_append_right _ _)
    have here : step ∈ earlier ++ step :: later := List.mem_append_right _ List.mem_cons_self
    have sub : earlier ++ later ⊆ earlier ++ step :: later := by simp
    have undone : restore true (change (earlier.foldl change env) step) step.1 = earlier.foldl change env := by
      refine restore_change (proper step here) (fun entry found => ?_) ?_
      · rw [keptBefore.find?_eq] at found
        exact canonical entry (List.mem_of_find?_eq_some found)
      · rw [keptBackup.find?_eq]
        exact free.find?_eq_none (by simp)
    rw [List.foldl_cons, List.foldl_append, List.foldl_cons, restore_comm keptAfter keptBackupAfter, undone,
      ← List.foldl_append]
    exact ih others.cons_inv (List.nodup_cons.mp nodup).2
      (fun a ha b hb => primary a (List.mem_cons_of_mem _ ha) b (List.mem_cons_of_mem _ hb))
      (fun other member => proper other (sub member))
      (fun entry member name wanted => free entry member name (List.mem_cons_of_mem _ wanted))

end Env

end Graft.Injection
