import Graft.Proofs.Backup

namespace Graft.Injection

theorem exists_first_at {name : String} {entries : List Json} {i : Nat}
    (found : entries.findIdx? (named name) = some i) :
    ∃ before entry after, entries = before ++ entry :: after ∧ before.length = i ∧ named name entry = true ∧
      ∀ other ∈ before, named name other = false := by
  obtain ⟨inside, is, earlier⟩ := List.findIdx?_eq_some_iff_getElem.mp found
  refine ⟨entries.take i, entries[i], entries.drop (i + 1), ?_, ?_, is, ?_⟩
  · rw [List.getElem_cons_drop, List.take_append_drop]
  · exact List.length_take_of_le (Nat.le_of_lt inside)
  · intro other member
    obtain ⟨j, bound, rfl⟩ := List.mem_take_iff_getElem.mp member
    have before : j < i := by omega
    simpa using earlier j before

theorem find?_of_findIdx? {name : String} {entries : List Json} {i : Nat}
    (found : entries.findIdx? (named name) = some i) : entries.find? (named name) = entries[i]? := by
  obtain ⟨before, entry, after, rfl, rfl, is, earlier⟩ := exists_first_at found
  have none : before.find? (named name) = none :=
    List.find?_eq_none.mpr fun other member => by simp [earlier other member]
  simp [List.find?_append, none, is]

theorem find?_eq_none_of_findIdx? {name : String} {entries : List Json}
    (absent : entries.findIdx? (named name) = none) : entries.find? (named name) = none :=
  List.find?_eq_none.mpr fun entry member => by simp [List.findIdx?_eq_none_iff.mp absent entry member]

/-- Replacing the first entry of a name is setting the list at its position, which is inside the list. -/
theorem expandFirst_eq_set {name : String} {entries : List Json} {i : Nat}
    (found : entries.findIdx? (named name) = some i) (value : Json) :
    expandFirst name (fun _ => [value]) entries = entries.set i value := by
  obtain ⟨before, entry, after, rfl, rfl, is, earlier⟩ := exists_first_at found
  rw [expandFirst_of_found earlier is, List.set_append_right _ _ (Nat.le_refl _), Nat.sub_self, List.set_cons_zero]
  rfl

/-- Setting the list there does not move the entries of other names. -/
theorem findIdx?_expandFirst {a b : String} (ne : a ≠ b) {value : Json} (is : named a value = true)
    (entries : List Json) :
    (expandFirst a (fun _ => [value]) entries).findIdx? (named b) = entries.findIdx? (named b) := by
  have notValue := named_of_ne is ne
  induction entries with
  | nil => rfl
  | cons entry rest ih =>
    by_cases first : named a entry = true
    · simp [expandFirst, first, List.findIdx?_cons, notValue, named_of_ne first ne]
    · simp [expandFirst, first, List.findIdx?_cons, ih]

namespace Env

/-- The entry at a position, and the list without it. -/
def takeOut? (entries : List Json) (i : Nat) : Option (Json × List Json) :=
  entries[i]?.map fun entry => (entry, entries.eraseIdx i)

/-- The list with another entry at a position, which must be there. -/
def putAt? (entries : List Json) (i : Nat) (entry : Json) : Option (List Json) :=
  if i < entries.length then some (entries.set i entry) else none

/-- A restoration by positions, without a result if one of them is outside the list that it is used on. Taking out what
stands before the variable moves the variable. -/
def restoreAt? (injected : Bool) (env : List Json) (name : String) : Option (List Json) :=
  match env.findIdx? (named name), env.findIdx? (named (Convention.backupName name)) with
  | none, _ => some env
  | some primary, none => if injected then (takeOut? env primary).map Prod.snd else some env
  | some primary, some backup => do
    let (kept, others) ← takeOut? env backup
    putAt? others (if backup < primary then primary - 1 else primary) (rename name kept)

section Positions

variable {env : List Json} {name : String} {primary backup : Nat}

theorem positions_ne (atPrimary : env.findIdx? (named name) = some primary)
    (atBackup : env.findIdx? (named (Convention.backupName name)) = some backup) : primary ≠ backup := by
  rintro rfl
  obtain ⟨_, isPrimary, _⟩ := List.findIdx?_eq_some_iff_getElem.mp atPrimary
  obtain ⟨_, isBackup, _⟩ := List.findIdx?_eq_some_iff_getElem.mp atBackup
  exact backupName_ne name (named_unique isBackup isPrimary)

/-- The first backup comes to stand where the first entry of the variable stood, and all else stays. The two may stand
in any order and at any distance. -/
theorem restore_of_positions (injected : Bool) (atPrimary : env.findIdx? (named name) = some primary)
    (atBackup : env.findIdx? (named (Convention.backupName name)) = some backup) :
    ∃ kept, env[backup]? = some kept ∧ named name (rename name kept) = true ∧
      restore injected env name = (env.set primary (rename name kept)).eraseIdx backup := by
  obtain ⟨insidePrimary, _, _⟩ := List.findIdx?_eq_some_iff_getElem.mp atPrimary
  obtain ⟨insideBackup, isBackup, _⟩ := List.findIdx?_eq_some_iff_getElem.mp atBackup
  have foundPrimary : env.find? (named name) = some env[primary] := by
    rw [find?_of_findIdx? atPrimary, List.getElem?_eq_getElem]
  have foundBackup : env.find? (named (Convention.backupName name)) = some env[backup] := by
    rw [find?_of_findIdx? atBackup, List.getElem?_eq_getElem]
  have renamed : named name (rename name env[backup]) = true := named_rename isBackup
  have noBackup : [rename name env[backup]].find? (named (Convention.backupName name)) = none := by
    simp [named_of_ne renamed (backupName_ne name).symm]
  refine ⟨env[backup], List.getElem?_eq_getElem insideBackup, renamed, ?_⟩
  calc restore injected env name
    _ = expandFirst name (fun _ => [rename name env[backup]])
        (expandFirst (Convention.backupName name) (fun _ => []) env) := by
      rw [restore_eq, foundPrimary, foundBackup]
    _ = expandFirst (Convention.backupName name) (fun _ => [])
        (expandFirst name (fun _ => [rename name env[backup]]) env) :=
      (expandFirst_comm (backupName_ne name).symm noBackup fun _ _ => rfl).symm
    _ = (env.set primary (rename name env[backup])).eraseIdx backup := by
      rw [← eraseP_eq_expandFirst, List.eraseP_eq_eraseIdx,
        findIdx?_expandFirst (backupName_ne name).symm renamed, atBackup, expandFirst_eq_set atPrimary]

/-- No position is outside the list, wherever the variable and its backup stand, so the restoration by positions always
has a result and it is the one of `Env.restore`. -/
theorem restoreAt?_eq (injected : Bool) (env : List Json) (name : String) :
    restoreAt? injected env name = some (restore injected env name) := by
  unfold restoreAt?
  cases atPrimary : env.findIdx? (named name) with
  | none => rw [restore_eq, find?_eq_none_of_findIdx? atPrimary]
  | some primary =>
    obtain ⟨insidePrimary, _, _⟩ := List.findIdx?_eq_some_iff_getElem.mp atPrimary
    cases atBackup : env.findIdx? (named (Convention.backupName name)) with
    | none =>
      have erased : expandFirst name (fun _ => []) env = env.eraseIdx primary := by
        rw [← eraseP_eq_expandFirst, List.eraseP_eq_eraseIdx, atPrimary]
      rw [restore_eq, find?_eq_none_of_findIdx? atBackup, find?_of_findIdx? atPrimary,
        List.getElem?_eq_getElem insidePrimary, erased]
      cases injected <;> simp [takeOut?, insidePrimary]
    | some backup =>
      obtain ⟨kept, atKept, _, restored⟩ := restore_of_positions injected atPrimary atBackup
      obtain ⟨insideBackup, _⟩ := List.getElem?_eq_some_iff.mp atKept
      have apart := positions_ne atPrimary atBackup
      have length : (env.eraseIdx backup).length = env.length - 1 := List.length_eraseIdx_of_lt insideBackup
      rw [restored]
      simp only [takeOut?, atKept, Option.map_some, Option.bind_eq_bind, Option.bind_some, putAt?, length]
      rcases Nat.lt_or_gt_of_ne apart with before | behind
      · have still : ¬ backup < primary := by omega
        have inside : primary < env.length - 1 := by omega
        rw [if_neg still, if_pos inside, List.eraseIdx_set_gt before]
      · have inside : primary - 1 < env.length - 1 := by omega
        rw [if_pos behind, if_pos inside, List.eraseIdx_set_lt behind]

end Positions

/-- A variable that was set or kept is restored exactly. Where its list had no backup of it, a restoration undoes
either of the two; on any list, one by positions stays within the list and does the same, and with a variable and a
backup it does no more than to put the first backup, under the name of the variable, where the variable first stood. -/
theorem variable_restored (env : List Json) (name : String) (injected : Bool) :
    ((∀ entry ∈ env, entry.Canonical) → Free [Convention.backupName name] env →
      (∀ value, named name value = true → restore true (set env name value) name = env) ∧
      restore injected (preserve env name) name = env) ∧
    restoreAt? injected env name = some (restore injected env name) ∧
    ∀ primary backup, env.findIdx? (named name) = some primary →
      env.findIdx? (named (Convention.backupName name)) = some backup →
      ∃ kept, env[backup]? = some kept ∧ named name (rename name kept) = true ∧
        restore injected env name = (env.set primary (rename name kept)).eraseIdx backup := by
  refine ⟨fun canonical free => ⟨fun value is => ?_, ?_⟩, restoreAt?_eq injected env name, ?_⟩
  · have noBackup := free.find?_eq_none List.mem_cons_self
    cases found : env.find? (named name) with
    | none => exact restore_set_of_absent is found noBackup
    | some entry =>
      have kept : restore true (set env name value) name = _ :=
        restore_set_of_found is found (canonical entry (List.mem_of_find?_eq_some found))
      exact kept.trans (filter_named_eq_self noBackup)
  · refine restore_preserve (fun entry found => ?_) (free.find?_eq_none List.mem_cons_self)
    exact canonical entry (List.mem_of_find?_eq_some found)
  · exact fun primary backup => restore_of_positions injected

/-- A list with an entry that is no object, one without a name, and a variable that is there twice. -/
def mixedEntries : List Json := [.str "text", .obj [("value", .str "nameless")],
  .obj [("name", .str "NODE_OPTIONS"), ("value", .str "--inspect")],
  .obj [("name", .str "NODE_OPTIONS"), ("value", .str "--trace-gc")]]

/-- The list is restored after its variable was set and after it was kept, and a backup behind all of its entries is put
in the place of the first of the two. -/
theorem mixed_entries_restored :
    (∀ entry ∈ mixedEntries, entry.Canonical) ∧ Free [Convention.backupName "NODE_OPTIONS"] mixedEntries ∧
    restore true (set mixedEntries "NODE_OPTIONS" (.obj [("name", .str "NODE_OPTIONS")])) "NODE_OPTIONS" =
      mixedEntries ∧
    restore false (preserve mixedEntries "NODE_OPTIONS") "NODE_OPTIONS" = mixedEntries ∧
    let backup : Json := .obj [("name", .str (Convention.backupName "NODE_OPTIONS"))]
    restore false (mixedEntries ++ [backup]) "NODE_OPTIONS" =
      ((mixedEntries ++ [backup]).set 2 (.obj [("name", .str "NODE_OPTIONS")])).eraseIdx 4 := by
  have canonical : ∀ entry ∈ mixedEntries, entry.Canonical := by decide
  have free : Free [Convention.backupName "NODE_OPTIONS"] mixedEntries := by decide
  obtain ⟨undone, -⟩ := variable_restored mixedEntries "NODE_OPTIONS" false
  obtain ⟨ofSet, ofPreserve⟩ := undone canonical free
  refine ⟨canonical, free, ofSet _ (by decide), ofPreserve, ?_⟩
  intro backup
  obtain ⟨-, -, paired⟩ := variable_restored (mixedEntries ++ [backup]) "NODE_OPTIONS" false
  obtain ⟨kept, atKept, -, restored⟩ := paired 2 4 (by decide) (by decide)
  cases atKept
  exact restored

end Env

end Graft.Injection
