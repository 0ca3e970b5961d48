import Graft.Proofs.EnvReversal
import Graft.Proofs.Steps

namespace Graft.Injection

/-- Names of variables that are not the customer's alone: a reversal may take or rename such entries. They are the
marker, the reserved names and the names of their backups. -/
def ours : List String := traces ++ Fragment.reservedEnv

section

variable {names : List String} {name : String}

theorem any_named (member : name ∈ names) {entry : Json} (is : named name entry = true) :
    (names.any fun name => named name entry) = true :=
  List.any_eq_true.mpr ⟨name, member, is⟩

/-- An entry that is not the customer's is put for one that was not. So the customer's entries are neither touched nor
moved among themselves. -/
theorem unnamed_expandFirst (member : name ∈ names) {f : Json → List Json}
    (out : ∀ entry, named name entry = true → unnamed names (f entry) = []) (entries : List Json) :
    unnamed names (expandFirst name f entries) = unnamed names entries := by
  induction entries with
  | nil => rfl
  | cons entry rest ih =>
    by_cases is : named name entry = true
    · have gone : unnamed names (entry :: rest) = unnamed names rest := by
        simp [unnamed, any_named member is]
      rw [expandFirst, if_pos is, unnamed_append, out entry is, gone, List.nil_append]
    · have step (others : List Json) : unnamed names (entry :: others) = unnamed names [entry] ++ unnamed names others :=
        unnamed_append names [entry] others
      rw [expandFirst, if_neg is, step, ih, ← step]

theorem unnamed_filter (member : name ∈ names) (entries : List Json) :
    unnamed names (entries.filter fun entry => !named name entry) = unnamed names entries := by
  rw [unnamed, unnamed, List.filter_filter]
  refine List.filter_congr fun entry _ => ?_
  cases is : named name entry with
  | false => simp
  | true => simp [any_named member is]

end

namespace Env

variable {names : List String} {name : String}

theorem unnamed_restore (primary : name ∈ names) (backup : Convention.backupName name ∈ names) (injected : Bool)
    (env : List Json) : unnamed names (restore injected env name) = unnamed names env := by
  have dropped (other : String) (member : other ∈ names) (env : List Json) :
      unnamed names (expandFirst other (fun _ => []) env) = unnamed names env :=
    unnamed_expandFirst member (fun _ _ => rfl) env
  rw [restore_eq]
  split
  · rename_i kept _ found
    have renamed := named_rename (b := name) (List.find?_some found)
    have out : unnamed names [rename name kept] = [] := unnamed_eq_nil (by simpa using ⟨name, primary, renamed⟩)
    rw [unnamed_expandFirst primary fun _ _ => out, dropped _ backup]
  · split
    · exact dropped _ primary env
    · rfl
  · rfl

theorem unnamed_set (primary : name ∈ names) (backup : Convention.backupName name ∈ names) {value : Json}
    (is : named name value = true) (env : List Json) : unnamed names (set env name value) = unnamed names env := by
  unfold set
  split
  · rw [unnamed_expandFirst primary, unnamed_filter backup]
    intro entry isPrimary
    refine unnamed_eq_nil fun other member => ?_
    rcases List.mem_pair.mp member with rfl | rfl
    · exact any_named backup (named_rename isPrimary)
    · exact any_named primary is
  · have none : unnamed names [value] = [] := unnamed_eq_nil (by simpa using ⟨name, primary, is⟩)
    rw [unnamed_append, none, List.append_nil]

theorem unnamed_preserve (primary : name ∈ names) (backup : Convention.backupName name ∈ names) (env : List Json) :
    unnamed names (preserve env name) = unnamed names env := by
  unfold preserve
  split
  · rfl
  · refine unnamed_expandFirst primary (fun entry isPrimary => unnamed_eq_nil fun other member => ?_) env
    rcases List.mem_pair.mp member with rfl | rfl
    · exact any_named backup (named_rename isPrimary)
    · exact any_named primary isPrimary

end Env

/-- What each step of a fold leaves alone, the fold does. -/
theorem unnamed_foldl {α : Type} {names : List String} {op : List Json → α → List Json} {steps : List α}
    (each : ∀ step ∈ steps, ∀ env, unnamed names (op env step) = unnamed names env) (env : List Json) :
    unnamed names (steps.foldl op env) = unnamed names env := by
  induction steps generalizing env with
  | nil => rfl
  | cons step rest ih =>
    rw [List.foldl_cons, ih (fun step member => each step (List.mem_cons_of_mem _ member)),
      each step List.mem_cons_self]

theorem marker_ours : Convention.marker ∈ ours := List.mem_append_left _ List.mem_cons_self

theorem reserved_ours {name : String} (reserved : name ∈ Fragment.reservedEnv) :
    name ∈ ours ∧ Convention.backupName name ∈ ours :=
  ⟨List.mem_append_right _ reserved,
    List.mem_append_left _ (List.mem_cons_of_mem _ (List.mem_map_of_mem reserved))⟩

/-- No reversal touches an entry whose name is not reserved, whatever else the list holds and whether there was an
injection or not. -/
theorem unnamed_revertEnv (injected : Bool) (env : List Json) :
    unnamed ours (revertEnv injected env) = unnamed ours env := by
  rw [revertEnv, unnamed_filter marker_ours]
  refine unnamed_foldl (fun name member env => ?_) env
  exact Env.unnamed_restore (reserved_ours member).1 (reserved_ours member).2 injected env

/-- No injection touches one either, as long as what it sets are reserved variables. -/
theorem unnamed_injectEnv {load : Load} (reserved : ∀ var ∈ load.env, var.name ∈ Fragment.reservedEnv)
    (env : List Json) : unnamed ours (injectEnv load env) = unnamed ours env := by
  have isSet (env : List Json) :
      unnamed ours (load.env.foldl (fun env var => Env.set env var.name var.toJson) env) = unnamed ours env := by
    refine unnamed_foldl (fun var member env => ?_) env
    obtain ⟨primary, backup⟩ := reserved_ours (reserved var member)
    exact Env.unnamed_set primary backup (named_toJson var) env
  have isKept (env : List Json) : unnamed ours (load.untouched.foldl Env.preserve env) = unnamed ours env := by
    refine unnamed_foldl (fun name member env => ?_) env
    obtain ⟨primary, backup⟩ := reserved_ours (Load.mem_untouched_iff.mp member).1
    exact Env.unnamed_preserve primary backup env
  have marker : unnamed ours [markerEntry] = [] :=
    unnamed_eq_nil (by simpa using ⟨_, marker_ours, named_markerEntry⟩)
  unfold injectEnv
  simp only
  split
  · rw [isKept, isSet]
  · rw [unnamed_append, marker, List.append_nil, isKept, isSet]

end Graft.Injection
