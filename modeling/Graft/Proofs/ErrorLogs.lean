import Graft.Dialogue
import Graft.Proofs.Fields
import Graft.Proofs.Registry
import Mathlib.Data.List.Nodup

namespace Graft

namespace Assoc

variable {κ α : Type}

/-- Values that a function gives to keys. -/
def tabulate (keys : List κ) (value : κ → α) : Assoc κ α := keys.map fun key => (key, value key)

theorem tabulate_congr {keys : List κ} {value value' : κ → α} (same : ∀ key ∈ keys, value key = value' key) :
    tabulate keys value = tabulate keys value' :=
  List.map_congr_left fun key member => by rw [same key member]

theorem keys_tabulate (keys : List κ) (value : κ → α) : (tabulate keys value).keys = keys := by
  rw [Assoc.keys, tabulate, List.map_map]
  exact List.map_id keys

variable [DecidableEq κ]

theorem nodup_keys_set {entries : Assoc κ α} (nodup : entries.keys.Nodup) (key : κ) (value : α) :
    (set key value entries).keys.Nodup := by
  induction entries with
  | nil => exact List.nodup_singleton key
  | cons e rest ih =>
    obtain ⟨k, v⟩ := e
    obtain ⟨apart, others⟩ := List.nodup_cons.mp nodup
    rw [set]
    split
    · exact nodup
    · rename_i ne
      have still : k ∉ (set key value rest).keys := by
        rw [mem_keys_iff, get?_set_of_ne ne, ← mem_keys_iff]
        exact apart
      exact List.nodup_cons.mpr ⟨still, ih others⟩

theorem set_of_absent {entries : Assoc κ α} {key : κ} (absent : get? key entries = none) (value : α) :
    set key value entries = entries ++ [(key, value)] := by
  induction entries with
  | nil => rfl
  | cons e rest ih =>
    obtain ⟨k, v⟩ := e
    rw [get?] at absent
    split at absent
    · cases absent
    · rename_i ne
      rw [set, if_neg ne, ih absent, List.cons_append]

theorem get?_tabulate (keys : List κ) (value : κ → α) (key : κ) :
    get? key (tabulate keys value) = if key ∈ keys then some (value key) else none := by
  induction keys with
  | nil => rfl
  | cons k rest ih =>
    rw [tabulate, List.map_cons, get?, ← tabulate, ih]
    by_cases same : k = key
    · simp [same]
    · simp [same, Ne.symm same]

/-- Setting a key that is there changes its value only. The keys must not repeat, and the two functions agree on every
other key. -/
theorem set_tabulate {keys : List κ} {value value' : κ → α} {key : κ} (nodup : keys.Nodup) (member : key ∈ keys)
    (others : ∀ k, k ≠ key → value k = value' k) :
    set key (value' key) (tabulate keys value) = tabulate keys value' := by
  induction keys with
  | nil => cases member
  | cons k rest ih =>
    obtain ⟨apart, distinct⟩ := List.nodup_cons.mp nodup
    simp only [tabulate, List.map_cons, set] at ih ⊢
    by_cases same : k = key
    · subst same
      have later : tabulate rest value = tabulate rest value' :=
        tabulate_congr fun other there => others other fun is => apart (is ▸ there)
      rw [if_pos rfl]
      exact congrArg _ later
    · have later : key ∈ rest := (List.mem_cons.mp member).resolve_left (Ne.symm same)
      rw [if_neg same, ih distinct later, others k same]

end Assoc

namespace Heartbeat

section Messages

theorem eraseDups_concat (messages : List String) (message : String) : (messages ++ [message]).eraseDups =
    if message ∈ messages then messages.eraseDups else messages.eraseDups ++ [message] := by
  rw [List.eraseDups_append]
  split <;> rename_i known <;> simp [List.removeAll, known, List.eraseDups_cons]

theorem nodup_eraseDups (messages : List String) : messages.eraseDups.Nodup := by
  induction messages using List.reverseRecOn with
  | nil => simp
  | append_singleton messages message ih =>
    rw [eraseDups_concat]
    split
    · exact ih
    · rename_i new
      refine List.nodup_append.mpr ⟨ih, List.nodup_singleton message, fun known member other last is => new ?_⟩
      rw [← List.mem_singleton.mp last, ← is]
      exact List.mem_eraseDups.mp member

/-- The messages that get an entry. -/
def admitted (bound : Nat) (messages : List String) : List String := messages.eraseDups.take bound

theorem nodup_admitted (bound : Nat) (messages : List String) : (admitted bound messages).Nodup :=
  (List.take_sublist bound _).nodup (nodup_eraseDups messages)

theorem mem_of_admitted {bound : Nat} {messages : List String} {message : String}
    (member : message ∈ admitted bound messages) : message ∈ messages :=
  List.mem_eraseDups.mp (List.mem_of_mem_take member)

/-- As many messages get an entry as there are distinct ones, up to the bound. -/
theorem length_admitted (bound : Nat) (messages : List String) :
    (admitted bound messages).length = min bound messages.eraseDups.length := List.length_take

/-- While there is room, every message has got an entry. A bound that is reached is therefore reached by the first
distinct messages. -/
theorem admitted_of_room {bound : Nat} {messages : List String} (room : (admitted bound messages).length < bound) :
    admitted bound messages = messages.eraseDups := by
  rw [length_admitted] at room
  exact List.take_of_length_le (by omega)

/-- So a message without an entry that finds room has not come before, and its count starts at one rightly. -/
theorem new_of_room {bound : Nat} {messages : List String} {message : String} (not : message ∉ admitted bound messages)
    (room : (admitted bound messages).length < bound) : message ∉ messages := by
  rw [admitted_of_room room, List.mem_eraseDups] at not
  exact not

theorem admitted_concat (bound : Nat) (messages : List String) (message : String) :
    admitted bound (messages ++ [message]) =
      if message ∈ admitted bound messages then admitted bound messages
      else if (admitted bound messages).length < bound then admitted bound messages ++ [message]
      else admitted bound messages := by
  have known (came : message ∈ messages) : admitted bound (messages ++ [message]) = admitted bound messages := by
    rw [admitted, eraseDups_concat, if_pos came]
    rfl
  by_cases entered : message ∈ admitted bound messages
  · rw [if_pos entered, known (mem_of_admitted entered)]
  rw [if_neg entered]
  by_cases room : (admitted bound messages).length < bound
  · have new := new_of_room entered room
    have next : (messages ++ [message]).eraseDups = messages.eraseDups ++ [message] := by
      rw [eraseDups_concat, if_neg new]
    rw [admitted_of_room room] at room
    rw [if_pos (by rwa [admitted, List.take_of_length_le (Nat.le_of_lt room)]), admitted, admitted, next,
      List.take_of_length_le (Nat.le_of_lt room), List.take_of_length_le (by rw [List.length_append]; exact room)]
  · rw [if_neg room]
    by_cases came : message ∈ messages
    · exact known came
    · rw [length_admitted] at room
      rw [admitted, eraseDups_concat, if_neg came, List.take_append_of_le_length (by omega)]
      rfl

/-- The entries of a log after some messages. -/
def entriesOf (bound : Nat) (messages : List String) : Assoc String Nat :=
  Assoc.tabulate (admitted bound messages) (messages.count ·)

theorem length_entriesOf (bound : Nat) (messages : List String) :
    (entriesOf bound messages).length = (admitted bound messages).length := List.length_map _

theorem length_entriesOf_le (bound : Nat) (messages : List String) : (entriesOf bound messages).length ≤ bound := by
  rw [length_entriesOf]
  exact List.length_take_le bound _

/-- One message more: an entry that is there counts on, and a new one is made where there is room. A message that found
no room never gets an entry later, so the entries are those of the first distinct messages, each with the number of
times it came. -/
theorem countEntry_entriesOf (bound : Nat) (messages : List String) (message : String) :
    countEntry bound (entriesOf bound messages) message = entriesOf bound (messages ++ [message]) := by
  have others : ∀ other, other ≠ message → messages.count other = (messages ++ [message]).count other := by
    intro other ne
    simp [List.count_append, Ne.symm ne]
  have once : (messages ++ [message]).count message = messages.count message + 1 := by simp
  rw [countEntry, length_entriesOf, entriesOf, entriesOf, Assoc.get?_tabulate, admitted_concat]
  by_cases entered : message ∈ admitted bound messages
  · simp only [if_pos entered]
    rw [← once]
    exact Assoc.set_tabulate (nodup_admitted bound messages) entered others
  · have unchanged : Assoc.tabulate (admitted bound messages) (messages.count ·) =
        Assoc.tabulate (admitted bound messages) ((messages ++ [message]).count ·) :=
      Assoc.tabulate_congr fun other there => others other fun is => entered (is ▸ there)
    simp only [if_neg entered]
    split
    · rename_i room
      -- A message without an entry is new as long as there is room.
      have first : (messages ++ [message]).count message = 1 := by
        rw [once, List.count_eq_zero_of_not_mem (new_of_room entered room)]
      have absent : Assoc.get? message (Assoc.tabulate (admitted bound messages) (messages.count ·)) = none := by
        rw [Assoc.get?_tabulate, if_neg entered]
      rw [Assoc.set_of_absent absent, unchanged, ← first, Assoc.tabulate, Assoc.tabulate, List.map_append]
      rfl
    · exact unchanged

end Messages

/-- The message that an observation appends to a log. -/
def messageOf? (log : ErrorLog) : Observation → Option String
  | .append other message => if other = log then some message else none
  | _ => none

def messagesOf (log : ErrorLog) (observations : List Observation) : List String :=
  observations.filterMap (messageOf? log)

/-- What is collected by some observations from nothing. -/
def collect (bound : Nat) (observations : List Observation) : Heartbeat := observations.foldl observe { bound }

section Collect

theorem collect_concat (bound : Nat) (observations : List Observation) (o : Observation) :
    collect bound (observations ++ [o]) = (collect bound observations).observe o := by
  rw [collect, List.foldl_append]
  rfl

theorem messagesOf_concat (log : ErrorLog) (observations : List Observation) (o : Observation) :
    messagesOf log (observations ++ [o]) = messagesOf log observations ++ (messageOf? log o).toList := by
  rw [messagesOf, List.filterMap_append]
  rfl

theorem bound_collect (bound : Nat) (observations : List Observation) : (collect bound observations).bound = bound := by
  induction observations using List.reverseRecOn with
  | nil => rfl
  | append_singleton observations o ih =>
    rw [collect_concat]
    cases o <;> exact ih

theorem nodup_keys_collect (bound : Nat) (observations : List Observation) :
    (collect bound observations).logs.keys.Nodup := by
  induction observations using List.reverseRecOn with
  | nil => exact List.nodup_nil
  | append_singleton observations o ih =>
    rw [collect_concat]
    cases o with
    | append log message => exact Assoc.nodup_keys_set ih _ _
    | _ => exact ih

/-- What a log holds is made of the messages appended to it and of no others. A log that nothing is appended to is not
there, also where the bound leaves room for no entry. -/
theorem get?_logs_collect (bound : Nat) (observations : List Observation) (log : ErrorLog) :
    (collect bound observations).logs.get? log =
      if messagesOf log observations = [] then none else some (entriesOf bound (messagesOf log observations)) := by
  induction observations using List.reverseRecOn with
  | nil => rfl
  | append_singleton observations o ih =>
    rw [collect_concat, messagesOf_concat]
    cases o with
    | count metric =>
      simp only [messageOf?, Option.toList_none, List.append_nil]
      exact ih
    | add metric value =>
      simp only [messageOf?, Option.toList_none, List.append_nil]
      exact ih
    | append other message =>
      have set : ((collect bound observations).observe (.append other message)).logs =
          Assoc.set other (countEntry bound (((collect bound observations).logs.get? other).getD []) message)
            (collect bound observations).logs := by
        rw [observe, append, bound_collect]
      rw [set, Assoc.get?_set]
      by_cases same : other = log
      · subst same
        have held : ((collect bound observations).logs.get? other).getD [] =
            entriesOf bound (messagesOf other observations) := by
          rw [ih]
          split
          · rename_i none
            rw [none]
            simp [entriesOf, admitted, Assoc.tabulate]
          · rfl
        rw [if_pos rfl, messageOf?, if_pos rfl, Option.toList_some, if_neg (by simp), held, countEntry_entriesOf]
      · rw [if_neg same, messageOf?, if_neg same, Option.toList_none, List.append_nil, ih]

end Collect

section Ranking

/-- The order of reported entries, without ties among entries of different texts. -/
def Outranks (a b : String × Nat) : Prop := b.2 < a.2 ∨ a.2 = b.2 ∧ a.1 < b.1

theorem precedes_iff (a b : String × Nat) : precedes a b = true ↔ b.2 < a.2 ∨ a.2 = b.2 ∧ a.1 ≤ b.1 := by
  rw [precedes, Bool.or_eq_true, Bool.and_eq_true, decide_eq_true_iff, beq_iff_eq, Bool.not_eq_true',
    decide_eq_false_iff_not, String.not_lt]

theorem precedes_trans (a b c : String × Nat) (first : precedes a b = true) (second : precedes b c = true) :
    precedes a c = true := by
  rw [precedes_iff] at first second ⊢
  rcases first with less | ⟨same, le⟩ <;> rcases second with less' | ⟨same', le'⟩
  · exact .inl (by omega)
  · exact .inl (by omega)
  · exact .inl (by omega)
  · exact .inr ⟨same.trans same', String.le_trans le le'⟩

theorem precedes_total (a b : String × Nat) : (precedes a b || precedes b a) = true := by
  rw [Bool.or_eq_true, precedes_iff, precedes_iff]
  rcases Nat.lt_trichotomy a.2 b.2 with less | same | greater
  · exact .inr (.inl less)
  · exact (String.le_total a.1 b.1).imp (fun le => .inr ⟨same, le⟩) fun le => .inr ⟨same.symm, le⟩
  · exact .inl (.inl greater)

/-- What is reported of a log after some messages: what it holds, in the order of reports. As no text has two entries,
there is only one such report. -/
structure Ranking (bound : Nat) (messages : List String) (report : List (String × Nat)) : Prop where
  entries : report.Perm ((messages.eraseDups.take bound).map fun message => (message, messages.count message))
  ranked : report.Pairwise Outranks
  distinct : (report.map Prod.fst).Nodup

/-- Sorting the entries by their order of precedence gives such a report. -/
theorem ranking_mergeSort (bound : Nat) (messages : List String) :
    Ranking bound messages ((entriesOf bound messages).mergeSort precedes) := by
  have entries : ((entriesOf bound messages).mergeSort precedes).Perm (entriesOf bound messages) :=
    List.mergeSort_perm _ _
  have names : (entriesOf bound messages).map Prod.fst = admitted bound messages := Assoc.keys_tabulate _ _
  have distinct : (((entriesOf bound messages).mergeSort precedes).map Prod.fst).Nodup := by
    rw [(entries.map Prod.fst).nodup_iff, names]
    exact nodup_admitted bound messages
  refine ⟨entries, ?_, distinct⟩
  have sorted := List.pairwise_mergeSort precedes_trans precedes_total (entriesOf bound messages)
  refine (sorted.and (List.pairwise_map.mp distinct)).imp fun {a b} ⟨first, ne⟩ => ?_
  exact ((precedes_iff a b).mp first).imp_right fun ⟨same, le⟩ => ⟨same, Keyed.lt_of_not_lt ne (String.not_lt.mpr le)⟩

end Ranking

/-- What happens to a heartbeat: it is told something, or what it holds is taken. -/
inductive Turn where
  | tell (observation : Observation)
  | take

/-- A heartbeat through some turns: what the takes report, and what is held in the end. -/
def play : Heartbeat → List Turn → List Snapshot × Heartbeat
  | h, [] => ([], h)
  | h, .tell o :: rest => play (h.observe o) rest
  | h, .take :: rest =>
    let (report, next) := h.take
    let (reports, last) := play next rest
    (report :: reports, last)

/-- The observations from each take to the next, and those after the last. `since` were made before the turns. -/
def periodsFrom (since : List Observation) : List Turn → List (List Observation) × List Observation
  | [] => ([], since)
  | .tell o :: rest => periodsFrom (since ++ [o]) rest
  | .take :: rest =>
    let (periods, last) := periodsFrom [] rest
    (since :: periods, last)

def periods (turns : List Turn) : List (List Observation) × List Observation := periodsFrom [] turns

/-- A take leaves nothing behind, so each report and what is held are about one period alone. By induction over the
turns, from any observations made before them. -/
theorem play_collect (bound : Nat) (since : List Observation) (turns : List Turn) :
    play (collect bound since) turns =
      ((periodsFrom since turns).1.map fun period => (collect bound period).snapshot,
        collect bound (periodsFrom since turns).2) := by
  induction turns generalizing since with
  | nil => rfl
  | cons turn rest ih =>
    cases turn with
    | tell o => rw [play, ← collect_concat, ih, periodsFrom]
    | take =>
      have cleared : (collect bound since).take = ((collect bound since).snapshot, collect bound []) := by
        rw [take, bound_collect]
        rfl
      simp only [play, cleared, ih, periodsFrom, List.map_cons]

theorem name_injective {log other : ErrorLog} (same : log.name = other.name) : log = other := by
  cases log <;> cases other <;> simp [ErrorLog.name] at same ⊢

/-- The entries of a log, ranked, under its name. -/
def rankedLog (e : ErrorLog × Assoc String Nat) : String × List (String × Nat) := (e.1.name, e.2.mergeSort precedes)

theorem get?_rankedLogs (logs : Assoc ErrorLog (Assoc String Nat)) (log : ErrorLog) :
    Keyed.get? log.name (logs.map rankedLog) = (logs.get? log).map (·.mergeSort precedes) := by
  induction logs with
  | nil => rfl
  | cons e rest ih =>
    obtain ⟨other, entries⟩ := e
    rw [List.map_cons, rankedLog, Keyed.get?_cons, Assoc.get?, ih]
    by_cases same : other = log
    · rw [if_pos (congrArg _ same), if_pos same, Option.map_some]
    · rw [if_neg (fun is => same (name_injective is)), if_neg same]

theorem get?_logs_snapshot {h : Heartbeat} (nodup : h.logs.keys.Nodup) (key : String) :
    h.snapshot.logs.get? key = Keyed.get? key (h.logs.map rankedLog) := by
  refine Keyed.get?_ofList ?_ key
  have names : (h.logs.map rankedLog).map Prod.fst = h.logs.keys.map ErrorLog.name := by
    rw [List.map_map, Assoc.keys, List.map_map]
    rfl
  change ((h.logs.map rankedLog).map Prod.fst).Nodup
  rw [names]
  exact nodup.map fun _ _ => name_injective

/-- What a report says of the logs: of each that something was appended to its ranking, and nothing of any other. -/
structure LogsReported (bound : Nat) (period : List Observation) (report : Snapshot) : Prop where
  appended : ∀ log, messagesOf log period ≠ [] →
    ∃ entries, report.logs.get? log.name = some entries ∧ Ranking bound (messagesOf log period) entries
  others : ∀ key, (∀ log, log.name = key → messagesOf log period = []) → report.logs.get? key = none
  sorted : report.logs.Sorted

theorem logsReported_collect (bound : Nat) (period : List Observation) :
    LogsReported bound period (collect bound period).snapshot := by
  have nodup := nodup_keys_collect bound period
  refine ⟨fun log came => ?_, fun key none => ?_, Keyed.sorted_ofList _⟩
  · refine ⟨_, ?_, ranking_mergeSort bound (messagesOf log period)⟩
    rw [get?_logs_snapshot nodup, get?_rankedLogs, get?_logs_collect, if_neg came, Option.map_some]
  · rw [get?_logs_snapshot nodup]
    refine Keyed.get?_eq_none fun m member is => ?_
    obtain ⟨e, there, rfl⟩ := List.mem_map.mp member
    have held : ((collect bound period).logs.get? e.1).isSome := Assoc.mem_keys_iff.mp (List.mem_map_of_mem there)
    rw [get?_logs_collect, if_pos (none e.1 is)] at held
    cases held

/-- Whatever a heartbeat is told and whenever it is taken from: each take reports, for the logs appended to since the
take before and for no other, the first distinct messages with the number of times that each came, the most frequent
first; and at no moment has a log more entries than the bound. The bound may be anything, zero included. -/
theorem logs_accounted (bound : Nat) (turns : List Turn) :
    List.Forall₂ (LogsReported bound) (periods turns).1 (play { bound } turns).1 ∧
    ∀ moment log, (((play { bound } (turns.take moment)).2.logs.get? log).getD []).length ≤ bound := by
  have run (turns : List Turn) := play_collect bound [] turns
  refine ⟨?_, fun moment log => ?_⟩
  · change List.Forall₂ _ _ (play (collect bound []) turns).1
    rw [run]
    exact List.forall₂_map_right_iff.mpr (List.forall₂_same.mpr fun period _ => logsReported_collect bound period)
  · change (((play (collect bound []) (turns.take moment)).2.logs.get? log).getD []).length ≤ bound
    rw [run, get?_logs_collect]
    split
    · exact Nat.zero_le bound
    · exact length_entriesOf_le bound _

/-- With room for two messages, the third is not counted, and the first counts on; the take starts over. -/
example : (play { bound := 2 } ((["b", "a", "c", "a"].map fun message => .tell (.append .apiServer message)) ++
      [.take, .tell (.append .apiServer "c"), .take])).1.map Snapshot.logs =
    [[("ApiServerTopExceptionsEncountered", [("a", 2), ("b", 1)])],
      [("ApiServerTopExceptionsEncountered", [("c", 1)])]] := by
  cbv

end Heartbeat

end Graft
