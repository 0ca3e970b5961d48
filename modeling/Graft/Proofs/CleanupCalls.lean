import Graft.Cleanup
import Graft.Proofs.Acceptance
import Graft.Proofs.Tally
import Mathlib.Logic.Function.Iterate

namespace Graft

/-- Counting one metric again and again. -/
theorem Heartbeat.Counted.iterate {h : Heartbeat} {metric : Metric} {n : Nat} (counted : h.Counted metric n)
    (times : Nat) : ((Heartbeat.count · metric)^[times] h).Counted metric (n + times) := by
  induction times generalizing h n with
  | zero => exact counted
  | succ times ih =>
    have added : (h.count metric).value metric = h.value metric + Double.ofInt 1 :=
      (Heartbeat.value_count h metric metric).trans (if_pos rfl)
    have first : (h.count metric).Counted metric (n + 1) := by
      rw [Heartbeat.Counted, added, counted, Double.counted_add_one]
    rw [Function.iterate_succ_apply, Nat.add_comm times, ← Nat.add_assoc]
    exact ih first

namespace Cleanup

/-- A patch that the job sends. -/
structure Shipment where
  ns : String
  name : String
  patch : Json.Patch

structure Attempt where
  shipment : Shipment
  outcome : Except Error Unit

def Attempt.succeeded (a : Attempt) : Bool :=
  match a.outcome with
  | .ok () => true
  | .error _ => false

/-- What the job meets: the list of workloads, and what becomes of the patches in the order in which it sends them. Any
of them may be rejected, and for any reason. -/
structure Encounter where
  listing : Except Error (List Workload)
  outcome : Nat → Except Error Unit

/-- The attempts so far count the patches. -/
def Encounter.answer (e : Encounter) : (call : Call) → List Attempt → Option (Reply call) × List Attempt
  | .list, attempts => (some e.listing, attempts)
  | .patch ns name patch, attempts =>
    (some (e.outcome attempts.length), attempts ++ [⟨⟨ns, name, patch⟩, e.outcome attempts.length⟩])

structure Report where
  result : Option (Except Error Nat)
  attempts : List Attempt
  heartbeat : Heartbeat

/-- The job from an empty heartbeat on. -/
def conduct (cluster : ClusterIdentity) (jitter : Nat → Jitter) (bound : Nat) (e : Encounter) : Report :=
  let (result, course) := (run cluster).run e.answer jitter { state := [], heartbeat := { bound } }
  ⟨result, course.state, course.heartbeat⟩

/-- A workload that the job has to patch. -/
structure Due (w : Workload) : Prop where
  injected : Injection.needsCleanup w.toJson = true
  named : nameOf w ≠ ""
  structured : Injection.Structured w.toJson

instance (w : Workload) : Decidable (Due w) :=
  decidable_of_iff (Injection.needsCleanup w.toJson = true ∧ nameOf w ≠ "" ∧
      (Injection.layers w.toJson).toOption.isSome = true) <| by
    have structured : (Injection.layers w.toJson).toOption.isSome = true ↔ Injection.Structured w.toJson := by
      rw [← Injection.exists_layers_iff]
      cases Injection.layers w.toJson <;> simp [Except.toOption]
    rw [structured]
    exact ⟨fun ⟨injected, named, structured⟩ => ⟨injected, named, structured⟩, fun h => ⟨h.1, h.2, h.3⟩⟩

/-- A call for a workload without a resource. -/
def withdrawal (cluster : ClusterIdentity) (w : Workload) : Injection.Governing where
  pod := PodIdentity.ofObject w.toJson (some (nsOf w))
  cluster := cluster

/-- The patch is the one that takes the injection out of the workload. -/
structure Ships (cluster : ClusterIdentity) (w : Workload) (s : Shipment) : Prop where
  ns : s.ns = nsOf w
  name : s.name = nameOf w
  patch : Injection.patch w.toJson (withdrawal cluster w) = .ok s.patch

/-- What the job sends for a workload. -/
def shipment? (cluster : ClusterIdentity) (w : Workload) : Option Shipment :=
  match reversal cluster w with
  | .ok (some patch) => some ⟨nsOf w, nameOf w, patch⟩
  | _ => none

section

variable {cluster : ClusterIdentity} {w : Workload} {s : Shipment}

/-- Without a resource a call takes no more than the layers of an object, so only a malformed workload cannot be
reverted. -/
theorem exists_withdrawal_iff : (∃ patch, Injection.patch w.toJson (withdrawal cluster w) = .ok patch) ↔
    Injection.Structured w.toJson := by
  obtain ⟨succeeds, _, _, _, patched⟩ := Injection.mutate_verdict w.toJson (withdrawal cluster w)
  have idle : (withdrawal cluster w).Idle := .inl rfl
  rw [patched, succeeds]
  exact ⟨And.left, fun structured => ⟨structured, fun busy => absurd idle busy⟩⟩

theorem reversal_eq : reversal cluster w = if Injection.needsCleanup w.toJson then
      if nameOf w = "" then .error (.malformedObject .noName)
      else (Injection.patch w.toJson (withdrawal cluster w)).map some
    else .ok none := rfl

/-- What the job sends for a workload: a patch if the workload is due, and then the one that takes the injection out. -/
theorem shipment?_eq_some_iff : shipment? cluster w = some s ↔ Due w ∧ Ships cluster w s := by
  rw [shipment?, reversal_eq]
  by_cases injected : Injection.needsCleanup w.toJson = true
  · by_cases named : nameOf w = ""
    · simp only [if_pos injected, if_pos named]
      exact ⟨nofun, fun h => absurd named h.1.named⟩
    · simp only [if_pos injected, if_neg named]
      cases run : Injection.patch w.toJson (withdrawal cluster w) with
      | error e =>
        refine ⟨nofun, fun h => ?_⟩
        cases run.symm.trans h.2.patch
      | ok patch =>
        have due : Due w := ⟨injected, named, exists_withdrawal_iff.mp ⟨patch, run⟩⟩
        constructor
        · rintro ⟨⟩
          exact ⟨due, rfl, rfl, run⟩
        · rintro ⟨_, ns, name, ships⟩
          obtain ⟨_, _, _⟩ := s
          cases ns
          cases name
          cases run.symm.trans ships
          rfl
  · simp only [if_neg injected]
    exact ⟨nofun, fun h => absurd h.1.injected injected⟩

theorem Due.exists_shipment (due : Due w) (cluster : ClusterIdentity) : ∃ s, shipment? cluster w = some s := by
  obtain ⟨patch, made⟩ := (@exists_withdrawal_iff cluster w).mpr due.structured
  exact ⟨⟨nsOf w, nameOf w, patch⟩, shipment?_eq_some_iff.mpr ⟨due, rfl, rfl, made⟩⟩

theorem shipment?_eq_none (not : ¬ Due w) : shipment? cluster w = none :=
  Option.eq_none_iff_forall_ne_some.mpr fun _ ships => not (shipment?_eq_some_iff.mp ships).1

end

variable (cluster : ClusterIdentity)

/-- What the job sends for some workloads. -/
def shipments (workloads : List Workload) : List Shipment := workloads.filterMap (shipment? cluster)

theorem ships_shipments (workloads : List Workload) :
    List.Forall₂ (Ships cluster) (workloads.filter (Due ·)) (shipments cluster workloads) := by
  induction workloads with
  | nil => exact .nil
  | cons w rest ih =>
    by_cases due : Due w
    · obtain ⟨s, ships⟩ := due.exists_shipment cluster
      rw [List.filter_cons_of_pos (by simpa using due), shipments, List.filterMap_cons_some ships]
      exact .cons (shipment?_eq_some_iff.mp ships).2 ih
    · rw [List.filter_cons_of_neg (by simpa using due), shipments, List.filterMap_cons_none (shipment?_eq_none due)]
      exact ih

/-- Attempts of which the first is the one with a number. -/
def attempted (outcome : Nat → Except Error Unit) (start : Nat) (sent : List Shipment) : List Attempt :=
  sent.mapIdx fun n s => ⟨s, outcome (start + n)⟩

theorem attempted_cons (outcome : Nat → Except Error Unit) (start : Nat) (s : Shipment) (rest : List Shipment) :
    attempted outcome start (s :: rest) = ⟨s, outcome start⟩ :: attempted outcome (start + 1) rest := by
  simp [attempted, List.mapIdx_cons, Nat.add_assoc, Nat.add_comm 1]

namespace Encounter

variable (e : Encounter) (jitter : Nat → Jitter)

/-- A workload that gets no patch leaves no trace, be it for want of an injection, of a name or of a sound template. -/
theorem run_revert_of_none {w : Workload} (none : shipment? cluster w = none) (c : Dialogue.Course (List Attempt)) :
    ∃ reverted, (revert cluster w).run e.answer jitter c = (some reverted, c) ∧ reverted ≠ .ok true := by
  rw [shipment?] at none
  rw [revert]
  cases found : reversal cluster w with
  | error cause => exact ⟨_, rfl, nofun⟩
  | ok patch? =>
    rw [found] at none
    cases patch? with
    | some patch => cases none
    | none => exact ⟨_, rfl, nofun⟩

theorem run_revert_of_some {w : Workload} {s : Shipment} (ships : shipment? cluster w = some s)
    (attempts : List Attempt) (h : Heartbeat) (pauses : List Duration) : ∃ reverted,
      (revert cluster w).run e.answer jitter ⟨attempts, h, pauses⟩ =
        (some reverted, ⟨attempts ++ [⟨s, e.outcome attempts.length⟩],
          if Attempt.succeeded ⟨s, e.outcome attempts.length⟩ then h.count .cleanedWorkloads else h, pauses⟩) ∧
      (reverted = .ok true ↔ Attempt.succeeded ⟨s, e.outcome attempts.length⟩ = true) := by
  rw [shipment?] at ships
  rw [revert]
  cases found : reversal cluster w with
  | error cause =>
    rw [found] at ships
    cases ships
  | ok patch? =>
    rw [found] at ships
    cases patch? with
    | none => cases ships
    | some patch =>
      cases ships
      have answered : e.answer (.patch (nsOf w) (nameOf w) patch) attempts = (some (e.outcome attempts.length),
          attempts ++ [⟨⟨nsOf w, nameOf w, patch⟩, e.outcome attempts.length⟩]) := rfl
      rw [Dialogue.run, answered]
      cases e.outcome attempts.length with
      | error cause => exact ⟨_, rfl, by constructor <;> intro success <;> cases success⟩
      | ok => exact ⟨_, rfl, fun _ => rfl, fun _ => rfl⟩

/-- All workloads, one after another, by induction over the list. The outcomes so far decide nothing about the patches
to come. -/
theorem run_revertAll (workloads : List Workload) (attempts : List Attempt) (h : Heartbeat) (pauses : List Duration) :
    (revertAll cluster workloads).run e.answer jitter ⟨attempts, h, pauses⟩ =
      let made := attempted e.outcome attempts.length (shipments cluster workloads)
      (some (made.countP Attempt.succeeded), ⟨attempts ++ made,
        (Heartbeat.count · .cleanedWorkloads)^[made.countP Attempt.succeeded] h, pauses⟩) := by
  induction workloads generalizing attempts h with
  | nil => simp [revertAll, shipments, attempted]
  | cons w rest ih =>
    cases sent : shipment? cluster w with
    | none =>
      obtain ⟨reverted, first, not⟩ := run_revert_of_none cluster e jitter sent ⟨attempts, h, pauses⟩
      have passed : shipments cluster (w :: rest) = shipments cluster rest := List.filterMap_cons_none sent
      rw [passed, revertAll, Dialogue.run_bind, first]
      simp only [Dialogue.run_bind, ih]
      rfl
    | some s =>
      obtain ⟨reverted, first, accepted⟩ := run_revert_of_some cluster e jitter sent attempts h pauses
      have made : shipments cluster (w :: rest) = s :: shipments cluster rest := List.filterMap_cons_some sent
      rw [made, revertAll, Dialogue.run_bind, first, attempted_cons]
      simp only [Dialogue.run_bind, ih, List.length_append, List.length_singleton, List.append_assoc,
        List.singleton_append, List.countP_cons]
      split
      · have success := accepted.mp rfl
        simp only [success, if_true, Function.iterate_succ_apply]
        rfl
      · rename_i not
        have failure : ¬ Attempt.succeeded ⟨s, e.outcome attempts.length⟩ = true := fun is => not (accepted.mpr is)
        simp only [if_neg failure]
        rfl

end Encounter

theorem map_shipment_attempted (outcome : Nat → Except Error Unit) (start : Nat) (sent : List Shipment) :
    (attempted outcome start sent).map Attempt.shipment = sent := by
  induction sent generalizing start with
  | nil => rfl
  | cons s rest ih => rw [attempted_cons, List.map_cons, ih]

theorem map_outcome_attempted (outcome : Nat → Except Error Unit) (start : Nat) (sent : List Shipment) :
    (attempted outcome start sent).map Attempt.outcome = (List.range' start sent.length).map outcome := by
  induction sent generalizing start with
  | nil => rfl
  | cons s rest ih => rw [attempted_cons, List.map_cons, ih, List.length_cons, List.range'_succ, List.map_cons]

variable (jitter : Nat → Jitter) (bound : Nat)

theorem conduct_listed (workloads : List Workload) (outcome : Nat → Except Error Unit) :
    conduct cluster jitter bound ⟨.ok workloads, outcome⟩ =
      let made := attempted outcome 0 (shipments cluster workloads)
      ⟨some (.ok (made.countP Attempt.succeeded)), made,
        (Heartbeat.count · .cleanedWorkloads)^[made.countP Attempt.succeeded] { bound }⟩ := by
  have all := Encounter.run_revertAll cluster ⟨.ok workloads, outcome⟩ jitter workloads [] { bound } []
  simp only [conduct, run, Dialogue.run, Encounter.answer, Dialogue.run_bind, all]
  rfl

/-- The patches that the job sends, in their order. -/
def sent (e : Encounter) : List Shipment := (conduct cluster jitter bound e).attempts.map Attempt.shipment

/-- The patches are settled before any of them has an outcome, so no rejection can change them. -/
theorem sent_eq (workloads : List Workload) (outcome : Nat → Except Error Unit) :
    sent cluster jitter bound ⟨.ok workloads, outcome⟩ = shipments cluster workloads := by
  rw [sent, conduct_listed]
  exact map_shipment_attempted outcome 0 _

/-- What the job does, and what it says of it. -/
structure Handled (e : Encounter) (report : Report) : Prop where
  fails : ∀ cause, report.result = some (.error cause) ↔ e.listing = .error cause
  unlisted : ∀ cause, e.listing = .error cause → report.attempts = []
  ships : ∀ workloads, e.listing = .ok workloads →
    List.Forall₂ (Ships cluster) (workloads.filter (Due ·)) (report.attempts.map Attempt.shipment)
  meets : report.attempts.map Attempt.outcome = (List.range report.attempts.length).map e.outcome
  returns : ∀ workloads, e.listing = .ok workloads →
    report.result = some (.ok (report.attempts.countP Attempt.succeeded))
  counts : report.heartbeat.value .cleanedWorkloads = Double.counted (report.attempts.countP Attempt.succeeded)

theorem handled (e : Encounter) : Handled cluster e (conduct cluster jitter bound e) := by
  obtain ⟨listing, outcome⟩ := e
  cases listing with
  | error cause =>
    have nothing : conduct cluster jitter bound ⟨.error cause, outcome⟩ = ⟨some (.error cause), [], { bound }⟩ := rfl
    rw [nothing]
    exact ⟨fun other => by simp, fun _ _ => rfl, nofun, rfl, nofun, Heartbeat.counted_empty bound _⟩
  | ok workloads =>
    rw [conduct_listed]
    refine ⟨fun _ => ⟨nofun, nofun⟩, nofun, ?_, ?_, fun _ _ => rfl, ?_⟩
    · rintro _ ⟨⟩
      simp only [map_shipment_attempted]
      exact ships_shipments cluster workloads
    · have length : (attempted outcome 0 (shipments cluster workloads)).length =
          (shipments cluster workloads).length := List.length_mapIdx
      simp only [length, map_outcome_attempted, List.range_eq_range']
    · have counted := (Heartbeat.counted_empty bound .cleanedWorkloads).iterate
        ((attempted outcome 0 (shipments cluster workloads)).countP Attempt.succeeded)
      rw [Nat.zero_add] at counted
      exact counted

/-- What a workload means for the others of a listing. -/
structure Isolated (before : List Workload) (w : Workload) (after : List Workload) (outcome : Nat → Except Error Unit) :
    Prop where
  passedOver : ¬ Due w → conduct cluster jitter bound ⟨.ok (before ++ w :: after), outcome⟩ =
    conduct cluster jitter bound ⟨.ok (before ++ after), outcome⟩
  shipped : Due w → ∃ s, Ships cluster w s ∧ ∀ first second,
    sent cluster jitter bound ⟨.ok (before ++ w :: after), outcome⟩ =
      sent cluster jitter bound ⟨.ok before, first⟩ ++ s :: sent cluster jitter bound ⟨.ok after, second⟩

theorem isolated (before : List Workload) (w : Workload) (after : List Workload) (outcome : Nat → Except Error Unit) :
    Isolated cluster jitter bound before w after outcome := by
  have parts : shipments cluster (before ++ w :: after) =
      shipments cluster before ++ shipments cluster (w :: after) := List.filterMap_append
  constructor
  · intro not
    have none : shipments cluster (w :: after) = shipments cluster after :=
      List.filterMap_cons_none (shipment?_eq_none not)
    have same : shipments cluster (before ++ w :: after) = shipments cluster (before ++ after) := by
      rw [parts, none]
      exact List.filterMap_append.symm
    rw [conduct_listed, conduct_listed, same]
  · intro due
    obtain ⟨s, ships⟩ := due.exists_shipment cluster
    refine ⟨s, (shipment?_eq_some_iff.mp ships).2, fun first second => ?_⟩
    have here : shipments cluster (w :: after) = s :: shipments cluster after := List.filterMap_cons_some ships
    rw [sent_eq, sent_eq, sent_eq, parts, here]

/-- The job fails only where there is no list, and then it has patched nothing. Otherwise each workload that is due is
patched once, in the order of the list, whatever happens to the others, and what is returned and counted is the number
of patches that were accepted. -/
theorem cleanup_isolates_failures (e : Encounter) : Handled cluster e (conduct cluster jitter bound e) ∧
    ∀ before w after, Isolated cluster jitter bound before w after e.outcome :=
  ⟨handled cluster jitter bound e, fun before w after => isolated cluster jitter bound before w after e.outcome⟩

/-- A deployment with the marker of an injection in its container. -/
def marked (name : String) : Workload where
  metadata := { name := some name, ns := some "apps" }
  data := [("spec", .obj [("template", .obj [("spec", .obj [("containers", .arr [
    .obj [("env", .arr [Injection.markerEntry]), ("name", .str "main")]])])])])]

/-- Three of them, of which one has no name, where the first patch is rejected. -/
def rejecting : Encounter where
  listing := .ok [marked "", marked "api", marked "web"]
  outcome n := if n = 0 then .error (.malformedObject .noName) else .ok ()

example : (conduct {} (fun _ => default) 10 rejecting).result = some (.ok 1) ∧
    (sent {} (fun _ => default) 10 rejecting).map (·.name) = ["api", "web"] := ⟨rfl, rfl⟩

end Cleanup

end Graft
