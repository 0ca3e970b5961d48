import Graft.Proofs.Rounding
import Graft.Proofs.Schedule
import Mathlib.Data.ENat.Lattice

namespace Graft

namespace Dialogue

/-- What can be seen of work from outside. -/
inductive Happening where
  | call
  | sleep (delay : Duration)
deriving DecidableEq, Repr

def Happening.delay? : Happening → Option Duration
  | call => none
  | sleep delay => some delay

variable {ρ α : Type} (results : Nat → ρ) (jitter : Nat → Jitter)

/-- What happens during work whose calls have a sequence of results, after some calls and pauses, and what comes of
it. -/
def enact : Dialogue Unit (fun _ => ρ) α → (calls pauses : Nat) → List Happening × α
  | done result, _, _ => ([], result)
  | note _ next, calls, pauses => next.enact calls pauses
  | pause delay next, calls, pauses =>
    let rest := next.enact calls (pauses + 1)
    (.sleep (delay (jitter pauses)) :: rest.1, rest.2)
  | ask _ next, calls, pauses =>
    let rest := (next (results calls)).enact (calls + 1) pauses
    (.call :: rest.1, rest.2)

/-- Answers calls with the results one after another. -/
def successive (_ : Unit) (calls : Nat) : Option ρ × Nat := (some (results calls), calls + 1)

/-- A run against the results takes this course. -/
theorem run_successive (d : Dialogue Unit (fun _ => ρ) α) (c : Course Nat) :
    let seen := d.enact results jitter c.state c.pauses.length
    let ran := d.run (successive results) jitter c
    ran.1 = some seen.2 ∧ ran.2.state = c.state + seen.1.count .call ∧
      ran.2.pauses = c.pauses ++ seen.1.filterMap Happening.delay? := by
  induction d generalizing c with
  | done result => simp [enact]
  | note observation next ih => exact ih _
  | pause delay next ih =>
    obtain ⟨result, state, pauses⟩ := ih { c with pauses := c.pauses ++ [delay (jitter c.pauses.length)] }
    rw [List.length_append, List.length_singleton] at result state pauses
    refine ⟨result, state.trans ?_, pauses.trans ?_⟩
    · simp [enact]
    · simp [enact, Happening.delay?]
  | ask call next ih =>
    obtain ⟨result, state, pauses⟩ := ih (results c.state) { c with state := c.state + 1 }
    refine ⟨result, state.trans ?_, pauses.trans ?_⟩
    · simp [enact, Nat.add_assoc, Nat.add_comm 1]
    · rfl

end Dialogue

namespace Backoff

variable {α : Type}

/-- Whether a result is a failure that may pass. -/
def passing : Except Api.Error α → Bool
  | .ok _ => false
  | .error e => e.isTransient

/-- The call that a result comes back from. -/
def single : Dialogue Unit (fun _ => Except Api.Error α) (Except Api.Error α) := .request ()

/-- The delay before a repetition, counted from zero. -/
def delay (b : Backoff) (jitter : Nat → Jitter) (i : Nat) : Duration :=
  (b.nominalDelay (UInt32.ofNat (i + 1))).times (jitter i).factor

section Form

variable {Call : Type} {Reply : Call → Type} (b : Backoff) (call : Dialogue Call Reply (Except Api.Error α))

theorem retryFrom_succ (failures left : Nat) :
    b.retryFrom call failures (left + 1) = call.bind fun result =>
      if passing result then
        .pause (fun jitter => b.delay (fun _ => jitter) failures) (b.retryFrom call (failures + 1) left)
      else .done result := by
  rw [retryFrom]
  congr 1
  funext result
  cases result with
  | ok value => rfl
  | error e => rfl

/-- Nothing is asked for but the call, so it is enough to look at work that makes single calls. -/
theorem retryFrom_eq_via (failures left : Nat) :
    b.retryFrom call failures left = (b.retryFrom single failures left).via fun _ => call := by
  induction left generalizing failures with
  | zero => exact (Dialogue.bind_done call).symm
  | succ left ih =>
    rw [retryFrom_succ, retryFrom_succ, single, Dialogue.request, Dialogue.bind, Dialogue.via]
    congr 1
    funext result
    rw [Dialogue.bind]
    split
    · rw [Dialogue.via, ih, single, Dialogue.request]
    · rfl

end Form

section Calls

variable (b : Backoff) (outcomes : Nat → Except Api.Error α) (jitter : Nat → Jitter)

/-- How many calls up to the first result that is settled; infinitely many, if none is. -/
noncomputable def settledAt : ℕ∞ := ⨅ n, ⨅ (_ : passing (outcomes n) = false), ((n + 1 : ℕ) : ℕ∞)

/-- How often a call is repeated, when that may be done a number of times. -/
def repeats (first : Nat) : Nat → Nat
  | 0 => 0
  | left + 1 => if passing (outcomes first) then repeats (first + 1) left + 1 else 0

theorem repeats_le (first left : Nat) : repeats outcomes first left ≤ left := by
  induction left generalizing first with
  | zero => exact Nat.le_refl 0
  | succ left ih =>
    rw [repeats]
    split
    · exact Nat.succ_le_succ (ih _)
    · exact Nat.zero_le _

theorem passing_of_lt {first left i : Nat} (less : i < repeats outcomes first left) :
    passing (outcomes (first + i)) = true := by
  induction left generalizing first i with
  | zero => cases less
  | succ left ih =>
    rw [repeats] at less
    split at less
    · rename_i passes
      cases i with
      | zero => exact passes
      | succ i =>
        have later := ih (Nat.lt_of_succ_lt_succ less)
        rwa [Nat.add_assoc, Nat.add_comm 1] at later
    · cases less

theorem settled_of_lt {first left : Nat} (less : repeats outcomes first left < left) :
    passing (outcomes (first + repeats outcomes first left)) = false := by
  induction left generalizing first with
  | zero => cases less
  | succ left ih =>
    rw [repeats] at less ⊢
    split at less
    · rename_i passes
      have later := ih (Nat.lt_of_succ_lt_succ less)
      rw [if_pos passes]
      rwa [Nat.add_assoc, Nat.add_comm 1] at later
    · rename_i settled
      rw [if_neg settled]
      exact Bool.eq_false_of_not_eq_true settled

/-- The calls are those up to the first settled result, or as many as may be made, if that is less. -/
theorem repeats_eq_min (left : Nat) :
    ((repeats outcomes 0 left + 1 : ℕ) : ℕ∞) = min (settledAt outcomes) ((left + 1 : ℕ) : ℕ∞) := by
  refine le_antisymm (le_min (le_iInf₂ fun n settled => ?_) ?_) ?_
  · -- No call is repeated after a settled result.
    refine Nat.cast_le.mpr (Nat.succ_le_succ (Nat.le_of_not_lt fun less => ?_))
    have passes := passing_of_lt outcomes less
    rw [Nat.zero_add, settled] at passes
    cases passes
  · exact Nat.cast_le.mpr (Nat.succ_le_succ (repeats_le outcomes 0 left))
  · rcases Nat.lt_or_eq_of_le (repeats_le outcomes 0 left) with less | full
    · have settled := settled_of_lt outcomes less
      rw [Nat.zero_add] at settled
      exact (min_le_left _ _).trans (iInf_le_of_le _ (iInf_le _ settled))
    · rw [full]
      exact min_le_right _ _

/-- A call and its repetitions, with a pause before each of them. -/
def conversation (first repetitions : Nat) : List Dialogue.Happening :=
  .call :: (List.range' first repetitions).flatMap fun i => [.sleep (b.delay jitter i), .call]

theorem conversation_succ (first repetitions : Nat) :
    b.conversation jitter first (repetitions + 1) =
      .call :: .sleep (b.delay jitter first) :: b.conversation jitter (first + 1) repetitions := by
  simp [conversation, List.range'_succ]

theorem count_call_conversation (first repetitions : Nat) :
    (b.conversation jitter first repetitions).count .call = repetitions + 1 := by
  induction repetitions generalizing first with
  | zero => rfl
  | succ repetitions ih => simp [conversation_succ, ih]

theorem delays_conversation (first repetitions : Nat) :
    (b.conversation jitter first repetitions).filterMap Dialogue.Happening.delay? =
      (List.range' first repetitions).map (b.delay jitter) := by
  induction repetitions generalizing first with
  | zero => rfl
  | succ repetitions ih =>
    rw [conversation_succ, List.range'_succ, List.map_cons, ← ih]
    rfl

/-- After a number of failures in a row, as many calls and pauses are behind. The rest is a conversation that ends with
its first settled result, or when no more calls may be made. -/
theorem enact_retryFrom (failures left : Nat) :
    (b.retryFrom single failures left).enact outcomes jitter failures failures =
      (b.conversation jitter failures (repeats outcomes failures left),
        outcomes (failures + repeats outcomes failures left)) := by
  induction left generalizing failures with
  | zero => rfl
  | succ left ih =>
    rw [retryFrom_succ, single, Dialogue.request, Dialogue.bind, Dialogue.enact, Dialogue.bind, repeats]
    split
    · -- As many calls as pauses are behind, so the next of either is the next failure's.
      have after := ih (failures + 1)
      rw [single, Dialogue.request] at after
      rw [Dialogue.enact, after, conversation_succ, Nat.add_assoc, Nat.add_comm 1]
      rfl
    · rfl

/-- What becomes of a call that is repeated. -/
structure Retried {Call : Type} {Reply : Call → Type} (call : Dialogue Call Reply (Except Api.Error α)) (calls : Nat) :
    Prop where
  /-- As many calls as it takes to get a settled result, if they may be made; one in any case. -/
  number : (calls : ℕ∞) = min (settledAt outcomes) ((max 1 b.attempts.toNat : ℕ) : ℕ∞)
  /-- The work is that with a single call, made as the call. -/
  form : b.retry call = (b.retry single).via fun _ => call
  /-- Between any two calls there is one pause, and the last one has the result. -/
  course : (b.retry single).enact outcomes jitter 0 0 =
    (b.conversation jitter 0 (calls - 1), outcomes (calls - 1))
  /-- The run of it ends, after those calls and pauses. -/
  ends : ∀ heartbeat, let ran := (b.retry single).run (Dialogue.successive outcomes) jitter ⟨0, heartbeat, []⟩
    ran.1 = some (outcomes (calls - 1)) ∧ ran.2.state = calls ∧
      ran.2.pauses = (List.range (calls - 1)).map (b.delay jitter)
  /-- Neither a success nor a failure for good is asked for again; a conflict is one. -/
  replayed : ∀ i, i + 1 < calls →
    ∃ e, outcomes i = .error e ∧ e.isTransient = true ∧ ∀ r, e = .response r → r.code ≠ 409
  /-- The number of the failure is one of 32 bits, and chance changes its delay by one half at most. -/
  delays : ∀ i, i + 1 < calls → (UInt32.ofNat (i + 1)).toNat = i + 1 ∧
    Duration.Around (b.nominalDelay (UInt32.ofNat (i + 1))) (b.delay jitter i)

end Calls

theorem exists_error_of_passing {result : Except Api.Error α} (passes : passing result = true) :
    ∃ e, result = .error e ∧ e.isTransient = true ∧ ∀ r, e = .response r → r.code ≠ 409 := by
  cases result with
  | ok value => cases passes
  | error e =>
    refine ⟨e, rfl, passes, ?_⟩
    rintro r rfl conflict
    simp [passing, Api.Error.isTransient, conflict] at passes

/-- Retrying is bounded, and a settled call is never made again. This holds for every schedule whose delays are lengths
of time also half as long again, for every sequence of results and however chance changes the delays. -/
theorem retry_settles (b : Backoff) (fits : ∀ failures, 3 * (b.nominalDelay failures).nanoseconds ≤ 2 * Duration.limit)
    (outcomes : Nat → Except Api.Error α) (jitter : Nat → Jitter) {Call : Type} {Reply : Call → Type}
    (call : Dialogue Call Reply (Except Api.Error α)) : ∃ calls, b.Retried outcomes jitter call calls := by
  have bounded := repeats_le outcomes 0 (b.attempts.toNat - 1)
  have wide := b.attempts.toNat_lt
  have allowed : b.attempts.toNat - 1 + 1 = max 1 b.attempts.toNat := by omega
  have course : (b.retry single).enact outcomes jitter 0 0 = _ := b.enact_retryFrom outcomes jitter 0 _
  rw [Nat.zero_add] at course
  refine ⟨repeats outcomes 0 (b.attempts.toNat - 1) + 1, ?_, b.retryFrom_eq_via call 0 _, course, ?_, ?_, ?_⟩
  · rw [← allowed]
    exact repeats_eq_min outcomes _
  · intro heartbeat
    obtain ⟨result, state, pauses⟩ :=
      Dialogue.run_successive outcomes jitter (b.retry single) ⟨0, heartbeat, []⟩
    rw [List.length_nil, course] at result state pauses
    refine ⟨result, ?_, ?_⟩
    · rw [state, count_call_conversation, Nat.zero_add]
    · rw [pauses, delays_conversation, List.nil_append, List.range_eq_range']
      rfl
  · intro i less
    have passes := passing_of_lt outcomes (Nat.lt_of_succ_lt_succ less)
    rw [Nat.zero_add] at passes
    exact exists_error_of_passing passes
  · intro i less
    exact ⟨Nat.mod_eq_of_lt (by omega), Duration.around_times (fits _) (jitter i)⟩

/-- A server that is unavailable to two calls. -/
def outage : Nat → Except Api.Error Nat
  | 0 | 1 => .error (.response { status := "Failure", message := "status 503", reason := "Test", code := 503 })
  | _ => .ok 42

theorem outage_outlasted : (∀ failures, 3 * (apiCalls.nominalDelay failures).nanoseconds ≤ 2 * Duration.limit) ∧
    apiCalls.Retried outage (fun _ => default) single 3 := by
  have fits (failures : UInt32) : 3 * (apiCalls.nominalDelay failures).nanoseconds ≤ 2 * Duration.limit :=
    (Nat.mul_le_mul_left 3 (apiCalls.nominalDelay_le failures)).trans (by decide +kernel)
  obtain ⟨calls, retried⟩ := apiCalls.retry_settles fits outage (fun _ => default) single
  have three : calls = 3 := (retried.ends {}).2.1.symm
  rw [three] at retried
  exact ⟨fits, retried⟩

end Backoff

end Graft
