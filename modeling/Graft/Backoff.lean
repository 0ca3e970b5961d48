import Graft.Api.Error
import Graft.Dialogue

namespace Graft

/-- How often a call is made, the first time included, and how long to wait in between. -/
structure Backoff where
  attempts : UInt32
  initial : Duration
  longest : Duration
deriving DecidableEq, Repr

namespace Backoff

/-- Six calls within about half a minute. -/
def apiCalls : Backoff where
  attempts := 6
  initial := .ofMilliseconds 500
  longest := .ofMilliseconds 10000

/-- How often the delay has doubled after that many failures: not before the second, and sixteen times at
most. -/
def doublings (failures : UInt32) : Nat :=
  if failures.toNat ≤ 17 then failures.toNat - 1 else 16

/-- The delay after that many failures in a row, before chance changes it. -/
def nominalDelay (b : Backoff) (failures : UInt32) : Duration :=
  (b.initial.scale (Double.pow2 (doublings failures))).least b.longest

variable {Call : Type} {Reply : Call → Type} {α : Type}

/-- Makes a call after a number of failures, and up to a number of times more while it fails in a way that may pass. An
answer that is final, good or bad, is never asked for again. -/
def retryFrom (b : Backoff) (call : Dialogue Call Reply (Except Api.Error α)) (failures : Nat) :
    Nat → Dialogue Call Reply (Except Api.Error α)
  | 0 => call
  | left + 1 => call.bind fun
    | .ok value => .done (.ok value)
    | .error e =>
      if e.isTransient then
        .pause (fun jitter => (b.nominalDelay (UInt32.ofNat (failures + 1))).times jitter.factor)
          (b.retryFrom call (failures + 1) left)
      else .done (.error e)

/-- Makes a call until it succeeds, fails for good, or has been made as often as it may be; once in any
case. -/
def retry (b : Backoff) (call : Dialogue Call Reply (Except Api.Error α)) :
    Dialogue Call Reply (Except Api.Error α) :=
  b.retryFrom call 0 (b.attempts.toNat - 1)

end Backoff

end Graft
