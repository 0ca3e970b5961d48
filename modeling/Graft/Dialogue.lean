import Graft.Duration
import Graft.Heartbeat

namespace Graft

/-- What a heartbeat is told. -/
inductive Observation where
  | count (metric : Metric)
  | add (metric : Metric) (value : Double)
  | append (log : ErrorLog) (entry : String)
deriving DecidableEq, Repr

def Heartbeat.observe (h : Heartbeat) : Observation → Heartbeat
  | .count metric => h.count metric
  | .add metric value => h.add metric value
  | .append log entry => h.append log entry

/-- A random factor from one half up to, but without, three halves: one half and a number of steps of 2⁻⁵². -/
structure Jitter where
  steps : Nat
  lt_range : steps < 4503599627370496 := by decide
deriving DecidableEq, Repr

instance : Inhabited Jitter := ⟨{ steps := 0 }⟩

/-- The factor; every one of them is a double. -/
def Jitter.factor (j : Jitter) : Double :=
  .finite false ((2251799813685248 + j.steps) * Double.pow2 1022)

/-- Work with a result of type `α` that makes calls, each with an answer of its own type, and goes on with the answer.
On the way it notes observations for the heartbeat and lets time pass. What answers the calls is left to whoever runs
it, so the same work can be run against a server, a script or a model. -/
inductive Dialogue (Call : Type) (Reply : Call → Type) (α : Type) where
  | done (result : α)
  | note (observation : Observation) (next : Dialogue Call Reply α)
  | pause (delay : Jitter → Duration) (next : Dialogue Call Reply α)
  | ask (call : Call) (next : Reply call → Dialogue Call Reply α)

namespace Dialogue

variable {Call : Type} {Reply : Call → Type} {α β : Type}

def bind : Dialogue Call Reply α → (α → Dialogue Call Reply β) → Dialogue Call Reply β
  | done result, f => f result
  | note observation next, f => note observation (next.bind f)
  | pause delay next, f => pause delay (next.bind f)
  | ask call next, f => ask call fun reply => (next reply).bind f

instance : Monad (Dialogue Call Reply) where
  pure := done
  bind := bind

/-- Makes one call. -/
def request (call : Call) : Dialogue Call Reply (Reply call) := ask call done

/-- The same work with every call made through calls of another kind. -/
def via {Call' : Type} {Reply' : Call' → Type} (carry : (call : Call) → Dialogue Call' Reply' (Reply call)) :
    Dialogue Call Reply α → Dialogue Call' Reply' α
  | done result => done result
  | note observation next => note observation (via carry next)
  | pause delay next => pause delay (via carry next)
  | ask call next => (carry call).bind fun reply => via carry (next reply)

/-- How far the surroundings of a dialogue have come: their own state, what has been observed, and the pauses
made. -/
structure Course (σ : Type) where
  state : σ
  heartbeat : Heartbeat := {}
  pauses : List Duration := []

/-- Runs a dialogue. Calls are answered from a state; the first that stays without an answer ends the run. The
`n`-th pause, counted from zero, draws the `n`-th factor. -/
def run {σ : Type} (answer : (call : Call) → σ → Option (Reply call) × σ) (jitter : Nat → Jitter) :
    Dialogue Call Reply α → Course σ → Option α × Course σ
  | done result, c => (some result, c)
  | note observation next, c => next.run answer jitter { c with heartbeat := c.heartbeat.observe observation }
  | pause delay next, c =>
    next.run answer jitter { c with pauses := c.pauses ++ [delay (jitter c.pauses.length)] }
  | ask call next, c =>
    match answer call c.state with
    | (some reply, state) => (next reply).run answer jitter { c with state }
    | (none, state) => (none, { c with state })

section Laws

variable {σ : Type} (answer : (call : Call) → σ → Option (Reply call) × σ) (jitter : Nat → Jitter)

@[simp] theorem run_done (result : α) (c : Course σ) :
    (done result : Dialogue Call Reply α).run answer jitter c = (some result, c) := rfl

/-- A run of a sequence goes on where the run of its first part ended. -/
theorem run_bind (d : Dialogue Call Reply α) (f : α → Dialogue Call Reply β) (c : Course σ) :
    (d.bind f).run answer jitter c =
      match d.run answer jitter c with
      | (some result, c) => (f result).run answer jitter c
      | (none, c) => (none, c) := by
  induction d generalizing c with
  | done result => rfl
  | note observation next ih => exact ih _
  | pause delay next ih => exact ih _
  | ask call next ih =>
    simp only [bind, run]
    split
    · exact ih _ _
    · rfl

theorem bind_done (d : Dialogue Call Reply α) : d.bind done = d := by
  induction d with
  | done result => rfl
  | note observation next ih => simp [bind, ih]
  | pause delay next ih => simp [bind, ih]
  | ask call next ih => simp [bind, ih]

theorem bind_assoc {γ : Type} (d : Dialogue Call Reply α) (f : α → Dialogue Call Reply β)
    (g : β → Dialogue Call Reply γ) : (d.bind f).bind g = d.bind fun a => (f a).bind g := by
  induction d with
  | done result => rfl
  | note observation next ih => simp [bind, ih]
  | pause delay next ih => simp [bind, ih]
  | ask call next ih => simp [bind, ih]

end Laws

end Dialogue

end Graft
