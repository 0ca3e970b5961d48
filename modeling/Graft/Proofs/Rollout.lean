import Graft.Certificate.Fitness
import Graft.Proofs.Tally

namespace Graft.Certificate

/-- How a call ends. Any call may fail, and a write that fails may have taken effect all the same. -/
inductive Fate where
  | success
  | failure (e : Graft.Error) (landed : Bool)
deriving DecidableEq

namespace Fate

/-- Whether the call has taken effect. -/
def landed : Fate → Bool
  | success => true
  | failure _ landed => landed

def error? : Fate → Option Graft.Error
  | success => none
  | failure e _ => some e

def reply {α : Type} (value : α) : Fate → Except Graft.Error α
  | success => .ok value
  | failure e _ => .error e

end Fate

/-- The Secret and the bundle, as they are. -/
structure Vault where
  material : Option Material := none
  bundle : Option String := none

structure Event where
  call : Call
  fate : Fate

namespace Event

/-- The metric that counts an event. -/
def metric? (event : Event) : Option Metric :=
  match event.call, event.fate with
  | .readMaterial, _ => none
  | .readBundle, _ => none
  | .writeMaterial _, .success => some .secretWrites
  | .writeMaterial _, .failure .. => some .failedSecretWrites
  | .writeBundle _, .success => some .webhookUpdates
  | .writeBundle _, .failure .. => none
  | .restart, _ => none

end Event

namespace Vault

def reply (v : Vault) (fate : Fate) : (call : Call) → Reply call
  | .readMaterial => fate.reply v.material
  | .readBundle => fate.reply v.bundle
  | .writeMaterial _ => fate.reply ()
  | .writeBundle _ => fate.reply ()
  | .restart => fate.reply ()

/-- What a call leaves that takes effect. -/
def after (v : Vault) : Call → Vault
  | .writeMaterial m => { v with material := some m }
  | .writeBundle caCert => { v with bundle := some caCert }
  | _ => v

def next (v : Vault) (event : Event) : Vault := if event.fate.landed then v.after event.call else v

end Vault

/-- What a pass comes upon: how it judges material, what it generates, and how each of its calls ends. It makes none
twice, so a fate for each call is enough. -/
structure Pass where
  unfit : Material → Option Reason
  fresh : Except Error Material
  fate : Call → Fate

/-- What became of a pass. -/
structure Report where
  pass : Pass
  events : List Event
  result : Option (Except Graft.Error Outcome)
  vault : Vault

/-- Calls to be made one after another, and the result if none of them fails. -/
structure Plan where
  calls : List Call
  outcome : Except Graft.Error Outcome

namespace Plan

/-- The calls up to the first that fails. -/
def attempt (fate : Call → Fate) : List Call → List Event
  | [] => []
  | call :: rest => ⟨call, fate call⟩ :: if fate call = .success then attempt fate rest else []

variable (plan : Plan) (fate : Call → Fate)

def events : List Event := attempt fate plan.calls

def result : Except Graft.Error Outcome :=
  match plan.calls.findSome? fun call => (fate call).error? with
  | some e => .error e
  | none => plan.outcome

end Plan

namespace Pass

def answer (p : Pass) (call : Call) (s : Vault × List Event) : Option (Reply call) × Vault × List Event :=
  let event := Event.mk call (p.fate call)
  (some (s.1.reply event.fate call), s.1.next event, s.2 ++ [event])

/-- Runs a pass against a vault. -/
def run (p : Pass) (v : Vault) (h : Heartbeat) : Report × Heartbeat :=
  let (result, course) := (reconcile p.unfit p.fresh).run p.answer (fun _ => default) ⟨(v, []), h, []⟩
  (⟨p, course.state.2, result, course.state.1⟩, course.heartbeat)

/-- What a pass does once it has read. -/
def remedy (p : Pass) (v : Vault) : Plan :=
  match faultOf p.unfit v.material v.bundle, p.fresh with
  | none, _ => ⟨[], .ok .upToDate⟩
  | some _, .error e => ⟨[], .error (.certificate e)⟩
  | some reason, .ok m => ⟨[.writeMaterial m, .writeBundle m.caCert, .restart], .ok (.regenerated reason)⟩

def plan (p : Pass) (v : Vault) : Plan :=
  { p.remedy v with calls := .readMaterial :: .readBundle :: (p.remedy v).calls }

def events (p : Pass) (v : Vault) : List Event := (p.plan v).events p.fate

def report (p : Pass) (v : Vault) : Report :=
  ⟨p, p.events v, some ((p.plan v).result p.fate), (p.events v).foldl Vault.next v⟩

end Pass

/-- Counts an event on the way. -/
def Event.noting (event : Event) (next : Dialogue Call Reply (Except Graft.Error Outcome)) :
    Dialogue Call Reply (Except Graft.Error Outcome) :=
  match event.metric? with
  | some metric => .note (.count metric) next
  | none => next

/-- Some work carries out a plan, up to the first call that fails. -/
def Follows (p : Pass) (v : Vault) (work : Dialogue Call Reply (Except Graft.Error Outcome)) (plan : Plan) : Prop :=
  ∀ (jitter : Nat → Jitter) (earlier : List Event) (h : Heartbeat) (pauses : List Duration),
    work.run p.answer jitter ⟨(v, earlier), h, pauses⟩ = (some (plan.result p.fate),
      ⟨((plan.events p.fate).foldl Vault.next v, earlier ++ plan.events p.fate),
        ((plan.events p.fate).filterMap Event.metric?).foldl Heartbeat.count h, pauses⟩)

section

variable {p : Pass} {v : Vault}

theorem run_noting (event : Event) (next : Dialogue Call Reply (Except Graft.Error Outcome)) (jitter : Nat → Jitter)
    (s : Vault × List Event) (h : Heartbeat) (pauses : List Duration) :
    (event.noting next).run p.answer jitter ⟨s, h, pauses⟩ =
      next.run p.answer jitter ⟨s, event.metric?.toList.foldl Heartbeat.count h, pauses⟩ := by
  unfold Event.noting
  cases event.metric? <;> rfl

theorem follows_done (outcome : Except Graft.Error Outcome) : Follows p v (.done outcome) ⟨[], outcome⟩ := by
  intro jitter earlier h pauses
  simp [Plan.events, Plan.attempt, Plan.result]

/-- One call more. If it fails the work is over, and if it does not, the work goes on against what the call has left. -/
theorem follows_ask {call : Call} {next : Reply call → Dialogue Call Reply (Except Graft.Error Outcome)}
    {work : Dialogue Call Reply (Except Graft.Error Outcome)} {rest : List Call} {outcome : Except Graft.Error Outcome}
    (failed : ∀ e landed, next (v.reply (.failure e landed) call) =
      Event.noting ⟨call, .failure e landed⟩ (.done (.error e)))
    (succeeded : next (v.reply .success call) = Event.noting ⟨call, .success⟩ work)
    (later : Follows p (v.after call) work ⟨rest, outcome⟩) : Follows p v (.ask call next) ⟨call :: rest, outcome⟩ := by
  intro jitter earlier h pauses
  cases fate : p.fate call with
  | failure e landed =>
    have events : Plan.events ⟨call :: rest, outcome⟩ p.fate = [⟨call, .failure e landed⟩] := by
      simp [Plan.events, Plan.attempt, fate]
    have result : Plan.result ⟨call :: rest, outcome⟩ p.fate = .error e := by simp [Plan.result, fate, Fate.error?]
    simp only [Dialogue.run, Pass.answer, fate, failed, run_noting, events, result]
    cases metric : Event.metric? ⟨call, .failure e landed⟩ <;> simp [metric]
  | success =>
    have events : Plan.events ⟨call :: rest, outcome⟩ p.fate =
        ⟨call, .success⟩ :: Plan.events ⟨rest, outcome⟩ p.fate := by
      simp [Plan.events, Plan.attempt, fate]
    have result : Plan.result ⟨call :: rest, outcome⟩ p.fate = Plan.result ⟨rest, outcome⟩ p.fate := by
      simp [Plan.result, fate, Fate.error?]
    have next : v.next ⟨call, .success⟩ = v.after call := rfl
    simp only [Dialogue.run, Pass.answer, fate, succeeded, run_noting, next, later jitter, events, result]
    cases metric : Event.metric? ⟨call, .success⟩ <;> simp [metric, next]

theorem follows_rollOut (m : Material) (reason : Reason) : Follows p v (rollOut m reason)
    ⟨[.writeMaterial m, .writeBundle m.caCert, .restart], .ok (.regenerated reason)⟩ := by
  -- The Secret, the bundle, the restart.
  refine follows_ask (fun _ _ => rfl) rfl ?_
  refine follows_ask (fun _ _ => rfl) rfl ?_
  refine follows_ask (fun _ _ => rfl) rfl ?_
  exact follows_done _

theorem follows_remedy (p : Pass) (v : Vault) : Follows p v
    (match faultOf p.unfit v.material v.bundle with
      | none => .done (.ok .upToDate)
      | some reason => match p.fresh with
        | .error e => .done (.error (.certificate e))
        | .ok m => rollOut m reason)
    (p.remedy v) := by
  unfold Pass.remedy
  cases faultOf p.unfit v.material v.bundle with
  | none => exact follows_done _
  | some reason =>
    cases p.fresh with
    | error e => exact follows_done _
    | ok m => exact follows_rollOut m reason

theorem follows_reconcile (p : Pass) (v : Vault) : Follows p v (reconcile p.unfit p.fresh) (p.plan v) := by
  -- The two reads leave the vault as it is, so the rest is about the same one.
  refine follows_ask (fun _ _ => rfl) rfl ?_
  refine follows_ask (fun _ _ => rfl) rfl ?_
  exact follows_remedy p v

end

/-- A pass follows its plan up to the first call that fails. What it is about to do is known from the vault as it
begins, for nobody else writes to the vault. -/
theorem Pass.run_eq (p : Pass) (v : Vault) (h : Heartbeat) :
    p.run v h = (p.report v, ((p.events v).filterMap Event.metric?).foldl Heartbeat.count h) := by
  unfold run
  rw [follows_reconcile p v]
  rfl

namespace Plan

variable {fate : Call → Fate} {calls : List Call}

theorem call_mem_of_attempt {event : Event} (member : event ∈ attempt fate calls) : event.call ∈ calls := by
  induction calls with
  | nil => cases member
  | cons call rest ih =>
    rcases List.mem_cons.mp member with rfl | later
    · exact List.mem_cons_self
    · split at later
      · exact List.mem_cons_of_mem _ (ih later)
      · cases later

theorem result_eq_ok_iff {plan : Plan} {outcome : Outcome} : plan.result fate = .ok outcome ↔
    plan.outcome = .ok outcome ∧ ∀ call ∈ plan.calls, fate call = .success := by
  have noError (call : Call) : (fate call).error? = none ↔ fate call = .success := by
    cases fate call <;> simp [Fate.error?]
  unfold result
  split
  · rename_i e found
    obtain ⟨call, member, failed⟩ := List.exists_of_findSome?_eq_some found
    refine iff_of_false nofun fun ⟨_, all⟩ => ?_
    rw [(noError call).mpr (all call member)] at failed
    cases failed
  · rename_i none
    have all : ∀ call ∈ plan.calls, fate call = .success := fun call member =>
      (noError call).mp (List.findSome?_eq_none_iff.mp none call member)
    exact (and_iff_left all).symm

end Plan

theorem faultOf_eq_none_iff {unfit : Material → Option Reason} {stored : Option Material} {bundle : Option String} :
    faultOf unfit stored bundle = none ↔ ∃ m, stored = some m ∧ unfit m = none ∧ bundle = some m.caCert := by
  cases stored with
  | none => simp [faultOf]
  | some m => cases fit : unfit m <;> simp [faultOf, fit]

/-- A pass has nothing to say against a vault. -/
def Pass.Content (p : Pass) (v : Vault) : Prop :=
  ∃ m, v.material = some m ∧ p.unfit m = none ∧ v.bundle = some m.caCert

namespace Pass

variable {p : Pass} {v : Vault}

/-- A pass only reads, or it also writes new material, the bundle for it, and restarts the server, in this order. -/
theorem plan_cases (p : Pass) (v : Vault) : (p.plan v).calls = [.readMaterial, .readBundle] ∨ ∃ m reason,
    p.fresh = .ok m ∧ p.plan v = ⟨[.readMaterial, .readBundle, .writeMaterial m, .writeBundle m.caCert, .restart],
      .ok (.regenerated reason)⟩ := by
  unfold plan remedy
  split
  · exact .inl rfl
  · exact .inl rfl
  · rename_i made
    exact .inr ⟨_, _, made, rfl⟩

theorem Content.plan_eq (content : p.Content v) : p.plan v = ⟨[.readMaterial, .readBundle], .ok .upToDate⟩ := by
  rw [plan, remedy, faultOf_eq_none_iff.mpr content]

theorem content_of_outcome (ends : (p.plan v).outcome = .ok .upToDate) : p.Content v := by
  rw [plan, remedy] at ends
  split at ends
  · rename_i none
    exact faultOf_eq_none_iff.mp none
  · cases ends
  · cases ends

/-- A pass that finds nothing leaves the vault as it is, whether it can read or not. -/
theorem Content.reads (content : p.Content v) :
    (∀ event ∈ p.events v, event.call = .readMaterial ∨ event.call = .readBundle) ∧ (p.report v).vault = v := by
  have reads : ∀ event ∈ p.events v, event.call = .readMaterial ∨ event.call = .readBundle := by
    intro event member
    rw [events, content.plan_eq] at member
    simpa using Plan.call_mem_of_attempt member
  refine ⟨reads, ?_⟩
  change (p.events v).foldl Vault.next v = v
  generalize p.events v = happened at reads
  induction happened with
  | nil => rfl
  | cons event rest ih =>
    have stays : v.next event = v := by
      rcases reads event List.mem_cons_self with read | read <;> simp [Vault.next, Vault.after, read]
    rw [List.foldl_cons, stays]
    exact ih fun other later => reads other (List.mem_cons_of_mem _ later)

/-- A pass that finds nothing and can read says so. -/
theorem Content.upToDate (content : p.Content v) (material : p.fate .readMaterial = .success)
    (bundle : p.fate .readBundle = .success) : (p.report v).result = some (.ok .upToDate) := by
  change some ((p.plan v).result p.fate) = _
  rw [content.plan_eq]
  exact congrArg some (Plan.result_eq_ok_iff.mpr ⟨rfl, by simp [material, bundle]⟩)

end Pass

end Graft.Certificate
