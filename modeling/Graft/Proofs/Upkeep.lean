import Graft.Proofs.Fitness
import Graft.Proofs.Rollout
import Mathlib.Data.List.Chain

namespace Graft

namespace Certificate

/-- Passes one after another. -/
def runAll : List Pass → Vault → Heartbeat → List Report × Heartbeat
  | [], _, h => ([], h)
  | p :: rest, v, h =>
    let (report, h) := p.run v h
    let (reports, h) := runAll rest report.vault h
    (report :: reports, h)

/-- Everything that happened, in order. -/
def history (reports : List Report) : List Event := reports.flatMap Report.events

def reports : List Pass → Vault → List Report
  | [], _ => []
  | p :: rest, v => p.report v :: reports rest (p.report v).vault

theorem runAll_eq (passes : List Pass) (v : Vault) (h : Heartbeat) : runAll passes v h =
    (reports passes v, ((history (reports passes v)).filterMap Event.metric?).foldl Heartbeat.count h) := by
  induction passes generalizing v h with
  | nil => rfl
  | cons p rest ih =>
    have happened : (p.report v).events = p.events v := rfl
    simp only [runAll, Pass.run_eq, ih, reports, history, List.flatMap_cons, List.filterMap_append, List.foldl_append,
      happened]

def Call.writesMaterial : Call → Bool
  | .writeMaterial _ => true
  | _ => false

def Fate.succeeded : Fate → Bool
  | .success => true
  | .failure .. => false

namespace Event

def secretWritten (event : Event) : Bool := event.call.writesMaterial && event.fate.succeeded

end Event

/-- What holds of one pass, whatever it came upon. -/
structure Report.Sound (r : Report) : Prop where
  ends : ∃ result, r.result = some result
  consistent : ∀ outcome, r.result = some (.ok outcome) →
    ∃ m, r.vault.material = some m ∧ r.pass.unfit m = none ∧ r.vault.bundle = some m.caCert
  idle : r.result = some (.ok .upToDate) → ∀ event ∈ r.events, event.call = .readMaterial ∨ event.call = .readBundle
  /-- Nothing follows a call that fails. -/
  stops : ∀ before event after, r.events = before ++ event :: after → after ≠ [] → event.fate = .success

/-- What each of the passes generates is fit for that pass. -/
def Fresh (passes : List Pass) : Prop := ∀ p ∈ passes, ∀ m, p.fresh = .ok m → p.unfit m = none

/-- What any of the passes generates is fit for all of them. Of the material that was stored before them nothing is
assumed. -/
def Durable (passes : List Pass) : Prop := ∀ p ∈ passes, ∀ m, p.fresh = .ok m → ∀ q ∈ passes, q.unfit m = none

theorem map_pass_reports (passes : List Pass) (v : Vault) : (reports passes v).map Report.pass = passes := by
  induction passes generalizing v with
  | nil => rfl
  | cons p rest ih => exact congrArg (p :: ·) (ih _)

theorem Fresh.tail {p : Pass} {rest : List Pass} (fresh : Fresh (p :: rest)) : Fresh rest :=
  fun q there => fresh q (List.mem_cons_of_mem _ there)

theorem Durable.tail {p : Pass} {rest : List Pass} (durable : Durable (p :: rest)) : Durable rest :=
  fun q member m made r there => durable q (List.mem_cons_of_mem _ member) m made r (List.mem_cons_of_mem _ there)

/-- An inspection that takes every text for a certificate of a long life. -/
def lenientInspection : Inspection where
  load _ _ := .ok ()
  isSignedBy _ _ := .ok true
  expiry _ := .ok 315360000

/-- A pass that fails where its calls do, with new material by a name. -/
def passWith (name : String) (fate : Call → Fate) : Pass where
  unfit := Material.faultBy lenientInspection 0
  fresh := .ok ⟨name, name, name, name⟩
  fate

def refusedRestart : Call → Fate
  | .restart => .failure (.malformedObject (.reported "forbidden")) false
  | _ => .success

/-- Material that no bundle has been set for yet. -/
def untrustedVault : Vault := { material := some ⟨"old", "old", "old", "old"⟩ }

end Certificate

end Graft
