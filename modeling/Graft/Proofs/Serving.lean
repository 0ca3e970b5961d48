import Graft.Proofs.Upkeep
import Mathlib.Data.List.Induction

namespace Graft.Certificate

/-- After every write of the Secret, the server has been restarted. It reads the Secret as it starts, so it then has
what is stored. -/
def Served (events : List Event) : Prop := ∀ before m after,
  events = before ++ ⟨.writeMaterial m, .success⟩ :: after → ⟨.restart, .success⟩ ∈ after

namespace Event

def restarted (event : Event) : Bool := event.call = .restart && event.fate.succeeded

/-- Whether the server has the stored material after an event, if it is known whether it had it before. -/
def serving (before : Bool) (event : Event) : Bool := if event.secretWritten then false else event.restarted || before

theorem secretWritten_iff {event : Event} :
    event.secretWritten = true ↔ ∃ m, event = ⟨.writeMaterial m, .success⟩ := by
  obtain ⟨call, fate⟩ := event
  cases call <;> cases fate <;> simp [secretWritten, Call.writesMaterial, Fate.succeeded]

theorem restarted_iff {event : Event} : event.restarted = true ↔ event = ⟨.restart, .success⟩ := by
  obtain ⟨call, fate⟩ := event
  cases call <;> cases fate <;> simp [restarted, Fate.succeeded]

end Event

theorem served_append_singleton (events : List Event) (event : Event) : Served (events ++ [event]) ↔
    event.secretWritten = false ∧ (event.restarted = true ∨ Served events) := by
  constructor
  · intro served
    have notWritten : event.secretWritten = false := by
      refine Bool.eq_false_iff.mpr fun written => ?_
      obtain ⟨m, rfl⟩ := Event.secretWritten_iff.mp written
      exact absurd (served events m [] rfl) List.not_mem_nil
    refine ⟨notWritten, ?_⟩
    by_cases restarted : event.restarted = true
    · exact .inl restarted
    · refine .inr fun before m after split => ?_
      have there := served before m (after ++ [event]) (by rw [split, List.append_assoc, List.cons_append])
      refine (List.mem_append.mp there).resolve_right fun last => restarted ?_
      exact Event.restarted_iff.mpr (List.mem_singleton.mp last).symm
  · rintro ⟨notWritten, cause⟩ before m after split
    rcases List.eq_nil_or_concat after with rfl | ⟨others, last, rfl⟩
    · obtain ⟨_, same⟩ := List.append_inj' split rfl
      rw [List.singleton_inj.mp same, Event.secretWritten_iff.mpr ⟨m, rfl⟩] at notWritten
      cases notWritten
    · rw [List.concat_eq_append, ← List.cons_append, ← List.append_assoc] at split
      obtain ⟨rfl, same⟩ := List.append_inj' split rfl
      cases List.singleton_inj.mp same
      rw [List.concat_eq_append]
      rcases cause with restarted | served
      · rw [Event.restarted_iff.mp restarted]
        exact List.mem_append_right _ List.mem_cons_self
      · exact List.mem_append_left _ (served before m others rfl)

theorem served_iff (events : List Event) : Served events ↔ events.foldl Event.serving true = true := by
  induction events using List.reverseRecOn with
  | nil => simp [Served]
  | append_singleton events event ih =>
    rw [served_append_singleton, ih, List.foldl_append, List.foldl_cons, List.foldl_nil, Event.serving]
    cases event.secretWritten <;> simp

def Report.wrote (r : Report) : Bool := r.events.any Event.secretWritten

/-- Events that neither write the Secret nor restart the server make no difference to what it has. -/
theorem foldl_serving_of_reads {events : List Event}
    (reads : ∀ event ∈ events, event.call = .readMaterial ∨ event.call = .readBundle) (before : Bool) :
    events.any Event.secretWritten = false ∧ events.foldl Event.serving before = before := by
  induction events with
  | nil => exact ⟨rfl, rfl⟩
  | cons event rest ih =>
    obtain ⟨notWritten, same⟩ := ih fun other later => reads other (List.mem_cons_of_mem _ later)
    obtain ⟨call, fate⟩ := event
    have read := reads _ List.mem_cons_self
    rcases read with rfl | rfl <;>
      simp [Event.secretWritten, Event.serving, Event.restarted, Call.writesMaterial, notWritten, same]

theorem foldl_serving_attempt_cons (fate : Call → Fate) (call : Call) (rest : List Call) (before : Bool) :
    (Plan.attempt fate (call :: rest)).foldl Event.serving before =
      if fate call = .success then (Plan.attempt fate rest).foldl Event.serving (Event.serving before ⟨call, .success⟩)
      else before := by
  cases ends : fate call with
  | success => simp [Plan.attempt, ends]
  | failure e landed =>
    simp [Plan.attempt, ends, Event.serving, Event.secretWritten, Event.restarted, Fate.succeeded]

theorem any_secretWritten_attempt_cons (fate : Call → Fate) (call : Call) (rest : List Call) :
    (Plan.attempt fate (call :: rest)).any Event.secretWritten = true ↔
      fate call = .success ∧ (call.writesMaterial = true ∨ (Plan.attempt fate rest).any Event.secretWritten = true) := by
  cases ends : fate call <;> simp [Plan.attempt, ends, Event.secretWritten, Fate.succeeded]

/-- Work that writes the Secret leaves a server that has the material if and only if it comes to its end. -/
theorem foldl_serving_attempt (fate : Call → Fate) (m : Material) (before : Bool) :
    let calls := [.readMaterial, .readBundle, .writeMaterial m, .writeBundle m.caCert, .restart]
    (Plan.attempt fate calls).foldl Event.serving before =
      if (Plan.attempt fate calls).any Event.secretWritten then decide (∀ call ∈ calls, fate call = .success)
      else before := by
  have step (call : Call) (before : Bool) : Event.serving before ⟨call, .success⟩ =
      match call with
      | .writeMaterial _ => false
      | .restart => true
      | _ => before := by
    cases call <;> simp [Event.serving, Event.secretWritten, Event.restarted, Call.writesMaterial, Fate.succeeded]
  simp only [foldl_serving_attempt_cons, any_secretWritten_attempt_cons, step]
  by_cases written : fate .readMaterial = .success ∧ fate .readBundle = .success ∧ fate (.writeMaterial m) = .success
  · obtain ⟨material, bundle, secret⟩ := written
    simp [material, bundle, secret, Call.writesMaterial, Plan.attempt]
  · -- The Secret is not written, and no restart comes before it would be.
    simp only [not_and] at written
    by_cases material : fate .readMaterial = .success
    · by_cases bundle : fate .readBundle = .success
      · have secret := written material bundle
        simp [material, bundle, secret, Call.writesMaterial]
      · simp [material, bundle, Call.writesMaterial]
    · simp [material]

/-- A pass that writes the Secret leaves a server that has the material if it goes through. One that writes nothing
leaves it as it is. -/
theorem Pass.foldl_serving (p : Pass) (v : Vault) (before : Bool) : (p.report v).events.foldl Event.serving before =
    true ↔ if (p.report v).wrote then ∃ reason, (p.report v).result = some (.ok (.regenerated reason))
      else before = true := by
  rcases p.plan_cases v with reads | ⟨m, reason, _, regenerates⟩
  · have onlyReads : ∀ event ∈ (p.report v).events, event.call = .readMaterial ∨ event.call = .readBundle := by
      intro event member
      simpa [reads] using Plan.call_mem_of_attempt member
    obtain ⟨notWritten, same⟩ := foldl_serving_of_reads onlyReads before
    simp [same, Report.wrote, notWritten]
  · have ends (reason' : Reason) : (p.report v).result = some (.ok (.regenerated reason')) ↔
        reason = reason' ∧ ∀ call ∈ (p.plan v).calls, p.fate call = .success := by
      rw [report, Option.some.injEq, Plan.result_eq_ok_iff, regenerates]
      simp
    have happened : (p.report v).events = Plan.attempt p.fate (p.plan v).calls := rfl
    have walk := foldl_serving_attempt p.fate m before
    simp only [Report.wrote, happened, ends, regenerates, walk]
    split <;> simp

/-- The last pass that has written the Secret. -/
def lastWriting (reports : List Report) : Option Report := reports.reverse.find? Report.wrote

theorem lastWriting_append (earlier : List Report) (report : Report) :
    lastWriting (earlier ++ [report]) = if report.wrote then some report else lastWriting earlier := by
  by_cases wrote : report.wrote = true <;> simp [lastWriting, wrote]

/-- After any passes, the server has the stored material if and only if the last of them that wrote any went through. -/
theorem served_history_iff {rs : List Report} (passed : ∀ r ∈ rs, ∃ p v, r = Pass.report p v) :
    Served (history rs) ↔ ∀ r, lastWriting rs = some r → ∃ reason, r.result = some (.ok (.regenerated reason)) := by
  rw [served_iff]
  induction rs using List.reverseRecOn with
  | nil => simp [history, lastWriting]
  | append_singleton earlier r ih =>
    obtain ⟨p, v, rfl⟩ := passed r (List.mem_append_right _ List.mem_cons_self)
    have before := ih fun other member => passed other (List.mem_append_left _ member)
    have events : history (earlier ++ [p.report v]) = history earlier ++ (p.report v).events := by simp [history]
    rw [events, List.foldl_append, Pass.foldl_serving, lastWriting_append]
    split
    · simp
    · exact before

/-- What is left when a run is cut after one of its passes. -/
theorem exists_rest {passes : List Pass} {v : Vault} {earlier later : List Report} {report : Report}
    (run : reports passes v = earlier ++ report :: later) :
    ∃ (p : Pass) (w : Vault) (rest : List Pass), report = p.report w ∧ later = reports rest report.vault := by
  induction earlier generalizing passes v with
  | nil =>
    cases passes with
    | nil => cases run
    | cons p rest =>
      obtain ⟨rfl, rfl⟩ := List.cons.inj run
      exact ⟨p, v, rest, rfl, rfl⟩
  | cons first others ih =>
    cases passes with
    | nil => cases run
    | cons p rest => exact ih (List.cons.inj run).2

/-- Passes on a vault whose bundle is that of its material only read, as long as they find the material fit. That a
restart is missing they do not notice. -/
theorem reads_of_fit {v : Vault} {m : Material} (stored : v.material = some m) (trusted : v.bundle = some m.caCert)
    {passes : List Pass} (fit : ∀ p ∈ passes, p.unfit m = none) :
    ∀ r ∈ reports passes v, ∀ event ∈ r.events, event.call = .readMaterial ∨ event.call = .readBundle := by
  induction passes with
  | nil => exact fun r none => absurd none List.not_mem_nil
  | cons p rest ih =>
    have content : p.Content v := ⟨m, stored, fit p List.mem_cons_self, trusted⟩
    obtain ⟨reads, same⟩ := content.reads
    intro r member
    rcases List.mem_cons.mp member with rfl | after
    · exact reads
    · rw [same] at after
      exact ih (fun q later => fit q (List.mem_cons_of_mem _ later)) r after

/-- When a pass is content, the server has the stored material if the last pass that wrote the Secret went through,
and not otherwise. The passes that follow only read as long as that material is fit, so if the server has not, that
stays. -/
theorem upToDate_served_iff {passes : List Pass} {v : Vault} {h : Heartbeat} {earlier later : List Report}
    {report : Report} (run : (runAll passes v h).1 = earlier ++ report :: later)
    (upToDate : report.result = some (.ok .upToDate)) :
    (Served (history (earlier ++ [report])) ↔
      ∀ r, lastWriting earlier = some r → ∃ reason, r.result = some (.ok (.regenerated reason))) ∧
    ((∀ m, report.vault.material = some m → ∀ r ∈ later, r.pass.unfit m = none) →
      (∀ r ∈ later, ∀ event ∈ r.events, event.call = .readMaterial ∨ event.call = .readBundle) ∧
      (Served (history (earlier ++ report :: later)) ↔ Served (history (earlier ++ [report])))) := by
  replace run : reports passes v = earlier ++ report :: later := (congrArg Prod.fst (runAll_eq passes v h)).symm.trans run
  obtain ⟨p, w, rest, rfl, rfl⟩ := exists_rest run
  have passed : ∀ r ∈ earlier ++ [p.report w], ∃ q u, r = Pass.report q u := by
    intro r member
    have there : r ∈ reports passes v := by
      rw [run, List.append_cons]
      exact List.mem_append_left _ member
    obtain ⟨before, after, split⟩ := List.append_of_mem there
    obtain ⟨q, u, _, is, _⟩ := exists_rest split
    exact ⟨q, u, is⟩
  obtain ⟨ends, _⟩ := Plan.result_eq_ok_iff.mp (Option.some.inj upToDate)
  have content := Pass.content_of_outcome ends
  obtain ⟨reads, same⟩ := content.reads
  refine ⟨?_, fun lasts => ?_⟩
  · have idle : (p.report w).wrote = false := (foldl_serving_of_reads reads true).1
    rw [served_history_iff passed, lastWriting_append, if_neg (by simp [idle])]
  · obtain ⟨m, stored, _, trusted⟩ := content
    rw [← same] at stored trusted
    have fit : ∀ q ∈ rest, q.unfit m = none := by
      rw [← map_pass_reports rest (p.report w).vault]
      exact List.forall_mem_map.mpr (lasts m stored)
    have laterReads := reads_of_fit stored trusted fit
    refine ⟨laterReads, ?_⟩
    have onlyReads : ∀ event ∈ history (reports rest (p.report w).vault),
        event.call = .readMaterial ∨ event.call = .readBundle := by
      intro event member
      obtain ⟨r, there, inEvents⟩ := List.mem_flatMap.mp member
      exact laterReads r there event inEvents
    have events : history (earlier ++ p.report w :: reports rest (p.report w).vault) =
        history (earlier ++ [p.report w]) ++ history (reports rest (p.report w).vault) := by simp [history]
    rw [served_iff, served_iff, events, List.foldl_append, (foldl_serving_of_reads onlyReads _).2]

/-- A roll-out whose last step fails, and passes after it. -/
def unfinishedPasses : List Pass :=
  [passWith "first" refusedRestart, passWith "second" fun _ => .success, passWith "third" fun _ => .success]

theorem restart_not_made_up :
    (runAll unfinishedPasses untrustedVault {}).1.map Report.result =
      [some (.error (.malformedObject (.reported "forbidden"))), some (.ok .upToDate), some (.ok .upToDate)] ∧
    ¬ Served (history (runAll unfinishedPasses untrustedVault {}).1) := by
  refine ⟨rfl, fun served => ?_⟩
  obtain ⟨condition, lasting⟩ := @upToDate_served_iff unfinishedPasses untrustedVault {} [_] [_] _ rfl rfl
  obtain ⟨_, same⟩ := lasting <| by
    rintro m stored r member
    cases stored
    cases List.mem_singleton.mp member
    rfl
  obtain ⟨reason, completed⟩ := condition.mp (same.mp served) _ rfl
  cases completed

end Graft.Certificate
