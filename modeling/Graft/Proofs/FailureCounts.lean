import Graft.Proofs.Accounting
import Graft.Proofs.Flushing

namespace Graft

namespace Double

/-- A count in doubles is a whole number, and up to 2⁵³ it is the number of what was counted. -/
theorem whole_counted (n : Nat) : (counted n).IsWhole ∧ (counted n).whole = min n (pow2 53) := by
  obtain ⟨isWhole, exact⟩ := whole_ofInt (Nat.min_le_right n (pow2 53))
  rw [counted]
  refine ⟨isWhole, exact.trans ?_⟩
  omega

end Double

namespace Heartbeat

/-- What a metric has reached, as a number. -/
def reading (h : Heartbeat) (metric : Metric) : Int := (h.value metric).whole

theorem Counted.reading {h : Heartbeat} {metric : Metric} {n : Nat} (counted : h.Counted metric n) :
    (h.value metric).IsWhole ∧ h.reading metric = min n (Double.pow2 53) := by
  rw [Heartbeat.reading, counted]
  exact Double.whole_counted n

end Heartbeat

namespace Admission

/-- What a webhook goes through: what comes to it, and the beats at which its heartbeat reports and starts over. -/
inductive Turn where
  | arrival (arrival : Arrival)
  | beat

/-- A webhook, and what it has answered since the last beat. -/
structure Service where
  registry : Registry
  heartbeat : Heartbeat
  answered : List Exchange

/-- The reviews since the last beat. -/
def reviewsOf (turns : List Turn) : List Review :=
  turns.foldl (fun reviews turn => match turn with
    | .arrival arrival => reviews ++ arrival.review?.toList
    | .beat => []) []

namespace Service

def turn (cluster : ClusterIdentity) (s : Service) : Turn → Service
  | .arrival (.review given) =>
    let (response, h) := answer s.registry cluster s.heartbeat given
    { s with heartbeat := h, answered := s.answered ++ [⟨s.registry, given, response⟩] }
  | .arrival (.change update) => { s with registry := update s.registry }
  | .beat => { s with heartbeat := s.heartbeat.take.2, answered := [] }

/-- A webhook after some turns from its start. -/
def after (cluster : ClusterIdentity) (registry : Registry) (bound : Nat) (turns : List Turn) : Service :=
  turns.foldl (turn cluster) ⟨registry, { bound }, []⟩

end Service

namespace Exchange

/-- Whether the response is the answer to the review. -/
def Genuine (cluster : ClusterIdentity) (e : Exchange) : Prop :=
  ∃ h, e.response = (answer e.registry cluster h e.review).1

def refused (e : Exchange) : Bool := e.response.patch?.isNone

/-- How a review is refused although no resource governs its object. Only in the last case it has reached the engine. -/
inductive Stray (cluster : ClusterIdentity) (e : Exchange) : Prop where
  | unread : e.review.request = none → Stray cluster e
  | invalid {request : Request} {objection : Objection} :
      e.review.request = some request → validate request = .error objection → Stray cluster e
  | ambiguous {request : Request} {workload : Workload} {ns : String} {error : Error} :
      e.review.request = some request → validate request = .ok (workload, ns) →
      Selection.resourceName (Selection.templateAnnotations workload.toJson) = .error error → Stray cluster e
  | ungoverned {request : Request} {resolved : Resolved} {error : Error} :
      e.review.request = some request → resolve e.registry request = .ok resolved → resolved.resource = none →
      Injection.patch resolved.object (resolved.governing cluster) = .error error → Stray cluster e

variable {cluster : ClusterIdentity} {e : Exchange}

theorem refused_iff (genuine : e.Genuine cluster) {request : Request} (asked : e.review.request = some request) :
    e.refused = true ↔ ∃ error, patchFor e.registry cluster request = .error error := by
  obtain ⟨registry, ⟨types, asked'⟩, response⟩ := e
  obtain ⟨h, given⟩ := genuine
  cases asked
  rw [refused, given, patch?_answer]
  cases patchFor registry cluster request <;> simp [Except.toOption]

theorem governed_eq {request : Request} (asked : e.review.request = some request) :
    e.governed = isActionable e.registry request := by
  rw [governed, asked, isActionable_eq]
  rfl

theorem patchFor_of_resolved {registry : Registry} {request : Request} {r : Resolved}
    (resolved : resolve registry request = .ok r) :
    patchFor registry cluster request = Injection.patch r.object (r.governing cluster) := by
  rw [patchFor, resolved]
  rfl

theorem stray_of_refused (genuine : e.Genuine cluster) (refused : e.refused = true) (apart : e.governed = false) :
    e.Stray cluster := by
  cases asked : e.review.request with
  | none => exact .unread asked
  | some request =>
    obtain ⟨error, failed⟩ := (refused_iff genuine asked).mp refused
    rw [governed_eq asked, isActionable] at apart
    cases validated : validate request with
    | error objection => exact .invalid asked validated
    | ok found =>
      obtain ⟨workload, ns⟩ := found
      cases named : Selection.resourceName (Selection.templateAnnotations workload.toJson) with
      | error e => exact .ambiguous asked validated named
      | ok name =>
        have resolved : resolve e.registry request = .ok _ :=
          resolve_eq_ok_iff.mpr ⟨workload, ns, name, validated, named, rfl⟩
        rw [resolved] at apart
        rw [patchFor_of_resolved resolved] at failed
        exact .ungoverned asked resolved (Option.not_isSome_iff_eq_none.mp (by simpa using apart)) failed

theorem refused_of_unresolved (genuine : e.Genuine cluster) {request : Request} {error : Error}
    (asked : e.review.request = some request) (unresolved : resolve e.registry request = .error error) :
    e.refused = true ∧ e.governed = false := by
  refine ⟨(refused_iff genuine asked).mpr ⟨error, ?_⟩, ?_⟩
  · rw [patchFor, unresolved]
    rfl
  · rw [governed_eq asked, isActionable, unresolved]

theorem Stray.refused (stray : e.Stray cluster) (genuine : e.Genuine cluster) :
    e.refused = true ∧ e.governed = false := by
  cases stray with
  | unread asked =>
    obtain ⟨h, given⟩ := genuine
    rw [Exchange.refused, Exchange.governed, given, asked, answer, asked]
    exact ⟨rfl, rfl⟩
  | @invalid request objection asked validated =>
    have unresolved : resolve e.registry request = .error (.invalidRequest objection) := by
      rw [resolve, validated]
      rfl
    exact refused_of_unresolved genuine asked unresolved
  | @ambiguous request workload ns error asked validated named =>
    have unresolved : resolve e.registry request = .error error := by
      rw [resolve, validated]
      simp only [Except.mapError, bind, Except.bind, named]
    exact refused_of_unresolved genuine asked unresolved
  | ungoverned asked resolved none failed =>
    refine ⟨(refused_iff genuine asked).mpr ⟨_, (patchFor_of_resolved resolved).trans failed⟩, ?_⟩
    rw [governed_eq asked, isActionable, resolved]
    simp [none]

/-- A genuine answer is such a refusal exactly if it refuses the review and no resource governs its object. -/
theorem stray_iff (genuine : e.Genuine cluster) : e.Stray cluster ↔ (e.refused && !e.governed) = true := by
  rw [Bool.and_eq_true, Bool.not_eq_true']
  exact ⟨fun stray => stray.refused genuine, fun ⟨refused, apart⟩ => stray_of_refused genuine refused apart⟩

end Exchange

/-- What holds of a webhook at any moment: its answers are those to its reviews, and each metric has counted them. -/
structure Service.Sound (cluster : ClusterIdentity) (s : Service) : Prop where
  genuine : ∀ e ∈ s.answered, e.Genuine cluster
  counted : ∀ metric, s.heartbeat.Counted metric (s.answered.countP (·.counts metric))

variable {cluster : ClusterIdentity}

theorem Service.sound_start (registry : Registry) (bound : Nat) : Service.Sound cluster ⟨registry, { bound }, []⟩ where
  genuine _ none := absurd none List.not_mem_nil
  counted metric := Heartbeat.counted_empty bound metric

/-- Whatever comes to a webhook, its answers stay those to its reviews, and each metric goes on counting them. A beat
starts both over. -/
theorem Service.Sound.turn {s : Service} (sound : s.Sound cluster) (t : Turn) : (s.turn cluster t).Sound cluster := by
  cases t with
  | beat => exact sound_start s.registry s.heartbeat.bound
  | arrival arrival =>
    cases arrival with
    | change update => exact ⟨sound.genuine, sound.counted⟩
    | review given =>
      refine ⟨fun e member => ?_, fun metric => ?_⟩
      · rcases List.mem_append.mp member with old | new
        · exact sound.genuine e old
        · rw [List.mem_singleton.mp new]
          exact ⟨s.heartbeat, rfl⟩
      · have next := (sound.counted metric).step (value_answer s.registry cluster s.heartbeat given metric)
        rw [Service.turn, List.countP_append, List.countP_singleton]
        exact next

theorem Service.sound_after (registry : Registry) (bound : Nat) (turns : List Turn) :
    (after cluster registry bound turns).Sound cluster := by
  induction turns using List.reverseRecOn with
  | nil => exact sound_start registry bound
  | append_singleton turns t ih =>
    rw [after, List.foldl_append]
    exact ih.turn t

theorem Service.answered_after (registry : Registry) (bound : Nat) (turns : List Turn) :
    (after cluster registry bound turns).answered.map (·.review) = reviewsOf turns := by
  induction turns using List.reverseRecOn with
  | nil => rfl
  | append_singleton turns t ih =>
    rw [after, reviewsOf, List.foldl_append, List.foldl_append, ← after, ← reviewsOf]
    cases t with
    | beat => rfl
    | arrival arrival =>
      cases arrival with
      | change update => exact ih.trans (List.append_nil _).symm
      | review given => exact List.map_append.trans (congrArg (· ++ [given]) ih)

/-- What is counted is what is counted with a second condition and what is counted without it. -/
theorem countP_split {α : Type} (p q : α → Bool) (l : List α) :
    l.countP p = l.countP (fun a => p a && q a) + l.countP (fun a => p a && !q a) := by
  rw [List.countP_eq_countP_filter_add l p q, List.countP_filter, List.countP_filter]

/-- Whatever reviews and changes of the registry there were since the last beat, the actionable reviews are counted
among the reviews. A failure is counted for every review that is refused, however far it got, so the failures are
counted within the actionable reviews exactly if no more reviews were refused that no resource governs than were patched
of those that one governs, or if the metric of the actionable reviews has come to 2⁵³, where it stays. -/
theorem Service.failures_within_iff (cluster : ClusterIdentity) (registry : Registry) (bound : Nat)
    (turns : List Turn) :
    let s := after cluster registry bound turns
    s.answered.map (·.review) = reviewsOf turns ∧
      (∀ metric, (s.heartbeat.value metric).IsWhole) ∧
      s.heartbeat.reading .actionableReviews ≤ s.heartbeat.reading .admissionReviews ∧
      (∀ e ∈ s.answered, e.Stray cluster ↔ (e.refused && !e.governed) = true) ∧
      (s.heartbeat.reading .failedReviews ≤ s.heartbeat.reading .actionableReviews ↔
        s.answered.countP (fun e => e.refused && !e.governed) ≤ s.answered.countP (fun e => e.governed && !e.refused) ∨
          Double.pow2 53 ≤ s.answered.countP (·.governed)) := by
  intro s
  have sound : s.Sound cluster := sound_after registry bound turns
  have read (metric : Metric) := (sound.counted metric).reading
  refine ⟨answered_after registry bound turns, fun metric => (read metric).1, ?_, fun e member => ?_, ?_⟩
  · have within : s.answered.countP (·.counts .actionableReviews) ≤ s.answered.countP (·.counts .admissionReviews) :=
      List.countP_mono_left fun _ _ _ => rfl
    rw [(read _).2, (read _).2]
    omega
  · exact Exchange.stray_iff (sound.genuine e member)
  · have failed : s.answered.countP (·.counts .failedReviews) = _ :=
      countP_split Exchange.refused Exchange.governed s.answered
    have actionable : s.answered.countP (·.counts .actionableReviews) = _ :=
      countP_split Exchange.governed Exchange.refused s.answered
    have governed : s.answered.countP (·.governed) = s.answered.countP (·.counts .actionableReviews) := rfl
    have both : s.answered.countP (fun e => e.refused && e.governed) =
        s.answered.countP (fun e => e.governed && e.refused) := by simp only [Bool.and_comm]
    rw [(read _).2, (read _).2, governed]
    omega

/-- A review of a deletion. -/
def deletion : Review where
  types := ⟨"admission.k8s.io/v1", "AdmissionReview"⟩
  request := some { uid := "req-1", kind := "Deployment", verb := .delete, ns := some "apps", object := none }

/-- One deletion is refused as invalid, and is a failure with no actionable review. A single review from the start is
enough for that. -/
theorem deletion_outnumbers :
    let s := Service.after {} [] 10 [.arrival (.review deletion)]
    s.heartbeat.reading .admissionReviews = 1 ∧ s.heartbeat.reading .actionableReviews = 0 ∧
      s.heartbeat.reading .failedReviews = 1 ∧
      ¬ s.heartbeat.reading .failedReviews ≤ s.heartbeat.reading .actionableReviews := by
  intro s
  obtain ⟨-, -, -, -, order⟩ := Service.failures_within_iff {} [] 10 [.arrival (.review deletion)]
  have unmatched : ¬ (s.answered.countP (fun e => e.refused && !e.governed) ≤
      s.answered.countP (fun e => e.governed && !e.refused) ∨
        Double.pow2 53 ≤ s.answered.countP (·.governed)) := by decide +kernel
  exact ⟨by decide +kernel, by decide +kernel, by decide +kernel, fun within => unmatched (order.mp within)⟩

end Admission

end Graft
