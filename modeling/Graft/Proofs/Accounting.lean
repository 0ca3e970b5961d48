import Graft.Proofs.Fields
import Graft.Proofs.Isolation
import Graft.Proofs.Tally

namespace Graft.Admission

open Json

/-- What comes to the webhook: a review, or a change of what it knows. -/
inductive Arrival where
  | review (given : Review)
  | change (update : Registry → Registry)

def Arrival.review? : Arrival → Option Review
  | .review given => some given
  | .change _ => none

/-- A review that was answered, and the registry as it was then. -/
structure Exchange where
  registry : Registry
  review : Review
  response : Response

/-- Answers reviews as they come. -/
def serve (cluster : ClusterIdentity) : List Arrival → Registry → Heartbeat → List Exchange × Heartbeat
  | [], _, h => ([], h)
  | .review given :: rest, registry, h =>
    let (response, h) := answer registry cluster h given
    let (exchanges, h) := serve cluster rest registry h
    (⟨registry, given, response⟩ :: exchanges, h)
  | .change update :: rest, registry, h => serve cluster rest (update registry) h

/-- Whether the request of a review is valid and names a resource, and that one was known. -/
def Exchange.governed (e : Exchange) : Bool :=
  (e.review.request.bind target?).any fun key => (e.registry.get? key).isSome

/-- The exchanges that a metric counts. -/
def Exchange.counts (e : Exchange) : Metric → Bool
  | .admissionReviews => true
  | .failedReviews => e.response.patch?.isNone
  | .actionableReviews => e.governed
  | _ => false

variable (encodePatch : Patch → Json)

/-- A member of a response as it is sent. -/
def Response.field? (response : Response) (key : String) : Option Json :=
  (response.toJson encodePatch).path? ["response", key]

/-- A response with a patch, and neither a failure nor a warning beside it. -/
structure Response.Patched (response : Response) (patch : Patch) : Prop where
  patch : response.field? encodePatch "patch" = some (encodePatch patch)
  status : response.field? encodePatch "status" = some (.obj [])
  warnings : response.field? encodePatch "warnings" = none

/-- A response with a failure and no patch beside it. -/
structure Response.Refused (response : Response) (failure : Failure) (warnings : Option (List String)) : Prop where
  patch : response.field? encodePatch "patch" = none
  status : response.field? encodePatch "status" = some failure.toJson
  failed : failure.toJson.get? "status" = some (.str "Failure")
  warnings : response.field? encodePatch "warnings" = warnings.map Json.strings

/-- What is sent to a review in any case. Only an error with a request gives a warning, which tells the error. -/
structure Exchange.Answered (cluster : ClusterIdentity) (e : Exchange) : Prop where
  allowed : e.response.field? encodePatch "allowed" = some (.bool true)
  uid : e.response.field? encodePatch "uid" = some (.str ((e.review.request.map Request.uid).getD ""))
  outcome : (∃ patch, e.response.Patched encodePatch patch) ∨
    ∃ failure warnings, e.response.Refused encodePatch failure warnings ∧
      ((e.review.request = none ∧ warnings = none) ∨ ∃ request error, e.review.request = some request ∧
        patchFor e.registry cluster request = .error error ∧ failure.message = error.message ∧
        warnings = some ["auto-instrumentation skipped: " ++ error.message])

theorem Failure.failed (failure : Failure) : failure.toJson.get? "status" = some (.str "Failure") :=
  get?_ofFields (by simp) "status"

theorem Response.field?_eq (response : Response) (key : String) : response.field? encodePatch key =
    (Keyed.get? key [
      ("allowed", some (.bool response.allowed)),
      ("patch", response.patch?.map encodePatch),
      ("patchType", response.patch?.map fun _ => .str "JSONPatch"),
      ("status", some ((response.failure?.map Failure.toJson).getD (.obj []))),
      ("uid", some (.str response.uid)),
      ("warnings", response.warnings.map Json.strings)]).join := by
  refine Eq.trans ?_ (get?_ofFields (by simp) key)
  exact Option.bind_fun_some _

theorem unusable_refused : unusable.Refused encodePatch ⟨noRequest, "InvalidRequest", 0⟩ none :=
  ⟨Response.field?_eq .., Response.field?_eq .., Failure.failed _, Response.field?_eq ..⟩

theorem patched_patched (types : TypeMeta) (request : Request) (patch : Patch) :
    (patched types request patch).Patched encodePatch patch :=
  ⟨Response.field?_eq .., Response.field?_eq .., Response.field?_eq ..⟩

theorem skipped_refused (types : TypeMeta) (request : Request) (e : Error) :
    (skipped types request e).Refused encodePatch ⟨e.message, "BadRequest", 400⟩
      (some ["auto-instrumentation skipped: " ++ e.message]) :=
  ⟨Response.field?_eq .., Response.field?_eq .., Failure.failed _, Response.field?_eq ..⟩

/-- No review is denied, whichever way its answer comes about. The response to a request allows from the start; the one
to a review without a request denies at first, so here it counts that it was turned round. -/
theorem allowed_answer (registry : Registry) (cluster : ClusterIdentity) (h : Heartbeat) (review : Review) :
    (answer registry cluster h review).1.allowed = true := by
  rcases response_cases registry cluster h review with ⟨-, is⟩ | ⟨_, -, ⟨_, -, is⟩ | ⟨_, -, is⟩⟩ <;> rw [is] <;> rfl

/-- The answer has the uid of the request, and an empty one if there is no request; that is how the API server tells
which review was answered. -/
theorem uid_answer (registry : Registry) (cluster : ClusterIdentity) (h : Heartbeat) (review : Review) :
    (answer registry cluster h review).1.uid = (review.request.map Request.uid).getD "" := by
  rcases response_cases registry cluster h review with ⟨none, is⟩ | ⟨_, asked, ⟨_, -, is⟩ | ⟨_, -, is⟩⟩
  · rw [none, is]
    rfl
  all_goals rw [asked, is]; rfl

theorem isActionable_eq (registry : Registry) (request : Request) :
    isActionable registry request = (target? request).any fun key => (registry.get? key).isSome := by
  rw [← key_of_resolve registry]
  unfold isActionable
  cases resolved : resolve registry request with
  | error e => rfl
  | ok r =>
    obtain ⟨_, _, _, _, _, rfl⟩ := resolve_eq_ok_iff.mp resolved
    rfl

/-- One answer, whichever way it comes about. Nothing is assumed of the review: it may be without a request, and the
request may be about any kind of object. -/
theorem answer_answered (registry : Registry) (cluster : ClusterIdentity) (h : Heartbeat) (review : Review) :
    Exchange.Answered encodePatch cluster ⟨registry, review, (answer registry cluster h review).1⟩ where
  allowed := by
    rw [Response.field?_eq, allowed_answer]
    rfl
  uid := by
    rw [Response.field?_eq, uid_answer]
    rfl
  outcome := by
    rcases response_cases registry cluster h review with
      ⟨none, is⟩ | ⟨request, asked, ⟨patch, made, is⟩ | ⟨e, made, is⟩⟩ <;> rw [is]
    · exact .inr ⟨_, _, unusable_refused encodePatch, .inl ⟨none, rfl⟩⟩
    · exact .inl ⟨patch, patched_patched ..⟩
    · exact .inr ⟨_, _, skipped_refused .., .inr ⟨request, e, asked, made, rfl, rfl⟩⟩

/-- What one answer adds to each metric, whatever the heartbeat held before and whichever way the answer comes about. -/
theorem value_answer (registry : Registry) (cluster : ClusterIdentity) (h : Heartbeat) (review : Review)
    (metric : Metric) : (answer registry cluster h review).2.value metric =
      if (Exchange.mk registry review (answer registry cluster h review).1).counts metric then
        h.value metric + Double.ofInt 1
      else h.value metric := by
  obtain ⟨types, request⟩ := review
  cases request with
  | none =>
    cases metric <;> simp [answer, recordFailure, Heartbeat.value_count, Exchange.counts, Exchange.governed, unusable,
      Response.invalid]
  | some request =>
    have governed (response : Response) : Exchange.governed ⟨registry, ⟨types, some request⟩, response⟩ =
        isActionable registry request := (isActionable_eq registry request).symm
    have counts : Exchange.counts ⟨registry, ⟨types, some request⟩,
        (answer registry cluster h ⟨types, some request⟩).1⟩ metric = match metric with
          | .admissionReviews => true
          | .failedReviews => (patchFor registry cluster request).toOption.isNone
          | .actionableReviews => isActionable registry request
          | _ => false := by
      cases metric <;> simp only [Exchange.counts, governed, patch?_answer]
    rw [counts]
    simp only [answer]
    cases patchFor registry cluster request <;> cases isActionable registry request <;> cases metric <;>
      simp [recordFailure, Heartbeat.value_count, Except.toOption]

variable (cluster : ClusterIdentity)

/-- All answers of a run, by induction over what arrives: one for each review and in their order. A change of the
registry is not answered. -/
theorem serve_answered (arrivals : List Arrival) (registry : Registry) (h : Heartbeat) :
    ((serve cluster arrivals registry h).1.map (·.review) = arrivals.filterMap Arrival.review?) ∧
      ∀ e ∈ (serve cluster arrivals registry h).1, e.Answered encodePatch cluster := by
  induction arrivals generalizing registry h with
  | nil => exact ⟨rfl, fun e none => absurd none List.not_mem_nil⟩
  | cons arrival rest ih =>
    cases arrival with
    | change update => exact ih (update registry) h
    | review given =>
      obtain ⟨reviews, answered⟩ := ih registry (answer registry cluster h given).2
      refine ⟨congrArg (given :: ·) reviews, ?_⟩
      intro e member
      rcases List.mem_cons.mp member with rfl | member
      · exact answer_answered encodePatch registry cluster h given
      · exact answered e member

/-- What a metric has counted after a run, if it had counted `n` before. It counts in doubles, and `Counted` says what a
double comes to that way, so the run may be of any length. -/
theorem counted_serve (arrivals : List Arrival) (registry : Registry) {h : Heartbeat} {metric : Metric} {n : Nat}
    (counted : h.Counted metric n) : (serve cluster arrivals registry h).2.Counted metric
      (n + (serve cluster arrivals registry h).1.countP (·.counts metric)) := by
  induction arrivals generalizing registry h n with
  | nil => exact counted
  | cons arrival rest ih =>
    cases arrival with
    | change update => exact ih (update registry) counted
    | review given =>
      have later := ih registry (counted.step (value_answer registry cluster h given metric))
      rw [serve, List.countP_cons, Nat.add_comm (List.countP _ _), ← Nat.add_assoc]
      exact later

/-- However reviews and changes of the registry follow each other, each review is answered: the object is allowed, the
response has the uid of the request, or an empty one, and it has a patch or a failure. From an empty heartbeat on, the
metrics are the number of the reviews, of the answers without a patch, and of the reviews that were valid and named a
resource that was known then. -/
theorem serve_accounted (arrivals : List Arrival) (registry : Registry) (bound : Nat) :
    let (exchanges, h) := serve cluster arrivals registry { bound }
    exchanges.map (·.review) = arrivals.filterMap Arrival.review? ∧
      (∀ e ∈ exchanges, e.Answered encodePatch cluster) ∧
      h.value .admissionReviews = Double.counted exchanges.length ∧
      h.value .failedReviews = Double.counted (exchanges.countP fun e => e.response.patch?.isNone) ∧
      h.value .actionableReviews = Double.counted (exchanges.countP fun e => e.governed) := by
  obtain ⟨reviews, answered⟩ := serve_answered encodePatch cluster arrivals registry { bound }
  have counted (metric : Metric) :=
    counted_serve cluster arrivals registry (Heartbeat.counted_empty bound metric)
  simp only [Nat.zero_add] at counted
  refine ⟨reviews, answered, ?_, counted .failedReviews, counted .actionableReviews⟩
  rw [← List.countP_true]
  exact counted .admissionReviews

end Graft.Admission
