import Graft.Proofs.Readmission
import Graft.Proofs.Registry

namespace Graft

/-- Whether a report is about a key, or about no key at all. -/
def WatchEvent.concerns (key : Option ResourceKey) (event : WatchEvent) : Bool :=
  event.key? = none ∨ event.key? = key

namespace Follower

variable {key : ResourceKey} {f f' : Follower}

/-- Along a whole run, the reports about other keys can be left out. Listings stay in with their begin and end, since
what they drop may be the key itself. -/
theorem AgreeAt.foldl_concerns (h : AgreeAt key f f') (events : List WatchEvent) :
    AgreeAt key (events.foldl Follower.handle f)
      ((events.filter (·.concerns (some key))).foldl Follower.handle f') := by
  induction events generalizing f f' with
  | nil => exact h
  | cons event rest ih =>
    by_cases concerned : event.concerns (some key) = true
    · rw [List.filter_cons_of_pos concerned, List.foldl_cons, List.foldl_cons]
      exact ih (h.handle event)
    · rw [List.filter_cons_of_neg concerned, List.foldl_cons]
      simp only [WatchEvent.concerns, decide_eq_true_eq, not_or] at concerned
      obtain ⟨other, about⟩ := Option.ne_none_iff_exists'.mp concerned.1
      have ne : other ≠ key := fun same => concerned.2 (same ▸ about)
      exact ih ((agreeAt_handle_of_ne about ne f).trans h)

end Follower

namespace Admission

/-- The key that a request resolves to, whatever is under it. -/
def target? (request : Request) : Option ResourceKey := do
  let (w, ns) ← (validate request).toOption
  let name ← (Selection.resourceName (Selection.templateAnnotations w.toJson)).toOption
  return ⟨ns, name⟩

variable {registry registry' : Registry} {request : Request}

theorem key_of_resolve (registry : Registry) (request : Request) :
    (resolve registry request).toOption.map (·.key) = target? request := by
  unfold resolve target?
  cases validated : validate request with
  | error e => rfl
  | ok found =>
    obtain ⟨w, ns⟩ := found
    cases named : Selection.resourceName (Selection.templateAnnotations w.toJson) <;>
      simp [Except.mapError, Except.toOption, bind, Except.bind, pure, Except.pure, named]

/-- Of a registry, only what is under the key of the request matters, and nothing if the request names none. -/
theorem resolve_congr (same : ∀ key, target? request = some key → registry.get? key = registry'.get? key) :
    resolve registry request = resolve registry' request := by
  unfold resolve
  cases validated : validate request with
  | error e => rfl
  | ok found =>
    obtain ⟨w, ns⟩ := found
    cases named : Selection.resourceName (Selection.templateAnnotations w.toJson) with
    | error e => simp [Except.mapError, bind, Except.bind, named]
    | ok name =>
      have target : target? request = some ⟨ns, name⟩ := by simp [target?, validated, named, Except.toOption]
      simp [Except.mapError, bind, Except.bind, named, same _ target]

theorem answer_congr (cluster : ClusterIdentity) (h : Heartbeat) {review : Review}
    (same : ∀ key, review.request.bind target? = some key → registry.get? key = registry'.get? key) :
    answer registry cluster h review = answer registry' cluster h review := by
  obtain ⟨types, request⟩ := review
  cases request with
  | none => rfl
  | some request =>
    have resolved : resolve registry request = resolve registry' request := resolve_congr same
    simp only [answer, isActionable, patchFor, resolved]
    rfl

/-- Reports about resources of other namespaces or names change nothing of an answer, in whatever order they come and
whichever listings they are in. The answer is the one of a registry that has followed only the reports about the
resource that the request names, from any follower on. -/
theorem answer_isolated (f : Follower) (events : List WatchEvent) (cluster : ClusterIdentity) (h : Heartbeat)
    (review : Review) : answer (events.foldl Follower.handle f).registry cluster h review =
      answer ((events.filter (·.concerns (review.request.bind target?))).foldl Follower.handle f).registry cluster h
        review := by
  refine answer_congr cluster h fun key target => ?_
  rw [target]
  exact ((Follower.AgreeAt.refl key f).foldl_concerns events).registry

end Admission

end Graft
