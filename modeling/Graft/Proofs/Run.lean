import Graft.Proofs.Mutation

namespace Graft.Injection

open Json

/-- The objects that calls on an initial one reach when each succeeds and none repeats a platform, and whether any of
them injected. -/
inductive Reach (initial : Json) : Bool → Json → Prop where
  | start : Reach initial false initial
  | next {injected : Bool} {object : Json} {g : Governing} {state : Option InjectionState} :
      Reach initial injected object → g.platforms.Nodup → (mutate object g).outcome = .ok state →
      Reach initial (injected || state.isSome) (mutate object g).object

/-- The object that every later call takes for the reached one. -/
def settled (initial : Json) (injected : Bool) : Json := if injected then trimmed initial else initial

theorem Clean.settled {initial : Json} (clean : Clean initial) (injected : Bool) :
    Clean (Injection.settled initial injected) := by
  cases injected with
  | false => exact clean
  | true => exact clean.trimmed

/-- An injection into the settled object is one into the initial object. -/
theorem Clean.mutate_settled {initial : Json} (clean : Clean initial) {injected : Bool} {g : Governing}
    {state : InjectionState} (run : (mutate (Injection.settled initial injected) g).outcome = .ok (some state)) :
    mutate (Injection.settled initial injected) g = mutate initial g := by
  cases injected with
  | false => rfl
  | true => exact clean.mutate_trimmed run

/-- Later calls do not know of the run: they do what they would do to the initial object, or to the trimmed one if there
was an injection. By induction over the run. -/
theorem Reach.mutate_eq {initial object : Json} {injected : Bool} (reach : Reach initial injected object)
    (clean : Clean initial) (later : Governing) :
    mutate object later = mutate (settled initial injected) later := by
  induction reach generalizing later with
  | start => rfl
  | @next injected object g state _ nodup run ih =>
    -- The call did what it does to the settled object, which has no trace of an injection.
    rw [ih g] at run ⊢
    cases state with
    | none =>
      obtain ⟨l, ok⟩ := (clean.settled injected).layers
      rw [(clean.settled injected).mutate_eq ok] at run
      rw [(clean.settled injected).mutate_idle (Layers.idle_of_resume run), Option.isSome_none, Bool.or_false]
    | some state =>
      have same := clean.mutate_settled run
      rw [same] at run ⊢
      rw [clean.mutate_mutate nodup run later, Option.isSome_some, Bool.or_true]
      rfl

/-- A run followed by a call without a resource ends with the initial object. If the run injected, the lists and maps
that were empty are gone; nothing else is left of it, whatever it injected on the way. -/
theorem Reach.reverted {initial object : Json} {injected : Bool} (reach : Reach initial injected object)
    (clean : Clean initial) {g : Governing} (none : g.resource = none) :
    mutate object g = ⟨if injected then trimmed initial else initial, .ok Option.none⟩ := by
  rw [reach.mutate_eq clean g]
  exact (clean.settled injected).mutate_idle (.inl none)

theorem reverted_after_two : mutate (mutate (mutate plainWorkload (governing [.java])).object
    (governing [.nodeJs, .dotNet])).object {} = ⟨trimmed plainWorkload, .ok none⟩ := by
  have first := @Reach.next plainWorkload false plainWorkload (governing [.java]) (some ⟨"default", "", [.java]⟩)
    .start (by decide) rfl
  have second := @Reach.next plainWorkload _ _ (governing [.nodeJs, .dotNet])
    (some ⟨"default", "", [.nodeJs, .dotNet]⟩) first (by decide) rfl
  exact second.reverted (by decide) rfl

/-- A call that injects at the end of a run does what it does to the initial object. So a run leaves no trace but that
of its last injection. -/
theorem Reach.injected_anew {initial object : Json} {injected : Bool} (reach : Reach initial injected object)
    (clean : Clean initial) {g : Governing} {state : InjectionState}
    (run : (mutate object g).outcome = .ok (some state)) : mutate object g = mutate initial g := by
  rw [reach.mutate_eq clean g] at run ⊢
  exact clean.mutate_settled run

theorem injected_anew_after_another :
    mutate (mutate plainWorkload (governing [.java])).object (governing [.nodeJs, .java]) =
      mutate plainWorkload (governing [.nodeJs, .java]) := by
  have first := @Reach.next plainWorkload false plainWorkload (governing [.java]) (some ⟨"default", "", [.java]⟩)
    .start (by decide) rfl
  exact @Reach.injected_anew _ _ _ first (by decide) _ ⟨"default", "", [.nodeJs, .java]⟩ rfl

end Graft.Injection
