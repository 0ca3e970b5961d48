import Graft.Proofs.ErrorLogs
import Graft.Proofs.Tally
import Mathlib.Algebra.BigOperators.Ring.Finset
import Mathlib.Algebra.Order.BigOperators.Group.List
import Mathlib.Algebra.Order.Group.Nat

namespace Graft

namespace Double

/-- Whether a double is a whole number, of any size. -/
def IsWhole (d : Double) : Prop := ∃ negative n, d = .finite negative (n * one)

/-- The whole number that a double is; the two zeros are one number. -/
def whole : Double → Int
  | .finite negative units => signed negative (units / one)
  | _ => 0

theorem signed_mul (negative : Bool) (n scale : Nat) : signed negative (n * scale) = signed negative n * scale := by
  cases negative <;> simp [signed]

theorem whole_finite (negative : Bool) (n : Nat) : (Double.finite negative (n * one)).whole = signed negative n := by
  rw [whole, Nat.mul_div_cancel _ one_pos]

theorem whole_zero (negative : Bool) : (Double.finite negative 0).IsWhole ∧ (Double.finite negative 0).whole = 0 := by
  rw [← Nat.zero_mul one, whole_finite]
  exact ⟨⟨negative, 0, rfl⟩, by cases negative <;> rfl⟩

theorem signed_natAbs (z : Int) : signed (decide (z < 0)) z.natAbs = z := by
  by_cases less : z < 0
  · simp only [signed, less, decide_true, if_true]
    omega
  · simp only [signed, less, decide_false, Bool.false_eq_true, if_false]
    omega

theorem mul_neg_iff_neg {z scale : Int} (positive : 0 < scale) : z * scale < 0 ↔ z < 0 := by
  constructor
  · intro less
    by_contra not
    have nonneg := Int.mul_nonneg (Int.not_lt.mp not) (Int.le_of_lt positive)
    omega
  · intro less
    exact Int.mul_neg_of_neg_of_pos less positive

/-- Whole numbers are added exactly as long as their sum has not more than 53 bits, or is 2⁵³. Either of them may be
negative. -/
theorem whole_add {a b : Double} (ha : a.IsWhole) (hb : b.IsWhole) (small : (a.whole + b.whole).natAbs ≤ pow2 53) :
    (a + b).IsWhole ∧ (a + b).whole = a.whole + b.whole := by
  obtain ⟨s, m, rfl⟩ := ha
  obtain ⟨t, n, rfl⟩ := hb
  rw [whole_finite, whole_finite] at small ⊢
  have exact : signed s (m * one) + signed t (n * one) = (signed s m + signed t n) * (one : Int) := by
    rw [signed_mul, signed_mul, Int.add_mul]
  have added : (.finite s (m * one) + .finite t (n * one) : Double) =
      if signed s (m * one) + signed t (n * one) = 0 then .finite (s && t) 0
      else ofMagnitude (decide (signed s (m * one) + signed t (n * one) < 0))
        (nearest (signed s (m * one) + signed t (n * one)).natAbs 1) := rfl
  rw [added, exact]
  generalize signed s m + signed t n = z at small ⊢
  have positive : 0 < (one : Int) := Int.natCast_pos.mpr one_pos
  split
  · rename_i none
    have zero : z = 0 := (Int.mul_eq_zero.mp none).resolve_right (Int.ne_of_gt positive)
    rw [zero]
    exact whole_zero (s && t)
  · have magnitude : (z * (one : Int)).natAbs = z.natAbs * one := by rw [Int.natAbs_mul, Int.natAbs_natCast]
    have sign : decide (z * (one : Int) < 0) = decide (z < 0) := decide_eq_decide.mpr (mul_neg_iff_neg positive)
    have held : nearest (z.natAbs * one) 1 = z.natAbs * one := nearest_of_dvd (spacing_dvd small 1074)
    have finite : z.natAbs * one < bound := calc
      z.natAbs * one ≤ pow2 53 * one := Nat.mul_le_mul_right _ small
      _ < bound := by decide +kernel
    rw [magnitude, sign, held, ofMagnitude, if_pos finite, whole_finite, signed_natAbs]
    exact ⟨⟨_, _, rfl⟩, rfl⟩

/-- The sum of some doubles, rounded at each step. -/
def tally (values : List Double) : Double := values.foldl (· + ·) zero

theorem tally_concat (values : List Double) (value : Double) : tally (values ++ [value]) = tally values + value := by
  rw [tally, List.foldl_append]
  rfl

/-- Whole numbers whose sizes sum to no more than 2⁵³. -/
structure Small (values : List Double) : Prop where
  allWhole : ∀ value ∈ values, value.IsWhole
  bounded : (values.map (·.whole.natAbs)).sum ≤ pow2 53

theorem Small.of_sublist {part values : List Double} (small : Small values) (sub : part.Sublist values) :
    Small part where
  allWhole value member := small.allWhole value (sub.subset member)
  bounded := ((sub.map _).sum_le_sum fun _ _ => Nat.zero_le _).trans small.bounded

theorem whole_ofInt {n : Nat} (small : n ≤ pow2 53) : (ofInt n).IsWhole ∧ (ofInt n).whole = n := by
  rw [ofInt_eq small, whole_finite]
  exact ⟨⟨false, n, rfl⟩, rfl⟩

/-- Counts are whole numbers, so what is said of small numbers holds of counts that sum to no more than 2⁵³. -/
theorem small_counts {counts : List Nat} (small : counts.sum ≤ pow2 53) :
    Small (counts.map fun n : Nat => ofInt n) ∧
      ((counts.map fun n : Nat => ofInt n).map whole).sum = (counts.sum : Int) := by
  have each (n : Nat) (member : n ∈ counts) : (ofInt n).IsWhole ∧ (ofInt n).whole = n :=
    whole_ofInt ((List.le_sum_of_mem member).trans small)
  have numbers : (counts.map fun n : Nat => ofInt n).map whole = counts.map fun n : Nat => (n : Int) := by
    rw [List.map_map]
    refine List.map_congr_left fun n member => ?_
    rw [Function.comp_apply, (each n member).2]
  have sizes : (counts.map fun n : Nat => ofInt n).map (·.whole.natAbs) = counts := by
    rw [List.map_map]
    refine (List.map_congr_left fun n member => ?_).trans (List.map_id counts)
    rw [Function.comp_apply, (each n member).2]
    rfl
  refine ⟨⟨fun value member => ?_, ?_⟩, ?_⟩
  · obtain ⟨n, there, rfl⟩ := List.mem_map.mp member
    exact (each n there).1
  · rw [sizes]
    exact small
  · rw [numbers, Nat.cast_list_sum]

theorem natAbs_sum_le (values : List Double) :
    (values.map whole).sum.natAbs ≤ (values.map (·.whole.natAbs)).sum := by
  induction values with
  | nil => rfl
  | cons value rest ih =>
    rw [List.map_cons, List.sum_cons, List.map_cons, List.sum_cons]
    omega

/-- Such numbers are summed exactly, in whatever order they come: no sum on the way is beyond the bound either. -/
theorem Small.tally {values : List Double} (small : Small values) :
    (tally values).IsWhole ∧ (tally values).whole = (values.map whole).sum := by
  induction values using List.reverseRecOn with
  | nil => exact whole_zero false
  | append_singleton values value ih =>
    obtain ⟨isWhole, exact⟩ := ih (small.of_sublist (List.sublist_append_left _ _))
    have last : value.IsWhole := small.allWhole value (by simp)
    have sum : ((values ++ [value]).map whole).sum = (values.map whole).sum + value.whole := by simp
    have bounded : ((values.map whole).sum + value.whole).natAbs ≤ pow2 53 := by
      rw [← sum]
      exact (natAbs_sum_le _).trans small.bounded
    rw [← exact] at bounded
    rw [tally_concat, sum, ← exact]
    exact whole_add isWhole last bounded

end Double

namespace Heartbeat

/-- Takes a metric out, if it is there. -/
def remove (h : Heartbeat) (metric : Metric) : Option Double × Heartbeat :=
  (h.metrics.get? metric, { h with metrics := h.metrics.erase metric })

/-- A take that is on its way: the metrics that it has still to remove, and what it has to report so far. It first
collects the names of the metrics that are there, and then removes one after the other. -/
structure Flush where
  pending : List Metric
  report : Keyed Double

/-- A report with what a removal has found. -/
def enter (report : Keyed Double) (metric : Metric) : Option Double → Keyed Double
  | some value => report.insert metric.name value
  | none => report

/-- A heartbeat and all takes from it that have begun. -/
structure Shared where
  heartbeat : Heartbeat
  flushes : List Flush

inductive Event where
  | add (metric : Metric) (value : Double)
  | collect
  | remove (flush : Nat)

/-- What can happen at once. The metrics that are there are collected in any order. -/
inductive Step : Shared → Event → Shared → Prop where
  | add {s : Shared} (metric : Metric) (value : Double) :
      Step s (.add metric value) { s with heartbeat := s.heartbeat.add metric value }
  | collect {s : Shared} {keys : List Metric} : keys.Perm s.heartbeat.metrics.keys →
      Step s .collect { s with flushes := s.flushes ++ [⟨keys, []⟩] }
  | remove {s : Shared} {i : Nat} {metric : Metric} {pending : List Metric} {report : Keyed Double} :
      s.flushes[i]? = some ⟨metric :: pending, report⟩ →
      Step s (.remove i) {
        heartbeat := (s.heartbeat.remove metric).2
        flushes := s.flushes.set i ⟨pending, enter report metric (s.heartbeat.remove metric).1⟩ }

/-- A run through some events, whoever makes them. -/
inductive Run (start : Shared) : List Event → Shared → Prop where
  | start : Run start [] start
  | next {events : List Event} {s s' : Shared} {event : Event} :
      Run start events s → Step s event s' → Run start (events ++ [event]) s'

/-- The value that an event adds to a metric. -/
def addition? (metric : Metric) : Event → Option Double
  | .add other value => if other = metric then some value else none
  | _ => none

def additions (metric : Metric) (events : List Event) : List Double := events.filterMap (addition? metric)

/-- What all takes report of a metric, also those that have not come to their end. -/
def Shared.reported (s : Shared) (metric : Metric) : List Double :=
  s.flushes.filterMap fun flush => flush.report.get? metric.name

theorem metricName_injective {metric other : Metric} (same : metric.name = other.name) : metric = other := by
  cases metric <;> cases other <;> simp [Metric.name] at same ⊢

theorem get?_enter (report : Keyed Double) (metric other : Metric) (found : Option Double) :
    (enter report metric found).get? other.name =
      if other = metric then found.or (report.get? other.name) else report.get? other.name := by
  cases found with
  | none => simp [enter]
  | some value =>
    rw [enter, Keyed.get?_insert]
    by_cases same : other = metric
    · simp [same]
    · rw [if_neg fun is => same (metricName_injective is), if_neg same]

section Alone

/-- What the removals of some metrics find. -/
def findings (metrics : Assoc Metric Double) (pending : List Metric) : List (String × Double) :=
  pending.filterMap fun metric => (metrics.get? metric).map (metric.name, ·)

theorem findings_keys {metrics : Assoc Metric Double} (distinct : metrics.keys.Nodup) :
    findings metrics metrics.keys = metrics.map fun e => (e.1.name, e.2) := by
  induction metrics with
  | nil => rfl
  | cons e rest ih =>
    obtain ⟨metric, value⟩ := e
    obtain ⟨apart, others⟩ := List.nodup_cons.mp distinct
    have first : Assoc.get? metric ((metric, value) :: rest) = some value := if_pos rfl
    have later : findings ((metric, value) :: rest) (Assoc.keys rest) = findings rest (Assoc.keys rest) := by
      refine List.filterMap_congr fun other member => ?_
      have ne : metric ≠ other := fun is => apart (is ▸ member)
      rw [Assoc.get?, if_neg ne]
    rw [List.map_cons, ← ih others, ← later]
    exact List.filterMap_cons_some (by rw [first]; rfl)

/-- A take that nothing else comes between goes on to its end, one removal after the other. -/
theorem Run.drain {start : Shared} {events : List Event} {h : Heartbeat} {flushes : List Flush} {pending : List Metric}
    {entries : List (String × Double)} (run : Run start events ⟨h, flushes ++ [⟨pending, Keyed.ofList entries⟩]⟩)
    (distinct : pending.Nodup) :
    Run start (events ++ List.replicate pending.length (.remove flushes.length)) {
      heartbeat := { h with metrics := h.metrics.filter fun e => e.1 ∉ pending }
      flushes := flushes ++ [⟨[], Keyed.ofList (entries ++ findings h.metrics pending)⟩] } := by
  induction pending generalizing events h entries with
  | nil =>
    have all : (h.metrics.filter fun e => e.1 ∉ ([] : List Metric)) = h.metrics := by simp
    rw [all, List.length_nil, List.replicate_zero, List.append_nil, findings, List.filterMap_nil, List.append_nil]
    exact run
  | cons metric pending ih =>
    obtain ⟨apart, others⟩ := List.nodup_cons.mp distinct
    have here : (flushes ++ [Flush.mk (metric :: pending) (Keyed.ofList entries)])[flushes.length]? =
        some ⟨metric :: pending, Keyed.ofList entries⟩ := List.getElem?_concat_length
    have entered : enter (Keyed.ofList entries) metric (h.metrics.get? metric) =
        Keyed.ofList (entries ++ ((h.metrics.get? metric).map (metric.name, ·)).toList) := by
      cases h.metrics.get? metric with
      | none => rw [Option.map_none, Option.toList_none, List.append_nil, enter]
      | some value => rw [Option.map_some, Option.toList_some, Keyed.ofList_append, enter]
    have next := run.next (.remove here)
    rw [List.set_append_right _ _ (Nat.le_refl _), Nat.sub_self, List.set_cons_zero] at next
    simp only [remove, entered] at next
    have left : ((h.metrics.erase metric).filter fun e => e.1 ∉ pending) =
        h.metrics.filter fun e => e.1 ∉ metric :: pending := by
      rw [Assoc.erase, List.filter_filter]
      refine List.filter_congr fun e _ => ?_
      simp [Bool.and_comm]
    have rest : findings (h.metrics.erase metric) pending = findings h.metrics pending := by
      refine List.filterMap_congr fun other member => ?_
      have ne : other ≠ metric := fun is => apart (is ▸ member)
      rw [Assoc.get?_erase_of_ne ne]
    have all : findings h.metrics (metric :: pending) =
        ((h.metrics.get? metric).map (metric.name, ·)).toList ++ findings h.metrics pending := by
      rw [findings, List.filterMap_cons]
      cases h.metrics.get? metric <;> rfl
    have last := ih next others
    rw [rest, left, List.append_assoc, List.append_assoc entries, ← all] at last
    exact last

/-- A take that nothing comes between reports the same and leaves the same as one at once, in whatever order it goes
through the metrics. So taking step by step is no other thing than `Heartbeat.take`, but for what may come in
between. -/
theorem Run.take_alone {start : Shared} {events : List Event} {h : Heartbeat} {flushes : List Flush}
    {keys : List Metric} (run : Run start events ⟨h, flushes⟩) (distinct : h.metrics.keys.Nodup)
    (perm : keys.Perm h.metrics.keys) :
    Run start (events ++ .collect :: List.replicate keys.length (.remove flushes.length)) {
      heartbeat := { h.take.2 with logs := h.logs }
      flushes := flushes ++ [⟨[], h.take.1.metrics⟩] } := by
  have collected : Run start (events ++ [.collect]) ⟨h, flushes ++ [⟨keys, Keyed.ofList []⟩]⟩ :=
    run.next (.collect perm)
  have last := collected.drain (perm.nodup_iff.mpr distinct)
  have nothing : (h.metrics.filter fun e => e.1 ∉ keys) = [] := by
    refine List.filter_eq_nil_iff.mpr fun e member => ?_
    have there : e.1 ∈ keys := perm.mem_iff.mpr (List.mem_map_of_mem member)
    simpa using there
  have names : ((findings h.metrics h.metrics.keys).map Prod.fst).Nodup := by
    rw [findings_keys distinct, List.map_map]
    have is : (h.metrics.map (Prod.fst ∘ fun e => (e.1.name, e.2))) = h.metrics.keys.map Metric.name := by
      rw [Assoc.keys, List.map_map]
      rfl
    rw [is]
    exact distinct.map fun _ _ => metricName_injective
  have same : (findings h.metrics keys).Perm (findings h.metrics h.metrics.keys) := perm.filterMap _
  have report : Keyed.ofList (findings h.metrics keys) = h.take.1.metrics := by
    rw [Keyed.ofList_perm same ((same.map Prod.fst).nodup_iff.mpr names), findings_keys distinct]
    rfl
  rw [nothing, List.nil_append, report, List.append_assoc] at last
  exact last

end Alone

/-- A take removes each metric once, and has not reported one that it has still to remove. -/
structure Flush.Sound (flush : Flush) : Prop where
  distinct : flush.pending.Nodup
  fresh : ∀ metric ∈ flush.pending, flush.report.get? metric.name = none

/-- What holds at every moment: a heartbeat has each metric once, and its takes are sound. -/
structure Shared.Sound (s : Shared) : Prop where
  metrics : s.heartbeat.metrics.keys.Nodup
  flushes : ∀ flush ∈ s.flushes, flush.Sound

theorem Flush.Sound.next {metric : Metric} {pending : List Metric} {report : Keyed Double}
    (sound : Sound ⟨metric :: pending, report⟩) (found : Option Double) :
    Sound ⟨pending, enter report metric found⟩ := by
  obtain ⟨apart, distinct⟩ := List.nodup_cons.mp sound.distinct
  refine ⟨distinct, fun other member => ?_⟩
  have ne : other ≠ metric := fun is => apart (is ▸ member)
  rw [get?_enter, if_neg ne]
  exact sound.fresh other (List.mem_cons_of_mem _ member)

/-- One step keeps a heartbeat sound, whoever makes it. -/
theorem Step.sound {s s' : Shared} {event : Event} (step : Step s event s') (sound : s.Sound) : s'.Sound := by
  cases step with
  | add metric value => exact ⟨Assoc.nodup_keys_set sound.metrics _ _, sound.flushes⟩
  | @collect keys perm =>
    refine ⟨sound.metrics, fun flush member => ?_⟩
    rcases List.mem_append.mp member with old | new
    · exact sound.flushes flush old
    · rw [List.mem_singleton.mp new]
      exact ⟨perm.nodup_iff.mpr sound.metrics, fun _ _ => rfl⟩
  | @remove i metric pending report found =>
    refine ⟨?_, fun flush member => ?_⟩
    · exact (List.filter_sublist.map Prod.fst).nodup sound.metrics
    · rcases List.mem_or_eq_of_mem_set member with old | rfl
      · exact sound.flushes flush old
      · exact (sound.flushes _ (List.mem_of_getElem? found)).next _

/-- So every moment of a run is sound that starts so. -/
theorem Run.sound {start s : Shared} {events : List Event} (run : Run start events s) (sound : start.Sound) :
    s.Sound := by
  induction run with
  | start => exact sound
  | next _ step ih => exact step.sound ih

/-- How the additions to a metric are divided: into those that a removal has found together, and those since the last
such removal. -/
structure Divided (metric : Metric) (events : List Event) (s : Shared) (blocks : List (List Double))
    (rest : List Double) : Prop where
  all : blocks.flatten ++ rest = additions metric events
  reported : (s.reported metric).Perm (blocks.map Double.tally)
  held : s.heartbeat.metrics.get? metric = if rest = [] then none else some (Double.tally rest)

/-- A removal changes what its own take reports of the metric that it removes, and nothing else. A metric that another
take has removed before adds nothing. -/
theorem reported_set {s : Shared} {i : Nat} {metric : Metric} (other : Metric) {pending : List Metric}
    {report : Keyed Double} (found : s.flushes[i]? = some ⟨metric :: pending, report⟩) (sound : s.Sound) (h : Heartbeat)
    (value? : Option Double) :
    (Shared.reported ⟨h, s.flushes.set i ⟨pending, enter report metric value?⟩⟩ other).Perm
      ((if other = metric then value?.toList else []) ++ s.reported other) := by
  obtain ⟨inside, is⟩ := List.getElem?_eq_some_iff.mp found
  obtain ⟨before, after, split, -, set⟩ :
      ∃ before after, s.flushes = before ++ s.flushes[i] :: after ∧ before.length = i ∧
        s.flushes.set i ⟨pending, enter report metric value?⟩ =
          before ++ ⟨pending, enter report metric value?⟩ :: after := List.exists_of_set inside
  rw [is] at split
  have fresh : report.get? metric.name = none :=
    (sound.flushes _ (List.mem_of_getElem? found)).fresh metric List.mem_cons_self
  simp only [Shared.reported, set]
  rw [split, List.filterMap_append, List.filterMap_append, List.filterMap_cons, List.filterMap_cons, get?_enter]
  by_cases same : other = metric
  · subst same
    simp only [if_true, fresh, Option.or_none]
    cases value? with
    | none => exact .refl _
    | some value => exact List.perm_middle
  · simp only [if_neg same, List.nil_append]
    exact .refl _

theorem Divided.value {metric : Metric} {events : List Event} {s : Shared} {blocks : List (List Double)}
    {rest : List Double} (divided : Divided metric events s blocks rest) :
    s.heartbeat.value metric = Double.tally rest := by
  rw [Heartbeat.value, divided.held]
  split
  · rename_i none
    rw [none]
    rfl
  · rfl

theorem additions_concat (metric : Metric) (events : List Event) (event : Event) :
    additions metric (events ++ [event]) = additions metric events ++ (addition? metric event).toList := by
  rw [additions, List.filterMap_append]
  rfl

variable {metric : Metric} {events : List Event} {s s' : Shared} {event : Event} {blocks : List (List Double)}
  {rest : List Double}

theorem Divided.add (divided : Divided metric events s blocks rest) (other : Metric) (value : Double) :
    ∃ rest', Divided metric (events ++ [.add other value]) { s with heartbeat := s.heartbeat.add other value }
      blocks rest' := by
  by_cases same : other = metric
  · subst same
    have before : (s.heartbeat.metrics.get? other).getD Double.zero = Double.tally rest := divided.value
    refine ⟨rest ++ [value], ?_, divided.reported, ?_⟩
    · rw [additions_concat, ← divided.all, addition?, if_pos rfl, Option.toList_some, List.append_assoc]
    · rw [if_neg (by simp), Double.tally_concat, ← before]
      exact Assoc.get?_set_self _ _ _
  · refine ⟨rest, ?_, divided.reported, ?_⟩
    · rw [additions_concat, addition?, if_neg same, Option.toList_none, List.append_nil, divided.all]
    · rw [← divided.held]
      exact Assoc.get?_set_of_ne (Ne.symm same) _ _

theorem Divided.collect (divided : Divided metric events s blocks rest) (keys : List Metric) :
    Divided metric (events ++ [.collect]) { s with flushes := s.flushes ++ [⟨keys, []⟩] } blocks rest := by
  refine ⟨?_, ?_, divided.held⟩
  · rw [additions_concat, divided.all]
    exact (List.append_nil _).symm
  · have nothing : Shared.reported { s with flushes := s.flushes ++ [⟨keys, []⟩] } metric = s.reported metric := by
      simp [Shared.reported]
    rw [nothing]
    exact divided.reported

/-- A removal makes a block of the additions since the last one. Where it comes too late there are none, and it makes no
block. -/
theorem Divided.remove (divided : Divided metric events s blocks rest) (sound : s.Sound) {i : Nat} {other : Metric}
    {pending : List Metric} {report : Keyed Double} (found : s.flushes[i]? = some ⟨other :: pending, report⟩) :
    ∃ blocks' rest', Divided metric (events ++ [.remove i]) {
      heartbeat := (s.heartbeat.remove other).2
      flushes := s.flushes.set i ⟨pending, enter report other (s.heartbeat.remove other).1⟩ } blocks' rest' := by
  have same : additions metric (events ++ [.remove i]) = additions metric events := by
    rw [additions_concat]
    exact List.append_nil _
  have changed := reported_set metric found sound (s.heartbeat.remove other).2 (s.heartbeat.remove other).1
  by_cases is : metric = other
  · subst is
    rw [if_pos rfl] at changed
    have erased : (s.heartbeat.remove metric).2.metrics.get? metric = none := Assoc.get?_erase_self _ _
    have removed : (s.heartbeat.remove metric).1 = if rest = [] then none else some (Double.tally rest) := divided.held
    by_cases none : rest = []
    · rw [if_pos none] at removed
      rw [removed] at changed ⊢
      refine ⟨blocks, rest, divided.all.trans same.symm, changed.trans divided.reported, ?_⟩
      rw [if_pos none]
      exact erased
    · rw [if_neg none] at removed
      rw [removed] at changed ⊢
      refine ⟨blocks ++ [rest], [], ?_, changed.trans ?_, erased⟩
      · rw [List.flatten_append, List.flatten_singleton, List.append_nil, divided.all, same]
      · rw [List.map_append]
        exact (List.Perm.cons _ divided.reported).trans (List.perm_append_singleton _ _).symm
  · rw [if_neg is, List.nil_append] at changed
    refine ⟨blocks, rest, divided.all.trans same.symm, changed.trans divided.reported, ?_⟩
    rw [← divided.held]
    exact Assoc.get?_erase_of_ne is _

/-- Each step keeps the additions divided: an addition joins those since the last removal, and a removal makes a block
of them. -/
theorem Step.divided (step : Step s event s') (sound : s.Sound) (divided : Divided metric events s blocks rest) :
    ∃ blocks' rest', Divided metric (events ++ [event]) s' blocks' rest' := by
  cases step with
  | add other value => exact ⟨blocks, divided.add other value⟩
  | collect perm => exact ⟨blocks, rest, divided.collect _⟩
  | remove found => exact divided.remove sound found

theorem sound_start (bound : Nat) : Shared.Sound ⟨{ bound }, []⟩ := ⟨List.nodup_nil, nofun⟩

/-- So the additions of a run are divided, by induction over its steps from an empty heartbeat on. -/
theorem Run.divided {bound : Nat} (run : Run ⟨{ bound }, []⟩ events s) (metric : Metric) :
    ∃ blocks rest, Divided metric events s blocks rest := by
  induction run with
  | start => exact ⟨[], [], rfl, .refl _, rfl⟩
  | next run step ih =>
    obtain ⟨blocks, rest, divided⟩ := ih
    exact step.divided (run.sound (sound_start bound)) divided

/-- Blocks that are small are summed exactly, each for itself. What they sum to together may be of any size. -/
theorem sum_tally (small : ∀ block ∈ blocks, Double.Small block) :
    (∀ value ∈ blocks.map Double.tally, value.IsWhole) ∧
      ((blocks.map Double.tally).map Double.whole).sum = (blocks.flatten.map Double.whole).sum := by
  induction blocks with
  | nil => exact ⟨nofun, rfl⟩
  | cons block others ih =>
    obtain ⟨first, later⟩ := List.forall_mem_cons.mp small
    obtain ⟨allWhole, same⟩ := ih later
    obtain ⟨isWhole, exact⟩ := first.tally
    refine ⟨List.forall_mem_cons.mpr ⟨isWhole, allWhole⟩, ?_⟩
    rw [List.map_cons, List.map_cons, List.sum_cons, exact, same, List.flatten_cons, List.map_append, List.sum_append]

/-- Whoever adds to the metrics of a heartbeat and whoever takes them, in any number and any order of their steps: each
addition to a metric is in one of the values reported, by a take that has ended or is on its way, or in the value that
is still held, and in no other. If the additions between two removals of the metric are whole numbers whose sizes sum
to no more than 2⁵³, then the sum of the values reported and of the one held is the sum of the values added. -/
theorem Run.conserves {bound : Nat} (run : Run ⟨{ bound }, []⟩ events s) (metric : Metric) :
    ∃ blocks rest, blocks.flatten ++ rest = additions metric events ∧
      (s.reported metric).Perm (blocks.map Double.tally) ∧ s.heartbeat.value metric = Double.tally rest ∧
      ((∀ block ∈ rest :: blocks, Double.Small block) →
        (∀ value ∈ s.heartbeat.value metric :: s.reported metric, value.IsWhole) ∧
        ((s.reported metric).map Double.whole).sum + (s.heartbeat.value metric).whole =
          ((additions metric events).map Double.whole).sum) := by
  obtain ⟨blocks, rest, divided⟩ := run.divided metric
  refine ⟨blocks, rest, divided.all, divided.reported, divided.value, fun small => ?_⟩
  obtain ⟨last, earlier⟩ := List.forall_mem_cons.mp small
  obtain ⟨isWhole, exact⟩ := last.tally
  obtain ⟨allWhole, same⟩ := sum_tally earlier
  refine ⟨List.forall_mem_cons.mpr ⟨divided.value ▸ isWhole, fun value member => ?_⟩, ?_⟩
  · exact allWhole value (divided.reported.mem_iff.mp member)
  · calc ((s.reported metric).map Double.whole).sum + (s.heartbeat.value metric).whole
      _ = ((blocks.map Double.tally).map Double.whole).sum + (Double.tally rest).whole := by
        rw [(divided.reported.map Double.whole).sum_eq, divided.value]
      _ = (blocks.flatten.map Double.whole).sum + (rest.map Double.whole).sum := by rw [same, exact]
      _ = ((additions metric events).map Double.whole).sum := by
        rw [← List.sum_append, ← List.map_append, divided.all]

theorem small_blocks {values : List Double} (all : blocks.flatten ++ rest = values) (small : Double.Small values) :
    ∀ block ∈ rest :: blocks, Double.Small block := by
  subst all
  refine List.forall_mem_cons.mpr ⟨small.of_sublist (List.sublist_append_right _ _), fun block member => ?_⟩
  have inside : block.Sublist blocks.flatten := List.sublist_flatten_of_mem member
  exact small.of_sublist (inside.trans (List.sublist_append_left _ _))

/-- Two takes that meet: the second finds the resources before the first comes to them, each finds one addition to the
calls, and one more comes too late for both. -/
def meeting : List Event :=
  [.add .apiCalls (Double.ofInt 1), .add .resources (Double.ofInt 3), .collect, .collect, .remove 0,
    .add .apiCalls (Double.ofInt 2), .remove 1, .remove 1, .remove 0, .add .apiCalls (Double.ofInt 5)]

theorem meeting_run : ∃ s, Run ⟨{ bound := 10 }, []⟩ meeting s ∧
    s.reported .apiCalls = [Double.ofInt 1, Double.ofInt 2] ∧ s.reported .resources = [Double.ofInt 3] := by
  have nothing : Run ⟨{ bound := 10 }, []⟩ [] ⟨{ bound := 10 }, []⟩ := .start
  have first : [Metric.apiCalls, .resources].Perm [.apiCalls, .resources] := .refl _
  have second : [Metric.resources, .apiCalls].Perm [.apiCalls, .resources] := .swap ..
  have run := nothing
    |>.next (.add .apiCalls (Double.ofInt 1))
    |>.next (.add .resources (Double.ofInt 3))
    |>.next (.collect first)
    |>.next (.collect second)
    |>.next (.remove (i := 0) rfl)
    |>.next (.add .apiCalls (Double.ofInt 2))
    |>.next (.remove (i := 1) rfl)
    |>.next (.remove (i := 1) rfl)
    |>.next (.remove (i := 0) rfl)
    |>.next (.add .apiCalls (Double.ofInt 5))
  exact ⟨_, run, by decide +kernel, by decide +kernel⟩

theorem additions_meeting : additions .apiCalls meeting = [1, 2, 5].map fun n : Nat => Double.ofInt n := rfl

theorem meeting_conserves : ∃ s, Run ⟨{ bound := 10 }, []⟩ meeting s ∧
    s.reported .apiCalls = [Double.ofInt 1, Double.ofInt 2] ∧ s.reported .resources = [Double.ofInt 3] ∧
    ((s.reported .apiCalls).map Double.whole).sum + (s.heartbeat.value .apiCalls).whole = 8 := by
  obtain ⟨s, run, calls, resources⟩ := meeting_run
  obtain ⟨blocks, rest, all, -, -, exact⟩ := Run.conserves run .apiCalls
  have few : [1, 2, 5].sum ≤ Double.pow2 53 := by decide
  obtain ⟨small, total⟩ := Double.small_counts few
  rw [← additions_meeting] at small total
  obtain ⟨-, sum⟩ := exact (small_blocks all small)
  exact ⟨s, run, calls, resources, sum.trans total⟩

end Heartbeat

end Graft
