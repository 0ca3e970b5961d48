import Graft.Selection
import Mathlib.Data.List.Induction

namespace Graft.Selection

section Names

variable {a b c : String}

theorem sameName_iff : sameName a b = true ↔ a.toList.map Char.toLower = b.toList.map Char.toLower := beq_iff_eq

theorem sameName_refl (a : String) : sameName a a = true := sameName_iff.mpr rfl

theorem sameName_symm (same : sameName a b = true) : sameName b a = true :=
  sameName_iff.mpr (sameName_iff.mp same).symm

theorem sameName_trans (first : sameName a b = true) (second : sameName b c = true) : sameName a c = true :=
  sameName_iff.mpr ((sameName_iff.mp first).trans (sameName_iff.mp second))

theorem sameName_empty_iff : sameName "" a = true ↔ a = "" := by
  rw [sameName_iff]
  constructor
  · intro same
    have none : a.toList = [] := List.map_eq_nil_iff.mp same.symm
    exact String.toList_inj.mp none
  · intro empty
    rw [empty]

/-- A value that is neither empty nor a flag. -/
def Naming (value : String) : Prop := value ≠ "" ∧ isFlag value = false

instance (value : String) : Decidable (Naming value) := inferInstanceAs (Decidable (_ ∧ _))

/-- What is spelled as a name but for the case is one, too. -/
theorem Naming.of_same (naming : Naming a) (same : sameName b a = true) : Naming b := by
  obtain ⟨some, noFlag⟩ := naming
  obtain ⟨notTrue, notFalse⟩ := Bool.or_eq_false_iff.mp noFlag
  have flag (value : String) (apart : sameName a value = false) : sameName b value = false := by
    rw [Bool.eq_false_iff] at apart ⊢
    exact fun is => apart (sameName_trans (sameName_symm same) is)
  refine ⟨?_, Bool.or_eq_false_iff.mpr ⟨flag _ notTrue, flag _ notFalse⟩⟩
  rintro rfl
  exact some (sameName_empty_iff.mp same)

end Names

/-- The values of the inject annotations, in the order in which they count. -/
def values (annotations : Keyed String) : List String := injectAnnotations.filterMap fun a => annotations.get? a.2

/-- The values among them that name a resource. -/
def namings (annotations : Keyed String) : List String := (values annotations).filter (Naming ·)

/-- What the names gathered from some values are: each name once, in one of its spellings, and the first of all. -/
structure Gathered (values names : List String) : Prop where
  sublist : names.Sublist (values.filter (Naming ·))
  distinct : names.Pairwise fun a b => sameName a b = false
  covers : ∀ value ∈ values.filter (Naming ·), ∃ name ∈ names, sameName name value = true
  first : names.head? = (values.filter (Naming ·)).head?

theorem gathered_nil : Gathered [] [] := ⟨.refl _, .nil, nofun, rfl⟩

theorem addName_eq (names : List String) (value : String) : addName names value =
    if Naming value ∧ ¬ names.any (sameName · value) = true then names ++ [value] else names := by
  unfold addName Naming
  by_cases empty : value = ""
  · simp [empty]
  · by_cases flag : isFlag value = true <;> by_cases known : names.any (sameName · value) = true <;>
      simp [empty, flag, known]

theorem filter_naming_append (values : List String) (value : String) :
    (values ++ [value]).filter (Naming ·) = values.filter (Naming ·) ++ if Naming value then [value] else [] := by
  by_cases naming : Naming value <;> simp [List.filter_append, naming]

namespace Gathered

variable {values names : List String} {value : String}

/-- A name that is there in some spelling. -/
theorem append_known (h : Gathered values names) (naming : Naming value)
    (known : names.any (sameName · value) = true) : Gathered (values ++ [value]) names := by
  obtain ⟨name, member, spelled⟩ := List.any_eq_true.mp known
  have filtered := filter_naming_append values value
  rw [if_pos naming] at filtered
  refine ⟨?_, h.distinct, ?_, ?_⟩
  · rw [filtered]
    exact h.sublist.trans (List.sublist_append_left _ _)
  · rw [filtered]
    intro other there
    rcases List.mem_append.mp there with before | last
    · exact h.covers other before
    · rw [List.mem_singleton.mp last]
      exact ⟨name, member, spelled⟩
  · rw [filtered, List.head?_append, ← h.first]
    cases names with
    | nil => cases member
    | cons first rest => rfl

theorem append_fresh (h : Gathered values names) (naming : Naming value)
    (fresh : ¬ names.any (sameName · value) = true) : Gathered (values ++ [value]) (names ++ [value]) := by
  have apart : ∀ name ∈ names, sameName name value = false := by simpa using fresh
  have filtered := filter_naming_append values value
  rw [if_pos naming] at filtered
  refine ⟨?_, ?_, ?_, ?_⟩
  · rw [filtered]
    exact h.sublist.append (.refl _)
  · refine List.pairwise_append.mpr ⟨h.distinct, List.pairwise_singleton _ _, ?_⟩
    intro name member other isLast
    rw [List.mem_singleton.mp isLast]
    exact apart name member
  · rw [filtered]
    intro other there
    rcases List.mem_append.mp there with before | last
    · obtain ⟨name, member, spelled⟩ := h.covers other before
      exact ⟨name, List.mem_append_left _ member, spelled⟩
    · rw [List.mem_singleton.mp last]
      exact ⟨value, List.mem_append_right _ (List.mem_singleton_self _), sameName_refl value⟩
  · rw [filtered, List.head?_append, List.head?_append, h.first]

/-- One value more: it is a new name, or one that is there in some spelling, or it is no name. -/
theorem append (h : Gathered values names) (value : String) :
    Gathered (values ++ [value]) (addName names value) := by
  rw [addName_eq]
  by_cases naming : Naming value
  · by_cases known : names.any (sameName · value) = true
    · rw [if_neg fun both => both.2 known]
      exact h.append_known naming known
    · rw [if_pos ⟨naming, known⟩]
      exact h.append_fresh naming known
  · have filtered := filter_naming_append values value
    rw [if_neg naming, List.append_nil] at filtered
    rw [if_neg fun both => naming both.1]
    exact ⟨filtered ▸ h.sublist, h.distinct, filtered ▸ h.covers, filtered ▸ h.first⟩

theorem conflict_iff (h : Gathered values names) :
    (∃ a ∈ values.filter (Naming ·), ∃ b ∈ values.filter (Naming ·), sameName a b = false) ↔ 2 ≤ names.length := by
  constructor
  · rintro ⟨a, inValues, b, alsoInValues, apart⟩
    obtain ⟨name, member, ofFirst⟩ := h.covers a inValues
    obtain ⟨other, there, ofSecond⟩ := h.covers b alsoInValues
    rcases names with _ | ⟨first, _ | ⟨second, rest⟩⟩
    · cases member
    · have here : name = first := List.mem_singleton.mp member
      have same : other = name := (List.mem_singleton.mp there).trans here.symm
      have agree := sameName_trans (sameName_symm ofFirst) (same ▸ ofSecond)
      rw [agree] at apart
      cases apart
    · simp
  · intro several
    rcases names with _ | ⟨first, _ | ⟨second, rest⟩⟩
    · simp at several
    · simp at several
    · have apart := (List.pairwise_cons.mp h.distinct).1 second List.mem_cons_self
      have inValues := h.sublist.subset
      exact ⟨first, inValues List.mem_cons_self, second, inValues (List.mem_cons_of_mem _ List.mem_cons_self), apart⟩

/-- Where all names are one, each value spells the first. -/
theorem spelled (h : Gathered values names) (single : names.length < 2) (default : String) :
    ∀ value ∈ values.filter (Naming ·), sameName value (names.headD default) = true := by
  intro value member
  obtain ⟨name, there, same⟩ := h.covers value member
  rcases names with _ | ⟨first, _ | ⟨second, rest⟩⟩
  · cases there
  · rw [List.mem_singleton.mp there] at same
    exact sameName_symm same
  · simp only [List.length_cons] at single
    omega

end Gathered

variable (annotations : Keyed String)

theorem gathered_chosenNames : Gathered (values annotations) (chosenNames annotations) := by
  change Gathered (values annotations) ((values annotations).foldl addName [])
  induction values annotations using List.reverseRecOn with
  | nil => exact gathered_nil
  | append_singleton front value ih =>
    rw [List.foldl_append]
    exact ih.append value

/-- How the name of a resource is resolved. Two annotations conflict if their names differ in more than the case. -/
structure Resolution : Prop where
  fails : (∃ e, resourceName annotations = .error e) ↔
    ∃ a ∈ namings annotations, ∃ b ∈ namings annotations, sameName a b = false
  conflict : ∀ e, resourceName annotations = .error e → ∃ names, e = .conflictingSelection names ∧
    names.Sublist (namings annotations) ∧ (names.Pairwise fun a b => sameName a b = false) ∧
    ∀ value ∈ namings annotations, ∃ name ∈ names, sameName name value = true
  first : ∀ name, resourceName annotations = .ok name →
    name = (namings annotations).headD Instrumentation.defaultName
  agreed : ∀ name, resourceName annotations = .ok name → ∀ value ∈ namings annotations, sameName value name = true

theorem resourceName_eq_error_iff {e : Error} : resourceName annotations = .error e ↔
    2 ≤ (chosenNames annotations).length ∧ e = .conflictingSelection (chosenNames annotations) := by
  unfold resourceName
  rcases chosenNames annotations with _ | ⟨first, _ | ⟨second, rest⟩⟩ <;> simp [eq_comm]

theorem resourceName_eq_ok_iff {name : String} : resourceName annotations = .ok name ↔
    (chosenNames annotations).length < 2 ∧ name = (chosenNames annotations).headD Instrumentation.defaultName := by
  unfold resourceName
  rcases chosenNames annotations with _ | ⟨first, _ | ⟨second, rest⟩⟩
  · simp [eq_comm]
  · simp [eq_comm]
  · refine iff_of_false nofun fun ⟨single, _⟩ => ?_
    simp only [List.length_cons] at single
    omega

theorem resolution : Resolution annotations := by
  have gathered := gathered_chosenNames annotations
  refine ⟨?_, ?_, ?_, ?_⟩
  · refine Iff.trans ?_ gathered.conflict_iff.symm
    simp [resourceName_eq_error_iff]
  · intro e run
    obtain ⟨_, rfl⟩ := (resourceName_eq_error_iff annotations).mp run
    exact ⟨_, rfl, gathered.sublist, gathered.distinct, gathered.covers⟩
  · intro name run
    obtain ⟨_, rfl⟩ := (resourceName_eq_ok_iff annotations).mp run
    rw [List.headD_eq_head?_getD, List.headD_eq_head?_getD, gathered.first]
    rfl
  · intro name run value member
    obtain ⟨single, rfl⟩ := (resourceName_eq_ok_iff annotations).mp run
    exact gathered.spelled single _ value member

/-- No inject annotation is there with a text. -/
def Silent : Prop := ∀ a ∈ injectAnnotations, annotations.get? a.2 = none ∨ annotations.get? a.2 = some ""

instance : Decidable (Silent annotations) := inferInstanceAs (Decidable (∀ a ∈ injectAnnotations, _))

variable {annotations} in
theorem Silent.eq_empty (silent : Silent annotations) {a : Platform × String} (there : a ∈ injectAnnotations)
    {value : String} (found : annotations.get? a.2 = some value) : value = "" := by
  rcases silent a there with none | empty
  · rw [none] at found
    cases found
  · rw [empty] at found
    exact (Option.some.inj found).symm

/-- A platform has an inject annotation that does not switch it off. -/
def Asked (p : Platform) : Prop := ∃ key value, (p, key) ∈ injectAnnotations ∧ annotations.get? key = some value ∧
  value ≠ "" ∧ sameName value "false" = false

/-- Where the platforms of a template come from: from the resource, or from the annotations alone. A resource may happen
to list what the annotations ask for, so it takes all resources to tell the two apart. -/
structure Choice (resource : Instrumentation) : Prop where
  own : Silent annotations ↔ ∀ other, platforms annotations other = other.platforms
  implicit : Silent annotations → resourceName annotations = .ok Instrumentation.defaultName
  independent : ¬ Silent annotations → ∀ other, platforms annotations other = platforms annotations resource
  ordered : ¬ Silent annotations → (platforms annotations resource).Sublist Platform.supported
  nodup : ¬ Silent annotations → (platforms annotations resource).Nodup
  asked : ¬ Silent annotations → ∀ p, p ∈ platforms annotations resource ↔ Asked annotations p

/-- The inject annotations that have a text, with their platforms. -/
def requested : List (Platform × String) :=
  injectAnnotations.filterMap fun a => (annotations.get? a.2).bind fun v => if v = "" then none else some (a.1, v)

theorem platforms_eq (resource : Instrumentation) : platforms annotations resource =
    if (requested annotations).isEmpty then resource.platforms
    else ((requested annotations).filter fun r => !sameName r.2 "false").map Prod.fst := rfl

theorem mem_requested_iff {p : Platform} {value : String} : (p, value) ∈ requested annotations ↔
    ∃ key, (p, key) ∈ injectAnnotations ∧ annotations.get? key = some value ∧ value ≠ "" := by
  unfold requested
  rw [List.mem_filterMap]
  constructor
  · rintro ⟨⟨q, key⟩, member, made⟩
    obtain ⟨text, found, made⟩ := Option.bind_eq_some_iff.mp made
    split at made
    · cases made
    · rename_i some
      cases made
      exact ⟨key, member, found, some⟩
  · rintro ⟨key, member, found, some⟩
    exact ⟨(p, key), member, by simp [found, some]⟩

theorem silent_iff : Silent annotations ↔ requested annotations = [] := by
  constructor
  · intro silent
    refine List.eq_nil_iff_forall_not_mem.mpr fun ⟨p, value⟩ member => ?_
    obtain ⟨key, there, found, some⟩ := (mem_requested_iff annotations).mp member
    exact some (silent.eq_empty there found)
  · rintro none ⟨p, key⟩ there
    cases found : annotations.get? key with
    | none => exact .inl rfl
    | some value =>
      refine .inr (congrArg Option.some (Decidable.byContradiction fun some => ?_))
      have member := (mem_requested_iff annotations).mpr ⟨key, there, found, some⟩
      rw [none] at member
      cases member

/-- The requested platforms are in the order of the annotations, and none is there twice. -/
theorem requested_sublist : ((requested annotations).map Prod.fst).Sublist Platform.supported := by
  have each (choices : List (Platform × String)) : ((choices.filterMap fun a =>
      (annotations.get? a.2).bind fun v => if v = "" then none else some (a.1, v)).map Prod.fst).Sublist
      (choices.map Prod.fst) := by
    induction choices with
    | nil => exact .refl _
    | cons a rest ih =>
      rw [List.filterMap_cons]
      split
      · exact ih.cons a.1
      · rename_i b made
        obtain ⟨text, _, made⟩ := Option.bind_eq_some_iff.mp made
        split at made <;> cases made
        exact ih.cons_cons a.1
  exact each injectAnnotations

/-- What the resource lists does not matter once an annotation has a text, even if that switches its platform off. -/
theorem platforms_of_spoken (spoken : ¬ Silent annotations) (resource : Instrumentation) :
    platforms annotations resource =
      ((requested annotations).filter fun r => !sameName r.2 "false").map Prod.fst := by
  have given : ¬ (requested annotations).isEmpty = true := by
    rw [List.isEmpty_iff, ← silent_iff]
    exact spoken
  rw [platforms_eq, if_neg given]

theorem platforms_sublist {resource : Instrumentation} (spoken : ¬ Silent annotations) :
    (platforms annotations resource).Sublist Platform.supported := by
  rw [platforms_of_spoken annotations spoken]
  exact (List.filter_sublist.map _).trans (requested_sublist annotations)

theorem mem_platforms_iff {resource : Instrumentation} (spoken : ¬ Silent annotations) {p : Platform} :
    p ∈ platforms annotations resource ↔ Asked annotations p := by
  rw [platforms_of_spoken annotations spoken]
  constructor
  · intro member
    obtain ⟨⟨q, value⟩, kept, rfl⟩ := List.mem_map.mp member
    obtain ⟨isRequested, on⟩ := List.mem_filter.mp kept
    obtain ⟨key, there, found, text⟩ := (mem_requested_iff annotations).mp isRequested
    exact ⟨key, value, there, found, text, by simpa using on⟩
  · rintro ⟨key, value, there, found, text, on⟩
    have isRequested := (mem_requested_iff annotations).mpr ⟨key, there, found, text⟩
    exact List.mem_map.mpr ⟨(p, value), List.mem_filter.mpr ⟨isRequested, by simpa using on⟩, rfl⟩

theorem namings_of_silent (silent : Silent annotations) : namings annotations = [] := by
  refine List.filter_eq_nil_iff.mpr fun value member => ?_
  obtain ⟨a, there, found⟩ := List.mem_filterMap.mp member
  have empty := silent.eq_empty there found
  simp [Naming, empty]

theorem choice (resource : Instrumentation) : Choice annotations resource := by
  refine ⟨⟨?_, ?_⟩, ?_, ?_, platforms_sublist annotations, ?_, fun spoken _ => mem_platforms_iff annotations spoken⟩
  · intro silent other
    rw [platforms_eq, (silent_iff annotations).mp silent]
    rfl
  · -- No list of the annotations has a platform without an agent, and a resource may list one.
    intro own
    refine Decidable.byContradiction fun spoken => ?_
    have listed := own { resource with platforms := [.openTelemetry] }
    have supported : (platforms annotations { resource with platforms := [.openTelemetry] }).Sublist
        Platform.supported := platforms_sublist annotations spoken
    rw [listed] at supported
    have member : Platform.openTelemetry ∈ Platform.supported := supported.subset List.mem_cons_self
    revert member
    decide
  · intro silent
    have none := namings_of_silent annotations silent
    have gathered := gathered_chosenNames annotations
    have empty : chosenNames annotations = [] := List.sublist_nil.mp (none ▸ gathered.sublist)
    rw [resourceName, empty]
  · intro spoken other
    rw [platforms_of_spoken annotations spoken, platforms_of_spoken annotations spoken]
  · intro spoken
    have once : Platform.supported.Nodup := by decide
    exact (platforms_sublist annotations spoken).nodup once

/-- No platform is repeated if the resource repeats none. -/
theorem platforms_nodup {resource : Instrumentation} (unrepeated : resource.platforms.Nodup) :
    (platforms annotations resource).Nodup := by
  have chosen := choice annotations resource
  by_cases silent : Silent annotations
  · rw [chosen.own.mp silent]
    exact unrepeated
  · exact chosen.nodup silent

/-- A name that is resolved names a resource, also where no annotation gives one and it is the default. -/
theorem naming_of_resourceName {name : String} (run : resourceName annotations = .ok name) : Naming name := by
  have is := (resolution annotations).first name run
  cases given : namings annotations with
  | nil =>
    rw [is, given]
    decide
  | cons first rest =>
    have member : first ∈ namings annotations := given ▸ List.mem_cons_self
    rw [is, given]
    exact of_decide_eq_true (List.mem_filter.mp member).2

/-- Whatever the annotations are, the name and the platforms are read from them in accord: a platform whose annotation
gives the name of the resource, in any case, is selected. The two functions go through the annotations each for itself,
so that they agree is not a matter of course. -/
theorem selection_consistent (resource : Instrumentation) : Resolution annotations ∧ Choice annotations resource ∧
    ∀ name, resourceName annotations = .ok name → ∀ p key value, (p, key) ∈ injectAnnotations →
      annotations.get? key = some value → sameName value name = true → p ∈ platforms annotations resource := by
  refine ⟨resolution annotations, choice annotations resource, ?_⟩
  intro name run p key value there found same
  have naming := (naming_of_resourceName annotations run).of_same same
  have on : sameName value "false" = false := (Bool.or_eq_false_iff.mp naming.2).2
  have spoken : ¬ Silent annotations := fun silent => naming.1 (silent.eq_empty there found)
  exact (mem_platforms_iff annotations spoken).mpr ⟨key, value, there, found, naming.1, on⟩

-- The first spelling counts, and a flag asks for a platform without naming a resource.
example : resourceName [("instrumentation.opentelemetry.io/inject-dotnet", "TRUE"),
    ("instrumentation.opentelemetry.io/inject-java", "Team"),
    ("instrumentation.opentelemetry.io/inject-nodejs", "team")] = .ok "Team" := by rfl

end Graft.Selection
