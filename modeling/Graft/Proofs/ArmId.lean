import Graft.ClusterIdentity
import Mathlib

namespace Graft

namespace ClusterIdentity

open Text (split)

section Letters

theorem toLower_eq_toLower_iff {letter c : Char} :
    letter.toLower = c.toLower ↔ c = letter.toLower ∨ c = letter.toUpper := by
  constructor
  · intro same
    by_cases upper : c.isUpper = true
    · right
      have notLower := Char.not_isLower_of_isUpper upper
      calc c
        _ = c.toLower.toUpper := by rw [Char.toUpper_toLower_eq_toUpper, Char.toUpper_eq_of_not_isLower notLower]
        _ = letter.toUpper := by rw [← same, Char.toUpper_toLower_eq_toUpper]
    · left
      rw [same, Char.toLower_eq_of_not_isUpper upper]
  · rintro (rfl | rfl)
    · exact Char.toLower_toLower_eq_toLower letter |>.symm
    · exact Char.toLower_toUpper_eq_toLower letter |>.symm

/-- The characters that simple case folding makes the same as an ASCII letter: its two cases, and for two of the
letters one more. -/
def spellings (letter : Char) : List Char :=
  letter.toLower :: letter.toUpper ::
    if letter.toLower = 's' then ['ſ'] else if letter.toLower = 'k' then ['\u212a'] else []

/-- Neither case of a letter is another kind of character, so a slash or a digit folds to no letter. -/
theorem ne_cases {letter other : Char} (alpha : letter.isAlpha = true) (not : other.isAlpha = false) :
    other ≠ letter.toLower ∧ other ≠ letter.toUpper := by
  constructor
  · rintro rfl
    rw [Char.isAlpha_toLower_eq_isAlpha, alpha] at not
    cases not
  · rintro rfl
    rw [Char.isAlpha_toUpper_eq_isAlpha, alpha] at not
    cases not

theorem fold_of_isAlpha {letter : Char} (alpha : letter.isAlpha = true) : fold letter = letter.toLower := by
  have notLong : letter ≠ 'ſ' := by
    rintro rfl
    exact absurd alpha (by decide)
  have notKelvin : letter ≠ '\u212a' := by
    rintro rfl
    exact absurd alpha (by decide)
  rw [fold, if_neg notLong, if_neg notKelvin]

theorem fold_eq_fold_iff {letter : Char} (alpha : letter.isAlpha = true) (c : Char) :
    fold letter = fold c ↔ c ∈ spellings letter := by
  rw [fold_of_isAlpha alpha, spellings, List.mem_cons, List.mem_cons]
  by_cases long : c = 'ſ'
  · subst long
    have notAlpha : 'ſ'.isAlpha = false := by decide
    obtain ⟨lower, upper⟩ := ne_cases alpha notAlpha
    rw [or_iff_right lower, or_iff_right upper]
    by_cases s : letter.toLower = 's'
    · simp [fold, s]
    · by_cases k : letter.toLower = 'k' <;> simp [fold, s, k]
  by_cases kelvin : c = '\u212a'
  · subst kelvin
    have notAlpha : '\u212a'.isAlpha = false := by decide
    obtain ⟨lower, upper⟩ := ne_cases alpha notAlpha
    rw [or_iff_right lower, or_iff_right upper]
    by_cases s : letter.toLower = 's'
    · simp [fold, s]
    · by_cases k : letter.toLower = 'k' <;> simp [fold, s, k]
  · have plain : c ∉ (if letter.toLower = 's' then ['ſ'] else if letter.toLower = 'k' then ['\u212a'] else []) := by
      split
      · simpa using long
      · split
        · simpa using kelvin
        · simp
    rw [fold, if_neg long, if_neg kelvin, toLower_eq_toLower_iff, or_iff_left plain]

/-- The keywords of an id. -/
def keywords : List String := ["subscriptions", "resourceGroups", "providers"]

theorem isAlpha_of_keyword {word : String} (keyword : word ∈ keywords) :
    ∀ letter ∈ word.toList, letter.isAlpha = true := by
  simp only [keywords, List.mem_cons, List.not_mem_nil, or_false] at keyword
  rcases keyword with rfl | rfl | rfl <;> simp

/-- A word in some spelling. -/
def Spelled (word : String) (cs : List Char) : Prop :=
  List.Forall₂ (fun letter c => c ∈ spellings letter) word.toList cs

theorem sameWord_iff {word : String} (keyword : word ∈ keywords) (cs : List Char) :
    sameWord word cs = true ↔ Spelled word cs := by
  have letters := isAlpha_of_keyword keyword
  rw [sameWord, beq_iff_eq, Spelled]
  generalize word.toList = rest at letters
  induction rest generalizing cs with
  | nil => cases cs <;> simp
  | cons letter rest ih =>
    obtain ⟨first, others⟩ := List.forall_mem_cons.mp letters
    cases cs with
    | nil => simp
    | cons c cs =>
      rw [List.map_cons, List.map_cons, List.cons.injEq, List.forall₂_cons, fold_eq_fold_iff first]
      exact and_congr_right fun _ => ih cs others

theorem Spelled.not_mem {word : String} {cs : List Char} (spelled : Spelled word cs) (keyword : word ∈ keywords) :
    '/' ∉ cs := by
  intro member
  obtain ⟨i, inside, is⟩ := List.mem_iff_getElem.mp member
  have same := List.forall₂_iff_get.mp spelled
  have letter := isAlpha_of_keyword keyword _ (List.getElem_mem (same.1 ▸ inside : i < word.toList.length))
  have folded := (fold_eq_fold_iff letter _).mpr (same.2 i (same.1 ▸ inside) inside)
  rw [List.get_eq_getElem, is, fold_of_isAlpha letter] at folded
  have slash : '/'.isAlpha = false := by decide
  exact (ne_cases letter slash).1 folded.symm

end Letters

section Segments

theorem intercalate_cons (sep : Char) (part : List Char) (parts : List (List Char)) :
    List.intercalate [sep] (part :: parts) = part ++ parts.flatMap (sep :: ·) := by
  induction parts generalizing part with
  | nil => simp
  | cons next rest ih =>
    rw [List.intercalate_cons_cons, ih, List.flatMap_cons, List.append_assoc, List.singleton_append, List.cons_append]

/-- A text that begins with the separator is a separator before each of its further parts, none of which holds one. -/
theorem split_eq_nil_cons_iff {sep : Char} {cs : List Char} {parts : List (List Char)} :
    split sep cs = [] :: parts ↔ cs = parts.flatMap (sep :: ·) ∧ ∀ part ∈ parts, sep ∉ part := by
  constructor
  · intro parted
    constructor
    · rw [← Text.intercalate_split sep cs, parted, intercalate_cons, List.nil_append]
    · intro part member
      exact Text.not_mem_of_mem_split (parted ▸ List.mem_cons_of_mem _ member)
  · rintro ⟨rfl, apart⟩
    rw [← List.nil_append (List.flatMap _ _), ← intercalate_cons]
    exact Text.split_intercalate (List.cons_ne_nil _ _) (List.forall_mem_cons.mpr ⟨List.not_mem_nil, apart⟩)

/-- What may follow the name: nothing, or a slash and text of one line. -/
def Trailing (cs : List Char) : Prop := cs = [] ∨ ∃ rest, cs = '/' :: rest ∧ '\n' ∉ rest

theorem trailing_iff {cs : List Char} : Trailing cs ↔
    ∃ parts : List (List Char), cs = parts.flatMap ('/' :: ·) ∧ (∀ part ∈ parts, '/' ∉ part) ∧
      ∀ part ∈ parts, '\n' ∉ part := by
  constructor
  · rintro (rfl | ⟨rest, rfl, oneLine⟩)
    · exact ⟨[], rfl, nofun, nofun⟩
    · have joined : '/' :: rest = (split '/' rest).flatMap ('/' :: ·) := by
        conv_lhs => rw [← Text.intercalate_split '/' rest]
        cases parted : split '/' rest with
        | nil => exact absurd parted (Text.split_ne_nil '/' rest)
        | cons first others => rw [intercalate_cons, List.flatMap_cons, List.cons_append]
      refine ⟨split '/' rest, joined, fun part => Text.not_mem_of_mem_split, fun part member feed => ?_⟩
      have inside : '\n' ∈ '/' :: rest := by
        rw [joined]
        exact List.mem_flatMap.mpr ⟨part, member, List.mem_cons_of_mem _ feed⟩
      exact oneLine ((List.mem_cons.mp inside).resolve_left (by decide))
  · rintro ⟨parts, rfl, -, oneLine⟩
    cases parts with
    | nil => exact .inl rfl
    | cons first others =>
      refine .inr ⟨first ++ others.flatMap ('/' :: ·), rfl, ?_⟩
      obtain ⟨here, later⟩ := List.forall_mem_cons.mp oneLine
      rw [List.mem_append, List.mem_flatMap]
      rintro (inFirst | ⟨part, member, inPart⟩)
      · exact here inFirst
      · exact later part member ((List.mem_cons.mp inPart).resolve_left (by decide))

end Segments

end ClusterIdentity

/-- The variable segments of an ARM resource id. -/
structure ArmId where
  subscription : List Char
  group : List Char
  provider : List Char
  kind : List Char
  name : List Char

namespace ArmId

open ClusterIdentity
open Text (split)

def segments (a : ArmId) : List (List Char) := [a.subscription, a.group, a.provider, a.kind, a.name]

/-- Whether a text is an id with these segments: `/subscriptions/S/resourceGroups/G/providers/P/T/N`, its keywords in
any spelling, and what may follow. -/
structure Reads (a : ArmId) (text : List Char) : Prop where
  decomposed : ∃ subscriptions groups providers rest, Spelled "subscriptions" subscriptions ∧
    Spelled "resourceGroups" groups ∧ Spelled "providers" providers ∧ Trailing rest ∧
    text = [subscriptions, a.subscription, groups, a.group, providers, a.provider, a.kind, a.name].flatMap ('/' :: ·) ++
      rest
  nonempty : ∀ segment ∈ a.segments, segment ≠ []
  apart : ∀ segment ∈ a.segments, '/' ∉ segment

/-- An id by the parts between its slashes. The keywords stand at fixed places, no segment is empty, and only what
follows the name is kept to one line. -/
theorem reads_iff_split {a : ArmId} {text : List Char} : a.Reads text ↔ ∃ subscriptions groups providers parts,
    Spelled "subscriptions" subscriptions ∧ Spelled "resourceGroups" groups ∧ Spelled "providers" providers ∧
    split '/' text = [] :: subscriptions :: a.subscription :: groups :: a.group :: providers :: a.provider :: a.kind ::
      a.name :: parts ∧
    (∀ segment ∈ a.segments, segment ≠ []) ∧ ∀ part ∈ parts, '\n' ∉ part := by
  constructor
  · rintro ⟨⟨subscriptions, groups, providers, rest, first, second, third, trailing, rfl⟩, nonempty, apart⟩
    obtain ⟨parts, rfl, partsApart, oneLine⟩ := trailing_iff.mp trailing
    refine ⟨subscriptions, groups, providers, parts, first, second, third, ?_, nonempty, oneLine⟩
    have noFirst := first.not_mem (by simp [keywords])
    have noSecond := second.not_mem (by simp [keywords])
    have noThird := third.not_mem (by simp [keywords])
    simp only [segments, List.forall_mem_cons] at apart
    obtain ⟨s, g, p, t, n, -⟩ := apart
    rw [← List.flatMap_append]
    refine split_eq_nil_cons_iff.mpr ⟨rfl, ?_⟩
    simp only [List.forall_mem_cons]
    exact ⟨noFirst, s, noSecond, g, noThird, p, t, n, partsApart⟩
  · rintro ⟨subscriptions, groups, providers, parts, first, second, third, parted, nonempty, oneLine⟩
    obtain ⟨rfl, apart⟩ := split_eq_nil_cons_iff.mp parted
    simp only [List.forall_mem_cons] at apart
    obtain ⟨-, s, -, g, -, p, t, n, partsApart⟩ := apart
    refine ⟨⟨subscriptions, groups, providers, parts.flatMap ('/' :: ·), first, second, third, ?_, ?_⟩, nonempty, ?_⟩
    · exact trailing_iff.mpr ⟨parts, rfl, partsApart, oneLine⟩
    · rw [← List.flatMap_append]
      rfl
    · simp only [segments, List.forall_mem_cons]
      exact ⟨s, g, p, t, n, nofun⟩

/-- A text is an id in one way only: segments hold no slash, so the slashes tell where each of them ends. -/
theorem Reads.unique {a b : ArmId} {text : List Char} (first : a.Reads text) (second : b.Reads text) : a = b := by
  obtain ⟨_, _, _, _, -, -, -, parted, -, -⟩ := reads_iff_split.mp first
  obtain ⟨_, _, _, _, -, -, -, parted', -, -⟩ := reads_iff_split.mp second
  cases a
  cases b
  simp only [parted, List.cons.injEq, true_and] at parted'
  simp [parted']

end ArmId

namespace ClusterIdentity

open Text (split)

theorem nameOf?_eq_some_iff {id name : String} :
    nameOf? id = some name ↔ ∃ a : ArmId, a.Reads id.toList ∧ String.ofList a.name = name := by
  have first := sameWord_iff (by simp [keywords] : "subscriptions" ∈ keywords)
  have second := sameWord_iff (by simp [keywords] : "resourceGroups" ∈ keywords)
  have third := sameWord_iff (by simp [keywords] : "providers" ∈ keywords)
  constructor
  · intro found
    unfold nameOf? at found
    split at found
    · rename_i subscriptions s groups g providers p t n parts parted
      split at found
      · rename_i sound
        simp only [Bool.and_eq_true, first, second, third, bne_iff_ne, List.all_eq_true, Bool.not_eq_true',
          List.contains_eq_mem, decide_eq_false_iff_not] at sound
        obtain ⟨⟨⟨⟨⟨⟨⟨⟨k₁, k₂⟩, k₃⟩, s'⟩, g'⟩, p'⟩, t'⟩, n'⟩, oneLine⟩ := sound
        refine ⟨⟨s, g, p, t, n⟩, ArmId.reads_iff_split.mpr ?_, Option.some.inj found⟩
        refine ⟨subscriptions, groups, providers, parts, k₁, k₂, k₃, parted, ?_, oneLine⟩
        simp only [ArmId.segments, List.forall_mem_cons]
        exact ⟨s', g', p', t', n', nofun⟩
      · cases found
    · cases found
  · rintro ⟨a, reads, rfl⟩
    obtain ⟨subscriptions, groups, providers, parts, k₁, k₂, k₃, parted, nonempty, oneLine⟩ :=
      ArmId.reads_iff_split.mp reads
    simp only [ArmId.segments, List.forall_mem_cons] at nonempty
    obtain ⟨s, g, p, t, n, -⟩ := nonempty
    unfold nameOf?
    rw [parted]
    simp only
    rw [if_pos]
    simp only [Bool.and_eq_true, first, second, third, bne_iff_ne, List.all_eq_true, Bool.not_eq_true',
      List.contains_eq_mem, decide_eq_false_iff_not]
    exact ⟨⟨⟨⟨⟨⟨⟨⟨k₁, k₂⟩, k₃⟩, s⟩, g⟩, p⟩, t⟩, n⟩, oneLine⟩

section Pattern

/-- A part of a pattern: a slash, a word in any spelling, a segment that is captured, text of one line, or the end. -/
inductive Part where
  | slash
  | word (text : String)
  | segment
  | line
  | stop

/-- What is left behind a word. -/
def passWord : List Char → List Char → Option (List Char)
  | [], cs => some cs
  | _ :: _, [] => none
  | letter :: word, c :: cs => if c ∈ spellings letter then passWord word cs else none

theorem not_mem_iff_bne {sep : Char} {cs : List Char} : sep ∉ cs ↔ ∀ c ∈ cs, (c != sep) = true := by
  constructor
  · intro apart c member
    exact bne_iff_ne.mpr fun is => apart (is ▸ member)
  · intro all member
    simpa using all sep member

/-- The ways to take some characters of a kind from the front, the longest first, with what is left. -/
def greedy (kind : Char → Bool) : List Char → List (List Char × List Char)
  | [] => [([], [])]
  | c :: cs =>
    if kind c then (greedy kind cs).map (fun way => (c :: way.1, way.2)) ++ [([], c :: cs)] else [([], c :: cs)]

/-- What the segments of a pattern capture, for each way in which it matches a text from its start, in the order in
which the ways are tried. -/
def captures : List Part → List Char → List (List (List Char))
  | [], _ => [[]]
  | .slash :: parts, cs => match cs with
    | '/' :: cs => captures parts cs
    | _ => []
  | .word text :: parts, cs => match passWord text.toList cs with
    | some rest => captures parts rest
    | none => []
  | .segment :: parts, cs => (greedy (· != '/') cs).flatMap fun way =>
    if way.1 = [] then [] else (captures parts way.2).map (way.1 :: ·)
  | .line :: parts, cs => (greedy (· != '\n') cs).flatMap fun way => captures parts way.2
  | .stop :: parts, cs => if cs = [] then captures parts cs else []

/-- The pattern of an id. -/
def pattern : List Part := [
  .slash, .word "subscriptions", .slash, .segment,
  .slash, .word "resourceGroups", .slash, .segment,
  .slash, .word "providers", .slash, .segment,
  .slash, .segment, .slash, .segment, .line, .stop]

theorem passWord_eq_some_iff {word cs rest : List Char} : passWord word cs = some rest ↔
    ∃ front, List.Forall₂ (fun letter c => c ∈ spellings letter) word front ∧ cs = front ++ rest := by
  induction word generalizing cs with
  | nil => simp [passWord, eq_comm]
  | cons letter word ih =>
    cases cs with
    | nil => simp [passWord]
    | cons c cs =>
      rw [passWord]
      split
      · rename_i spelled
        rw [ih]
        constructor
        · rintro ⟨front, same, rfl⟩
          exact ⟨c :: front, .cons spelled same, rfl⟩
        · rintro ⟨front, same, split⟩
          cases same with
          | cons here later =>
            obtain ⟨rfl, rfl⟩ := List.cons.inj split
            exact ⟨_, later, rfl⟩
      · rename_i other
        refine iff_of_false nofun ?_
        rintro ⟨front, same, split⟩
        cases same with
        | cons here later =>
          obtain ⟨rfl, rfl⟩ := List.cons.inj split
          exact other here

theorem mem_greedy {kind : Char → Bool} {cs : List Char} {way : List Char × List Char} (member : way ∈ greedy kind cs) :
    cs = way.1 ++ way.2 ∧ ∀ c ∈ way.1, kind c = true := by
  induction cs generalizing way with
  | nil =>
    obtain rfl := List.mem_singleton.mp member
    exact ⟨rfl, nofun⟩
  | cons c cs ih =>
    rw [greedy] at member
    split at member
    · rename_i kept
      rcases List.mem_append.mp member with more | last
      · obtain ⟨shorter, there, rfl⟩ := List.mem_map.mp more
        obtain ⟨split, all⟩ := ih there
        exact ⟨congrArg (c :: ·) split, List.forall_mem_cons.mpr ⟨kept, all⟩⟩
      · obtain rfl := List.mem_singleton.mp last
        exact ⟨rfl, nofun⟩
    · obtain rfl := List.mem_singleton.mp member
      exact ⟨rfl, nofun⟩

/-- The first way takes all; each other one leaves a character of the kind, and what the first leaves after it. -/
theorem greedy_append {kind : Char → Bool} {front : List Char} (rest : List Char) (all : ∀ c ∈ front, kind c = true)
    (stop : ∀ c, rest.head? = some c → kind c = false) :
    ∃ others, greedy kind (front ++ rest) = (front, rest) :: others ∧
      ∀ way ∈ others, ∃ c left, way.2 = c :: (left ++ rest) ∧ kind c = true := by
  induction front with
  | nil =>
    refine ⟨[], ?_, nofun⟩
    cases rest with
    | nil => rfl
    | cons c rest => simp [greedy, stop c rfl]
  | cons c front ih =>
    obtain ⟨here, later⟩ := List.forall_mem_cons.mp all
    obtain ⟨others, tried, left⟩ := ih later
    refine ⟨others.map (fun way => (c :: way.1, way.2)) ++ [([], c :: (front ++ rest))], ?_, ?_⟩
    · rw [List.cons_append, greedy, if_pos here, tried]
      rfl
    · intro way member
      rcases List.mem_append.mp member with more | last
      · obtain ⟨shorter, there, rfl⟩ := List.mem_map.mp more
        exact left shorter there
      · obtain rfl := List.mem_singleton.mp last
        exact ⟨c, front, rfl, here⟩

theorem captures_word {word : String} {front : List Char} (spelled : Spelled word front) (parts : List Part)
    (rest : List Char) : captures (.word word :: parts) (front ++ rest) = captures parts rest := by
  have passed : passWord word.toList (front ++ rest) = some rest := passWord_eq_some_iff.mpr ⟨front, spelled, rfl⟩
  rw [captures, passed]

/-- Where a slash has to follow, a segment is taken as far as it goes. Shorter ways are tried later, but none of them
meets the slash. -/
theorem captures_segment {segment : List Char} (nonempty : segment ≠ []) (apart : '/' ∉ segment) (parts : List Part)
    (rest : List Char) : captures (.segment :: .slash :: parts) (segment ++ '/' :: rest) =
      (captures parts rest).map (segment :: ·) := by
  have all := not_mem_iff_bne.mp apart
  obtain ⟨others, tried, left⟩ := greedy_append ('/' :: rest) all (by simp)
  have none : (others.flatMap fun way => if way.1 = [] then [] else
      (captures (.slash :: parts) way.2).map (way.1 :: ·)) = [] := by
    refine List.flatMap_eq_nil_iff.mpr fun way member => ?_
    obtain ⟨c, behind, is, other⟩ := left way member
    have not : c ≠ '/' := by simpa using other
    simp [is, captures, not]
  rw [captures, tried, List.flatMap_cons, none, List.append_nil, if_neg nonempty]
  rfl

/-- The last segment takes all that it can. What may follow an id is then left. -/
theorem captures_last {segment rest : List Char} (nonempty : segment ≠ []) (apart : '/' ∉ segment)
    (trailing : Trailing rest) : (captures [.segment, .line, .stop] (segment ++ rest)).head? = some [segment] := by
  have ends : captures [.line, .stop] rest = [[]] := by
    have oneLine : ∀ c ∈ rest, (c != '\n') = true := by
      rcases trailing with rfl | ⟨tail, rfl, none⟩
      · nofun
      · exact List.forall_mem_cons.mpr ⟨rfl, not_mem_iff_bne.mp none⟩
    obtain ⟨others, tried, left⟩ := greedy_append [] oneLine nofun
    have none : (others.flatMap fun way => captures [.stop] way.2) = [] := by
      refine List.flatMap_eq_nil_iff.mpr fun way member => ?_
      obtain ⟨c, behind, is, -⟩ := left way member
      simp [is, captures]
    rw [List.append_nil] at tried
    rw [captures, tried, List.flatMap_cons, none]
    rfl
  have all := not_mem_iff_bne.mp apart
  have stop : ∀ c, rest.head? = some c → (c != '/') = false := by
    rcases trailing with rfl | ⟨tail, rfl, -⟩
    · nofun
    · intro c is
      cases is
      rfl
  obtain ⟨others, tried, -⟩ := greedy_append rest all stop
  rw [captures, tried, List.flatMap_cons, if_neg nonempty, ends]
  rfl

/-- The pattern captures the segments of an id. Several ways may match, for the name can be cut short in favour of what
follows it; the first one takes all of the name. -/
theorem captures_of_reads {a : ArmId} {text : List Char} (reads : a.Reads text) :
    (captures pattern text).head? = some a.segments := by
  obtain ⟨⟨subscriptions, groups, providers, rest, first, second, third, trailing, rfl⟩, nonempty, apart⟩ := reads
  simp only [ArmId.segments, List.forall_mem_cons] at nonempty apart
  obtain ⟨s, g, p, t, n, -⟩ := nonempty
  obtain ⟨s', g', p', t', n', -⟩ := apart
  simp only [List.flatMap_cons, List.flatMap_nil, List.append_nil, List.cons_append, List.append_assoc]
  have slash (parts : List Part) (cs : List Char) : captures (.slash :: parts) ('/' :: cs) = captures parts cs := rfl
  rw [pattern, slash, captures_word first, slash, captures_segment s s', captures_word second, slash,
    captures_segment g g', captures_word third, slash, captures_segment p p', captures_segment t t']
  simp only [List.head?_map, captures_last n n' trailing, Option.map_some, ArmId.segments]

section Inversion

variable {parts : List Part} {cs : List Char} {found : List (List Char)}

theorem exists_of_slash (member : found ∈ captures (.slash :: parts) cs) :
    ∃ rest, cs = '/' :: rest ∧ found ∈ captures parts rest := by
  cases cs with
  | nil => cases member
  | cons c rest =>
    by_cases slash : c = '/'
    · subst slash
      exact ⟨rest, rfl, member⟩
    · simp [captures, slash] at member

theorem exists_of_word {word : String} (member : found ∈ captures (.slash :: .word word :: parts) cs) :
    ∃ front rest, Spelled word front ∧ cs = '/' :: (front ++ rest) ∧ found ∈ captures parts rest := by
  obtain ⟨behind, rfl, inBehind⟩ := exists_of_slash member
  unfold captures at inBehind
  split at inBehind
  · rename_i rest passed
    obtain ⟨front, spelled, rfl⟩ := passWord_eq_some_iff.mp passed
    exact ⟨front, rest, spelled, rfl, inBehind⟩
  · cases inBehind

theorem exists_of_segment (member : found ∈ captures (.slash :: .segment :: parts) cs) :
    ∃ front rest later, front ≠ [] ∧ '/' ∉ front ∧ cs = '/' :: (front ++ rest) ∧ later ∈ captures parts rest := by
  obtain ⟨behind, rfl, inBehind⟩ := exists_of_slash member
  rw [captures] at inBehind
  obtain ⟨way, tried, inWay⟩ := List.mem_flatMap.mp inBehind
  obtain ⟨split, all⟩ := mem_greedy tried
  split at inWay
  · cases inWay
  · rename_i nonempty
    obtain ⟨later, inLater, -⟩ := List.mem_map.mp inWay
    exact ⟨way.1, way.2, later, nonempty, not_mem_iff_bne.mpr all, congrArg _ split, inLater⟩

theorem exists_of_line (member : found ∈ captures [.line, .stop] cs) : '\n' ∉ cs := by
  rw [captures] at member
  obtain ⟨way, tried, inWay⟩ := List.mem_flatMap.mp member
  obtain ⟨split, all⟩ := mem_greedy tried
  rw [captures] at inWay
  split at inWay
  · rename_i nothing
    rw [split, nothing, List.append_nil]
    exact not_mem_iff_bne.mpr all
  · cases inWay

end Inversion

/-- Whatever the pattern matches is an id. The name may go on where the pattern took a part of it for what follows, so
the segments need not be those that this way captured. -/
theorem exists_reads_of_captures {text : List Char} {found : List (List Char)}
    (member : found ∈ captures pattern text) : ∃ a : ArmId, a.Reads text := by
  obtain ⟨subscriptions, _, first, rfl, behindFirst⟩ := exists_of_word member
  obtain ⟨s, _, _, s₁, s₂, rfl, behindS⟩ := exists_of_segment behindFirst
  obtain ⟨groups, _, second, rfl, behindSecond⟩ := exists_of_word behindS
  obtain ⟨g, _, _, g₁, g₂, rfl, behindG⟩ := exists_of_segment behindSecond
  obtain ⟨providers, _, third, rfl, behindThird⟩ := exists_of_word behindG
  obtain ⟨p, _, _, p₁, p₂, rfl, behindP⟩ := exists_of_segment behindThird
  obtain ⟨t, _, _, t₁, t₂, rfl, behindT⟩ := exists_of_segment behindP
  obtain ⟨n, line, _, n₁, n₂, rfl, behindN⟩ := exists_of_segment behindT
  have oneLine := exists_of_line behindN
  have whole : line = line.takeWhile (· != '/') ++ line.dropWhile (· != '/') := List.takeWhile_append_dropWhile.symm
  refine ⟨⟨s, g, p, t, n ++ line.takeWhile (· != '/')⟩, ⟨subscriptions, groups, providers, line.dropWhile (· != '/'),
    first, second, third, ?_, ?_⟩, ?_, ?_⟩
  · cases behind : line.dropWhile (· != '/') with
    | nil => exact .inl rfl
    | cons c rest =>
      have slash : c = '/' := by
        have stopped := List.head?_dropWhile_not (· != '/') line
        simpa [behind] using stopped
      refine .inr ⟨rest, congrArg (· :: rest) slash, fun feed => oneLine ?_⟩
      rw [whole, behind]
      exact List.mem_append_right _ (List.mem_cons_of_mem _ feed)
  · simp only [List.flatMap_cons, List.flatMap_nil, List.append_nil, List.cons_append, List.append_assoc]
    rw [← whole]
  · simp only [ArmId.segments, List.forall_mem_cons]
    exact ⟨s₁, g₁, p₁, t₁, List.append_ne_nil_of_left_ne_nil n₁ _, nofun⟩
  · simp only [ArmId.segments, List.forall_mem_cons]
    refine ⟨s₂, g₂, p₂, t₂, ?_, nofun⟩
    rw [List.mem_append]
    rintro (inName | inLine)
    · exact n₂ inName
    · simpa using List.mem_takeWhile_imp inLine

/-- The name that is parsed is the last capture of the first match. For a text that is no id there is neither. -/
theorem nameOf?_eq_capture (id : String) :
    nameOf? id = ((captures pattern id.toList).head?.bind List.getLast?).map String.ofList := by
  by_cases readable : ∃ a : ArmId, a.Reads id.toList
  · obtain ⟨a, reads⟩ := readable
    rw [captures_of_reads reads, nameOf?_eq_some_iff.mpr ⟨a, reads, rfl⟩]
    rfl
  · have unmatched : captures pattern id.toList = [] := List.eq_nil_iff_forall_not_mem.mpr fun found member =>
      readable (exists_reads_of_captures member)
    have unnamed : nameOf? id = none := Option.eq_none_iff_forall_ne_some.mpr fun name found => by
      obtain ⟨a, reads, -⟩ := nameOf?_eq_some_iff.mp found
      exact readable ⟨a, reads⟩
    rw [unmatched, unnamed]
    rfl

end Pattern

/-- An identity is parsed exactly from the texts that are made of the segments of an id, and these are so in one way.
Its name is the last of them, which is the last that the pattern of an id captures, and nothing else of it is changed;
any other text is refused as a whole. The region is not looked at. -/
theorem parse_reads (armId armRegion : String) :
    (∀ identity, parse armId armRegion = .ok identity ↔
      ∃ a : ArmId, a.Reads armId.toList ∧ identity = ⟨armId, armRegion, String.ofList a.name⟩) ∧
    (∀ e, parse armId armRegion = .error e ↔ (∀ a : ArmId, ¬ a.Reads armId.toList) ∧ e = .invalidArmId armId) ∧
    (∀ a b : ArmId, a.Reads armId.toList → b.Reads armId.toList → a = b) ∧
    nameOf? armId = ((captures pattern armId.toList).head?.bind List.getLast?).map String.ofList := by
  refine ⟨fun identity => ?_, fun e => ?_, fun a b => ArmId.Reads.unique, nameOf?_eq_capture armId⟩
  · unfold parse
    cases found : nameOf? armId with
    | none =>
      refine iff_of_false nofun ?_
      rintro ⟨a, reads, -⟩
      rw [nameOf?_eq_some_iff.mpr ⟨a, reads, rfl⟩] at found
      cases found
    | some name =>
      obtain ⟨a, reads, rfl⟩ := nameOf?_eq_some_iff.mp found
      constructor
      · intro is
        cases is
        exact ⟨a, reads, rfl⟩
      · rintro ⟨b, reads', rfl⟩
        rw [reads.unique reads']
  · unfold parse
    cases found : nameOf? armId with
    | none =>
      have unreadable (a : ArmId) : ¬ a.Reads armId.toList := fun reads => by
        rw [nameOf?_eq_some_iff.mpr ⟨a, reads, rfl⟩] at found
        cases found
      simp only [Except.error.injEq, unreadable, not_false_eq_true, implies_true, true_and, eq_comm]
    | some name =>
      obtain ⟨a, reads, -⟩ := nameOf?_eq_some_iff.mp found
      exact iff_of_false nofun fun refused => refused.1 a reads

/-- Keywords in capitals, one of them with a long s, a segment of two lines, and text behind the name. -/
def foldedId : String := "/SUBſCRIPTIONS/s/RESOURCEGROUPS/r\ng/providers/p/t/web/more"

theorem folded_id_parsed : parse foldedId "westus" = .ok ⟨foldedId, "westus", "web"⟩ ∧
    ∀ a : ArmId, a.Reads foldedId.toList → a = ⟨['s'], ['r', '\n', 'g'], ['p'], ['t'], ['w', 'e', 'b']⟩ := by
  have reads : ArmId.Reads ⟨['s'], ['r', '\n', 'g'], ['p'], ['t'], ['w', 'e', 'b']⟩ foldedId.toList := by
    refine ⟨⟨"SUBſCRIPTIONS".toList, "RESOURCEGROUPS".toList, "providers".toList, "/more".toList, ?_, ?_, ?_, ?_, ?_⟩,
      by decide, by decide⟩
    · exact (sameWord_iff (by simp [keywords]) _).mp (by cbv)
    · exact (sameWord_iff (by simp [keywords]) _).mp (by cbv)
    · exact (sameWord_iff (by simp [keywords]) _).mp (by cbv)
    · exact .inr ⟨"more".toList, by simp, by simp⟩
    · simp [foldedId]
  obtain ⟨parsed, -, unique, -⟩ := parse_reads foldedId "westus"
  exact ⟨(parsed _).mpr ⟨_, reads, rfl⟩, fun a readsToo => unique a _ readsToo reads⟩

end ClusterIdentity

end Graft
