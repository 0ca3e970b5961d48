import Graft.Pem

namespace Graft

namespace Text.Base64

/-- A character of base64 text is one of an alphabet of 64, or the padding. -/
theorem mem_encode {bytes : List UInt8} {c : Char} (member : c ∈ encode bytes) : c = '=' ∨ ∃ n < 64, c = symbol n := by
  have known {n : Nat} (small : n < 64) : symbol n = '=' ∨ ∃ n' < 64, symbol n = symbol n' := .inr ⟨n, small, rfl⟩
  fun_induction encode bytes with
  | case1 => cases member
  | case2 a =>
    have := a.toNat_lt
    simp only [List.mem_cons, List.not_mem_nil, or_false] at member
    rcases member with rfl | rfl | rfl | rfl
    · exact known (by omega)
    · exact known (by omega)
    · exact .inl rfl
    · exact .inl rfl
  | case3 a b =>
    have := a.toNat_lt
    have := b.toNat_lt
    simp only [List.mem_cons, List.not_mem_nil, or_false] at member
    rcases member with rfl | rfl | rfl | rfl
    · exact known (by omega)
    · exact known (by omega)
    · exact known (by omega)
    · exact .inl rfl
  | case4 a b c' rest ih =>
    have := a.toNat_lt
    have := b.toNat_lt
    have := c'.toNat_lt
    simp only [List.mem_cons] at member
    rcases member with rfl | rfl | rfl | rfl | later
    · exact known (by omega)
    · exact known (by omega)
    · exact known (by omega)
    · exact known (by omega)
    · exact ih later

/-- A character that stands in data: neither a blank nor the beginning of a mark. -/
def isDatum (c : Char) : Bool := !isBlank c && c != '-' && c != '\n' && c != '\r'

/-- Text in base64 has no blank and nothing that begins a mark. -/
theorem isDatum_of_mem_encode {bytes : List UInt8} {c : Char} (member : c ∈ encode bytes) : isDatum c = true := by
  have alphabet : ∀ n < 64, isDatum (symbol n) = true := by decide
  rcases mem_encode member with rfl | ⟨n, small, rfl⟩
  · decide
  · exact alphabet n small

end Text.Base64

namespace Pem

open Text.Base64 (encode decode? isDatum isDatum_of_mem_encode)

section Marks

/-- What is left of a mark is passed when it stands next. -/
theorem seekFrom_append (mark pending passed rest : List Char) :
    seekFrom mark pending passed (pending ++ rest) =
      some (((pending.reverse ++ passed).drop mark.length).reverse, rest) := by
  induction pending generalizing passed with
  | nil => rw [List.nil_append, seekFrom, List.reverse_nil, List.nil_append]
  | cons next pending ih =>
    rw [List.cons_append, seekFrom, if_pos rfl, ih, List.reverse_cons, List.append_assoc, List.singleton_append]

/-- A mark is found after text that does not have its first character. Marks are looked for naively, and in text that
has it the search may pass one over. -/
theorem seekFrom_after {first : Char} {mark before : List Char} (apart : first ∉ before) (passed rest : List Char) :
    seekFrom (first :: mark) (first :: mark) passed (before ++ (first :: mark ++ rest)) =
      some (passed.reverse ++ before, rest) := by
  induction before generalizing passed with
  | nil =>
    have length : (first :: mark).length = (first :: mark).reverse.length := List.length_reverse.symm
    rw [List.nil_append, seekFrom_append, length, List.drop_left, List.append_nil]
  | cons c before ih =>
    have other : c ≠ first := (List.ne_of_not_mem_cons apart).symm
    rw [List.cons_append, seekFrom, if_neg other, ih (List.not_mem_of_not_mem_cons apart), List.reverse_cons,
      List.append_assoc, List.singleton_append]

theorem seekFrom_eq_none {first : Char} {mark cs : List Char} (apart : first ∉ cs) (passed : List Char) :
    seekFrom (first :: mark) (first :: mark) passed cs = none := by
  induction cs generalizing passed with
  | nil => rfl
  | cons c cs ih =>
    have other : c ≠ first := (List.ne_of_not_mem_cons apart).symm
    rw [seekFrom, if_neg other, ih (List.not_mem_of_not_mem_cons apart)]

end Marks

section Lines

variable {cs : List Char} (data : ∀ c ∈ cs, isDatum c = true)

/-- Data is cut by line ends alone. -/
theorem mem_wrapped {width room : Nat} {c : Char} (member : c ∈ wrapped width room cs) : c ∈ cs ∨ c = '\n' := by
  fun_induction wrapped width room cs with
  | case1 => cases member
  | case2 c' cs ih =>
    rcases List.mem_cons.mp member with rfl | later
    · exact .inr rfl
    rcases List.mem_cons.mp later with rfl | later
    · exact .inl List.mem_cons_self
    · exact (ih later).imp_left (List.mem_cons_of_mem _)
  | case3 room c' cs ih =>
    rcases List.mem_cons.mp member with rfl | later
    · exact .inl List.mem_cons_self
    · exact (ih later).imp_left (List.mem_cons_of_mem _)

include data

/-- Taking the blanks out undoes the cutting. -/
theorem filter_wrapped (width room : Nat) : (wrapped width room cs).filter (fun c => !Text.isBlank c) = cs := by
  have keep {c : Char} (datum : isDatum c = true) : (!Text.isBlank c) = true := by
    simp only [isDatum, Bool.and_eq_true] at datum
    exact datum.1.1.1
  fun_induction wrapped width room cs with
  | case1 => rfl
  | case2 c cs ih =>
    obtain ⟨first, others⟩ := List.forall_mem_cons.mp data
    rw [List.filter_cons, if_neg (by decide), List.filter_cons, if_pos (keep first), ih others]
  | case3 room c cs ih =>
    obtain ⟨first, others⟩ := List.forall_mem_cons.mp data
    rw [List.filter_cons, if_pos (keep first), ih others]

/-- No line is empty, so nothing is taken for the end of headers. -/
theorem seekFrom_wrapped (width room : Nat) (passed : List Char) :
    seekFrom ['\n', '\n'] ['\n', '\n'] passed (wrapped width room cs ++ ['\n']) = none := by
  have other {c : Char} (datum : isDatum c = true) : ¬ c = '\n' := by
    simp only [isDatum, Bool.and_eq_true, bne_iff_ne] at datum
    exact datum.1.2
  fun_induction wrapped width room cs generalizing passed with
  | case1 => rfl
  | case2 c cs ih =>
    obtain ⟨first, others⟩ := List.forall_mem_cons.mp data
    rw [List.cons_append, seekFrom, if_pos rfl, List.cons_append, seekFrom, if_neg (other first), ih others]
  | case3 room c cs ih =>
    obtain ⟨first, others⟩ := List.forall_mem_cons.mp data
    rw [List.cons_append, seekFrom, if_neg (other first), ih others]

theorem not_mem_wrapped {c : Char} (apart : isDatum c = false) (unlike : c ≠ '\n') (width room : Nat) :
    c ∉ wrapped width room cs ++ ['\n'] := by
  intro member
  rcases List.mem_append.mp member with cut | last
  · rcases mem_wrapped cut with datum | rfl
    · simp [data c datum] at apart
    · exact unlike rfl
  · exact unlike (List.mem_singleton.mp last)

theorem splitHeaders_wrapped (width room : Nat) :
    splitHeaders (wrapped width room cs ++ ['\n']) = ([], wrapped width room cs ++ ['\n']) := by
  have returns : seekFrom ['\r', '\n', '\r', '\n'] ['\r', '\n', '\r', '\n'] [] (wrapped width room cs ++ ['\n']) =
      none := seekFrom_eq_none (not_mem_wrapped data rfl (by decide) width room) []
  change ((seekFrom ['\n', '\n'] ['\n', '\n'] [] _).orElse fun _ =>
    seekFrom ['\r', '\n', '\r', '\n'] ['\r', '\n', '\r', '\n'] [] _).getD _ = _
  rw [seekFrom_wrapped data, returns]
  rfl

end Lines

/-- A label is not empty and has nothing of a mark. -/
def Labelled (p : Pem) : Prop := p.label ≠ "" ∧ '-' ∉ p.label.toList

/-- What stands between the boundary lines, without the blanks at its beginning. -/
structure Body (contents : List UInt8) (body : List Char) : Prop where
  apart : '-' ∉ body
  headless : splitHeaders body = ([], body)
  data : body.filter (fun c => !Text.isBlank c) = encode contents

theorem skipSpace_wrapped (contents : List UInt8) (rest : List Char) :
    ∃ body, Body contents body ∧
      skipSpace ('\n' :: (wrapped 64 64 (encode contents) ++ '\n' :: '-' :: rest)) = body ++ '-' :: rest := by
  have data : ∀ c ∈ encode contents, isDatum c = true := fun c => isDatum_of_mem_encode
  cases encoded : encode contents with
  | nil => exact ⟨[], ⟨List.not_mem_nil, rfl, encoded.symm⟩, rfl⟩
  | cons c cs =>
    rw [encoded] at data
    -- Data does not begin with a blank, so only the line end before it is skipped.
    have first := data c List.mem_cons_self
    have solid : (c == ' ' || c == '\t' || c == '\n' || c == '\r') = false := by
      refine Bool.eq_false_iff.mpr fun blank => ?_
      simp only [Bool.or_eq_true, beq_iff_eq] at blank
      rcases blank with ((rfl | rfl) | rfl) | rfl <;> revert first <;> decide
    have body : Body contents (wrapped 64 64 (c :: cs) ++ ['\n']) := by
      refine ⟨not_mem_wrapped data rfl (by decide) 64 64, splitHeaders_wrapped data 64 64, ?_⟩
      have blank : ['\n'].filter (fun c => !Text.isBlank c) = [] := by decide
      rw [List.filter_append, filter_wrapped data, blank, List.append_nil, encoded]
    refine ⟨_, body, ?_⟩
    rw [skipSpace, List.dropWhile_cons, if_pos (by decide), wrapped, List.cons_append, List.dropWhile_cons, solid]
    simp

/-- What is written as PEM is read back, whatever its contents. Of the label it is assumed that it is not empty and has
nothing of a mark. -/
theorem parse?_text {p : Pem} (labelled : p.Labelled) : parse? p.text = some p := by
  obtain ⟨label, contents⟩ := p
  obtain ⟨present, apart⟩ := labelled
  obtain ⟨body, ⟨dashless, headless, data⟩, begun⟩ := skipSpace_wrapped contents
    ("----END ".toList ++ (label.toList ++ ("-----".toList ++ ['\n'])))
  have laid : (Pem.text ⟨label, contents⟩).toList = "-----BEGIN ".toList ++ (label.toList ++ ("-----".toList ++
      ('\n' :: (wrapped 64 64 (encode contents) ++ '\n' :: '-' :: ("----END ".toList ++
        (label.toList ++ ("-----".toList ++ ['\n']))))))) := by
    simp [Pem.text]
  have opening (rest : List Char) : seek "-----BEGIN " ("-----BEGIN ".toList ++ rest) = some ([], rest) :=
    seekFrom_append _ _ [] rest
  have named (rest : List Char) : seek "-----" (label.toList ++ ("-----".toList ++ rest)) = some (label.toList, rest) :=
    seekFrom_after apart [] rest
  have closing (rest : List Char) : seek "-----END " (body ++ '-' :: ("----END ".toList ++ rest)) = some (body, rest) :=
    seekFrom_after dashless [] rest
  have nonempty : label.toList ≠ [] := fun empty => present (String.toList_eq_nil_iff.mp empty)
  rw [parse?, laid]
  simp only [opening, named, begun, closing, headless, data, Text.Base64.decode?_encode, Option.bind_eq_bind,
    Option.bind_some]
  rw [if_pos ⟨nonempty, trivial, by decide⟩, String.ofList_toList]
  rfl

end Pem

end Graft
