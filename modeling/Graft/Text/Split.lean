namespace Graft.Text

/-- The parts between the separators, one more than there are separators. -/
def split (sep : Char) : List Char → List (List Char)
  | [] => [[]]
  | c :: rest =>
    if c = sep then [] :: split sep rest
    else match split sep rest with
      | [] => [[c]]
      | part :: parts => (c :: part) :: parts

theorem split_ne_nil (sep : Char) (cs : List Char) : split sep cs ≠ [] := by
  cases cs with
  | nil => simp [split]
  | cons c rest =>
    unfold split
    split
    · simp
    · split <;> simp

/-- The separator stands in no part. -/
theorem not_mem_of_mem_split {sep : Char} {cs part : List Char} (h : part ∈ split sep cs) : sep ∉ part := by
  induction cs generalizing part with
  | nil => simp_all [split]
  | cons c rest ih =>
    unfold split at h
    split at h
    · rcases List.mem_cons.mp h with rfl | tail
      · simp
      · exact ih tail
    · rename_i hc
      split at h
      · rename_i empty
        exact absurd empty (split_ne_nil sep rest)
      · rename_i first others eq
        rcases List.mem_cons.mp h with rfl | tail
        · have := ih (eq ▸ List.mem_cons_self : first ∈ split sep rest)
          simpa [Ne.symm hc] using this
        · exact ih (eq ▸ List.mem_cons_of_mem _ tail)

/-- The parts with separators between them are the text. -/
theorem intercalate_split (sep : Char) (cs : List Char) : List.intercalate [sep] (split sep cs) = cs := by
  induction cs with
  | nil => rfl
  | cons c rest ih =>
    unfold split
    split
    · rename_i hc
      cases eq : split sep rest with
      | nil => exact absurd eq (split_ne_nil sep rest)
      | cons first others =>
        rw [eq] at ih
        simp_all [List.intercalate, List.intersperse]
    · split
      · rename_i empty
        exact absurd empty (split_ne_nil sep rest)
      · rename_i first others eq
        rw [eq] at ih
        cases others <;> simp_all [List.intercalate, List.intersperse]

theorem split_of_not_mem {sep : Char} {cs : List Char} (h : sep ∉ cs) : split sep cs = [cs] := by
  induction cs with
  | nil => rfl
  | cons c rest ih =>
    obtain ⟨hc, hrest⟩ := not_or.mp (mt List.mem_cons.mpr h)
    rw [split, if_neg (Ne.symm hc), ih hrest]

theorem split_append {sep : Char} {part : List Char} (h : sep ∉ part) (rest : List Char) :
    split sep (part ++ sep :: rest) = part :: split sep rest := by
  induction part with
  | nil => simp [split]
  | cons c part ih =>
    obtain ⟨hc, hpart⟩ := not_or.mp (mt List.mem_cons.mpr h)
    rw [List.cons_append, split, if_neg (Ne.symm hc), ih hpart]

/-- Parts without a separator are found again in the text that they make. -/
theorem split_intercalate {sep : Char} {parts : List (List Char)} (some_ : parts ≠ [])
    (h : ∀ part ∈ parts, sep ∉ part) : split sep (List.intercalate [sep] parts) = parts := by
  induction parts with
  | nil => exact absurd rfl some_
  | cons part parts ih =>
    obtain ⟨hpart, hparts⟩ := List.forall_mem_cons.mp h
    cases parts with
    | nil => simpa [List.intercalate] using split_of_not_mem hpart
    | cons next parts =>
      have := ih (by simp) hparts
      simp only [List.intercalate, List.intersperse, List.flatten_cons, List.singleton_append] at this ⊢
      rw [split_append hpart, this]

end Graft.Text
