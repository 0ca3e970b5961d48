import Graft.Json.Printer
import Graft.Json.Reader

namespace Graft.Json

/-- A value without numbers, in which containers nest no deeper than a bound. The state of an injection is of this form;
numbers are left out here. -/
inductive Plain : Nat → Json → Prop where
  | null {depth : Nat} : Plain depth .null
  | bool {depth : Nat} (value : Bool) : Plain depth (.bool value)
  | str {depth : Nat} (value : String) : Plain depth (.str value)
  | arr {depth : Nat} {items : List Json} (each : ∀ item ∈ items, Plain depth item) :
      Plain (depth + 1) (.arr items)
  | obj {depth : Nat} {members : List (String × Json)} (each : ∀ m ∈ members, Plain depth m.2) :
      Plain (depth + 1) (.obj members)

mutual

/-- The tokens of the compact text. -/
def tokens : Json → List Token
  | .null => [.null]
  | .bool value => [.bool value]
  | .num value => [.num (some value)]
  | .str value => [.str (some value)]
  | .arr items => .bracketOpen :: itemTokens items
  | .obj members => .braceOpen :: memberTokens members

/-- The tokens of the items of an array with the closing bracket. -/
def itemTokens : List Json → List Token
  | [] => [.bracketClose]
  | [item] => tokens item ++ [.bracketClose]
  | item :: rest => tokens item ++ .comma :: itemTokens rest

/-- The tokens of the members of an object with the closing brace. -/
def memberTokens : List (String × Json) → List Token
  | [] => [.braceClose]
  | [(key, value)] => .str (some key) :: .colon :: (tokens value ++ [.braceClose])
  | (key, value) :: rest => .str (some key) :: .colon :: (tokens value ++ .comma :: memberTokens rest)

end

namespace Token

theorem lexFrom_cons (mode : Mode) (c : Char) (rest : List Char) :
    lexFrom mode (c :: rest) = (step mode c).1 ++ lexFrom (step mode c).2 rest := rfl

theorem hexDigit?_hexDigit : ∀ n < 16, hexDigit? (hexDigit n) = some n := by decide

/-- The code of a character below the space is read back from its four digits. -/
theorem lexFrom_control {c : Char} (control : c.toNat < 0x20) (done : List Char) (rest : List Char) :
    lexFrom (.text { done }) ('\\' :: 'u' :: '0' :: '0' :: hexDigit (c.toNat / 16) :: hexDigit (c.toNat % 16) :: rest) =
      lexFrom (.text { done := c :: done }) rest := by
  have high : hexDigit? (hexDigit (c.toNat / 16)) = some (c.toNat / 16) := hexDigit?_hexDigit _ (by omega)
  have low : hexDigit? (hexDigit (c.toNat % 16)) = some (c.toNat % 16) := hexDigit?_hexDigit _ (by omega)
  have unit : 16 * (c.toNat / 16) + c.toNat % 16 = c.toNat := by omega
  have notHigh : ¬ (0xD800 ≤ c.toNat ∧ c.toNat < 0xDC00) := by omega
  have notLow : ¬ (0xDC00 ≤ c.toNat ∧ c.toNat < 0xE000) := by omega
  have zero : hexDigit? '0' = some 0 := by decide
  simp [lexFrom_cons, step, zero, high, low, unit, Partial.pushUnit, notHigh, notLow, Partial.push, Char.ofNat_toNat]

/-- A character with an escape of one letter is read back from it. -/
theorem lexFrom_letter {letter c : Char} (named : simpleEscape? letter = some c) (notUnit : letter ≠ 'u')
    (done : List Char) (rest : List Char) :
    lexFrom (.text { done }) ('\\' :: letter :: rest) = lexFrom (.text { done := c :: done }) rest := by
  simp [lexFrom_cons, step, named, notUnit, Partial.push]

/-- A character of a string is read back from what it is escaped to, whether that is the character itself, a letter or
its code. -/
theorem lexFrom_escape (c : Char) (done : List Char) (rest : List Char) :
    lexFrom (.text { done }) (escape c ++ rest) = lexFrom (.text { done := c :: done }) rest := by
  unfold escape
  iterate 7
    split
    · rename_i is
      subst is
      exact lexFrom_letter rfl (by decide) done rest
  split
  · rename_i control
    exact lexFrom_control control done rest
  · rename_i notQuote notBackslash _ _ _ _ _ notControl
    simp [lexFrom_cons, step, notQuote, notBackslash, notControl, Partial.push]

theorem lexFrom_quoted (cs : List Char) (done : List Char) (rest : List Char) :
    lexFrom (.text { done }) (cs.flatMap escape ++ '"' :: rest) =
      .str (some (String.ofList (done.reverse ++ cs))) :: lexFrom .idle rest := by
  induction cs generalizing done with
  | nil => simp [lexFrom_cons, step, Partial.finish]
  | cons c cs ih =>
    rw [List.flatMap_cons, List.append_assoc, lexFrom_escape, ih]
    simp

/-- A string is read back from its quoted text. -/
theorem lexFrom_quote (text : String) (rest : List Char) :
    lexFrom .idle (quote text ++ rest) = .str (some text) :: lexFrom .idle rest := by
  have start : lexFrom .idle (quote text ++ rest) =
      lexFrom (.text { }) (text.toList.flatMap escape ++ '"' :: rest) := by
    simp [quote, lexFrom_cons, step, stepIdle]
  rw [start, lexFrom_quoted, List.reverse_nil, List.nil_append, String.ofList_toList]

/-- A value whose text is taken apart into its tokens, whatever text follows. -/
def Lexed (value : Json) : Prop :=
  ∀ rest, lexFrom .idle (value.chars ++ rest) = value.tokens ++ lexFrom .idle rest

theorem lexFrom_itemChars {items : List Json} (each : ∀ item ∈ items, Lexed item) (rest : List Char) :
    lexFrom .idle (itemChars items ++ rest) = itemTokens items ++ lexFrom .idle rest := by
  have comma (rest : List Char) : lexFrom .idle (',' :: rest) = .comma :: lexFrom .idle rest := rfl
  have bracket (rest : List Char) : lexFrom .idle (']' :: rest) = .bracketClose :: lexFrom .idle rest := rfl
  induction items with
  | nil => rfl
  | cons item others ih =>
    obtain ⟨first, each⟩ := List.forall_mem_cons.mp each
    cases others with
    | nil => simp [itemChars, itemTokens, bracket, first _]
    | cons second others => simp [itemChars, itemTokens, comma, first _, ih each]

theorem lexFrom_memberChars {members : List (String × Json)} (each : ∀ m ∈ members, Lexed m.2)
    (rest : List Char) :
    lexFrom .idle (memberChars members ++ rest) = memberTokens members ++ lexFrom .idle rest := by
  have colon (rest : List Char) : lexFrom .idle (':' :: rest) = .colon :: lexFrom .idle rest := rfl
  have comma (rest : List Char) : lexFrom .idle (',' :: rest) = .comma :: lexFrom .idle rest := rfl
  have brace (rest : List Char) : lexFrom .idle ('\x7d' :: rest) = .braceClose :: lexFrom .idle rest := rfl
  induction members with
  | nil => rfl
  | cons m others ih =>
    obtain ⟨key, value⟩ := m
    obtain ⟨first, each⟩ := List.forall_mem_cons.mp each
    cases others with
    | nil => simp [memberChars, memberTokens, lexFrom_quote, colon, brace, first _]
    | cons second others =>
      simp [memberChars, memberTokens, lexFrom_quote, colon, comma, first _, ih each]

end Token

namespace Draft

/-- A value whose tokens are read into whatever awaits it, if there is room for its containers. -/
def Read (depth : Nat) (value : Json) : Prop :=
  ∀ outer, outer.length + depth ≤ depthLimit → value.tokens.foldl State.step (.value outer) = place value.draft outer

theorem close_of_room {d : Draft} {outer : List Frame} (room : outer.length < depthLimit) :
    close d outer = place d outer := by
  rw [close, if_pos room]

/-- An array that is not closed at once awaits its first item as any other. -/
theorem step_firstItem {t : Token} (more : t ≠ .bracketClose) (outer : List Frame) :
    State.step (.firstItem outer) t = State.step (.value (.items [] :: outer)) t := by
  cases t <;> first | rfl | exact absurd rfl more

theorem exists_itemTokens (item : Json) (rest : List Json) :
    ∃ first others, itemTokens (item :: rest) = first :: others ∧ first ≠ .bracketClose := by
  cases rest <;> cases item <;> exact ⟨_, _, rfl, nofun⟩

variable {depth : Nat} {outer : List Frame}

theorem foldl_itemTokens {item : Json} {rest : List Json} (each : ∀ value ∈ item :: rest, Read depth value)
    (done : List Draft) (room : outer.length + 1 + depth ≤ depthLimit) :
    (itemTokens (item :: rest)).foldl State.step (.value (.items done :: outer)) =
      close (.arr (done.reverse ++ draftItems (item :: rest)) true) outer := by
  induction rest generalizing item done with
  | nil =>
    have first := each item List.mem_cons_self (.items done :: outer) room
    simp [itemTokens, first, place, State.step, draftItems]
  | cons second rest ih =>
    obtain ⟨first, each⟩ := List.forall_mem_cons.mp each
    have first := first (.items done :: outer) room
    have others := ih each (item.draft :: done)
    simp [itemTokens, first, place, State.step, draftItems, others]

theorem foldl_memberTokens {key : String} {value : Json} {rest : List (String × Json)}
    (each : ∀ m ∈ (key, value) :: rest, Read depth m.2) (done : List (Option String × Draft))
    (room : outer.length + 1 + depth ≤ depthLimit) :
    (memberTokens ((key, value) :: rest)).foldl State.step (.key done outer) =
      close (.obj (done.reverse ++ draftMembers ((key, value) :: rest)) true) outer := by
  induction rest generalizing key value done with
  | nil =>
    have first := each _ List.mem_cons_self (.members done (some key) :: outer) room
    simp [memberTokens, first, place, State.step, draftMembers]
  | cons second rest ih =>
    obtain ⟨first, each⟩ := List.forall_mem_cons.mp each
    have first := first (.members done (some key) :: outer) room
    have others := ih each ((some key, value.draft) :: done)
    simp [memberTokens, first, place, State.step, draftMembers, others]

end Draft

namespace Plain

/-- The text of a value is taken apart into the tokens of the value. By induction over the value: no token runs into the
text after it. -/
theorem lexed {depth : Nat} {value : Json} (plain : Plain depth value) : Token.Lexed value := by
  induction plain with
  | null => exact fun rest => rfl
  | bool value => exact fun rest => by cases value <;> rfl
  | str value => exact Token.lexFrom_quote value
  | arr each ih => exact fun rest => congrArg (Token.bracketOpen :: ·) (Token.lexFrom_itemChars ih rest)
  | obj each ih => exact fun rest => congrArg (Token.braceOpen :: ·) (Token.lexFrom_memberChars ih rest)

/-- The tokens of a value build the value, in whatever container awaits it. -/
theorem read {depth : Nat} {value : Json} (plain : Plain depth value) : Draft.Read depth value := by
  induction plain with
  | null => exact fun outer _ => rfl
  | bool value => exact fun outer _ => rfl
  | str value => exact fun outer _ => rfl
  | @arr depth items each ih =>
    intro outer room
    have inside : outer.length < Draft.depthLimit := by omega
    rw [← Draft.close_of_room inside]
    cases items with
    | nil => rfl
    | cons item rest =>
      -- The first token of an item is taken as if an item were awaited there.
      obtain ⟨first, others, eq, more⟩ := Draft.exists_itemTokens item rest
      have deeper : outer.length + 1 + depth ≤ Draft.depthLimit := by omega
      have items := Draft.foldl_itemTokens ih [] deeper
      rw [eq, List.foldl_cons, ← Draft.step_firstItem more, ← List.foldl_cons, ← eq] at items
      exact items
  | @obj depth members each ih =>
    intro outer room
    have inside : outer.length < Draft.depthLimit := by omega
    rw [← Draft.close_of_room inside]
    cases members with
    | nil => rfl
    | cons m rest =>
      have deeper : outer.length + 1 + depth ≤ Draft.depthLimit := by omega
      have members := Draft.foldl_memberTokens ih [] deeper
      -- The first name of an object is awaited as any other.
      cases rest <;> exact members

/-- The text of a value holds that value and nothing else, names in their order. -/
theorem ofText_text {value : Json} (plain : Plain Draft.depthLimit value) :
    Draft.ofText value.text = { draft := value.draft, trailing := false, cut := false } := by
  have lexed : Token.lex value.text = value.tokens := by
    simpa [Token.lex, Json.text, Token.lexFrom, Token.finish] using plain.lexed []
  have built : value.tokens.foldl Draft.State.step (.value []) = .finished value.draft :=
    plain.read [] (Nat.le_of_eq (Nat.zero_add _))
  rw [Draft.ofText, Draft.ofTokens, lexed, built]
  rfl

end Plain

/-- What a reader makes of the text of a value is what it makes of the value. Nothing is assumed of the reader. -/
theorem Reader.ofText_text {α : Type} (read : Reader α) {value : Json} (plain : Plain Draft.depthLimit value) :
    Reader.ofText read value.text = read value.draft := by
  rw [Reader.ofText, plain.ofText_text]
  cases read value.draft <;> rfl

end Graft.Json
