import Graft.Json.Numeral

namespace Graft.Json

/-- A token. A string is `none` when an escape in it stands for no character, a number when it is beyond the
range of doubles: such text is sound, but denotes nothing. -/
inductive Token where
  | braceOpen | braceClose | bracketOpen | bracketClose | comma | colon
  | null
  | bool (value : Bool)
  | num (value : Option Number)
  | str (value : Option String)
  | bad
  | cut
deriving Repr

namespace Token

/-- Whether a text ends inside the token. -/
def isCut : Token → Bool
  | cut => true
  | _ => false

/-- The part of a string read so far, last character first. `high` is the first half of a surrogate pair
that waits for the second; `sound` is false once a half has been left alone. -/
structure Partial where
  done : List Char := []
  high : Option Nat := none
  sound : Bool := true
deriving Repr

namespace Partial

def push (p : Partial) (c : Char) : Partial :=
  { done := c :: p.done, high := none, sound := p.sound && p.high.isNone }

/-- Adds a UTF-16 unit given by an escape. -/
def pushUnit (p : Partial) (unit : Nat) : Partial :=
  let isHigh := 0xD800 ≤ unit ∧ unit < 0xDC00
  let isLow := 0xDC00 ≤ unit ∧ unit < 0xE000
  match p.high with
  | some high =>
    if isLow then { p with done := Char.ofNat (0x10000 + (high - 0xD800) * 0x400 + (unit - 0xDC00)) :: p.done, high := none }
    else { p with high := none, sound := false }
  | none =>
    if isHigh then { p with high := some unit }
    else if isLow then { p with sound := false }
    else p.push (Char.ofNat unit)

def finish (p : Partial) : Option String :=
  if p.sound && p.high.isNone then some (String.ofList p.done.reverse) else none

end Partial

/-- Where the lexer stands between two characters. -/
inductive Mode where
  | idle
  | word (done : List Char)
  | number (stage : Numeral.Stage) (numeral : Numeral)
  | text (part : Partial)
  | escape (part : Partial)
  | hex (part : Partial) (left : Nat) (value : Nat)
  | stuck

def hexDigit? (c : Char) : Option Nat :=
  if '0' ≤ c ∧ c ≤ '9' then some (c.toNat - '0'.toNat)
  else if 'a' ≤ c ∧ c ≤ 'f' then some (c.toNat - 'a'.toNat + 10)
  else if 'A' ≤ c ∧ c ≤ 'F' then some (c.toNat - 'A'.toNat + 10)
  else none

def fail : List Token × Mode := ([.bad], .stuck)

/-- The names of `null`, `true` and `false`, letter by letter. -/
def stepWord (done : List Char) (c : Char) : List Token × Mode :=
  let now := done ++ [c]
  if now = "null".toList then ([.null], .idle)
  else if now = "true".toList then ([.bool true], .idle)
  else if now = "false".toList then ([.bool false], .idle)
  else if now.isPrefixOf "null".toList || now.isPrefixOf "true".toList || now.isPrefixOf "false".toList then
    ([], .word now)
  else fail

/-- A character outside every token. -/
def stepIdle (c : Char) : List Token × Mode :=
  if c = ' ' ∨ c = '\t' ∨ c = '\n' ∨ c = '\r' then ([], .idle)
  else if c = '\x7b' then ([.braceOpen], .idle)
  else if c = '\x7d' then ([.braceClose], .idle)
  else if c = '[' then ([.bracketOpen], .idle)
  else if c = ']' then ([.bracketClose], .idle)
  else if c = ',' then ([.comma], .idle)
  else if c = ':' then ([.colon], .idle)
  else if c = '"' then ([], .text {})
  else match Numeral.start c with
    | some (stage, numeral) => ([], .number stage numeral)
    | none => stepWord [] c

def simpleEscape? (c : Char) : Option Char :=
  if c = '"' then some '"'
  else if c = '\\' then some '\\'
  else if c = '/' then some '/'
  else if c = 'b' then some '\x08'
  else if c = 'f' then some '\x0c'
  else if c = 'n' then some '\n'
  else if c = 'r' then some '\r'
  else if c = 't' then some '\t'
  else none

/-- One character: the tokens that it completes and where the lexer then stands. -/
def step : Mode → Char → List Token × Mode
  | .idle, c => stepIdle c
  | .word done, c => stepWord done c
  | .number stage numeral, c =>
    match Numeral.advance stage numeral c with
    | .more stage numeral => ([], .number stage numeral)
    | .ended => let (tokens, mode) := stepIdle c; (.num numeral.value? :: tokens, mode)
    | .bad => fail
  | .text part, c =>
    if c = '"' then ([.str part.finish], .idle)
    else if c = '\\' then ([], .escape part)
    else if c.toNat < 0x20 then fail
    else ([], .text (part.push c))
  | .escape part, c =>
    if c = 'u' then ([], .hex part 4 0)
    else match simpleEscape? c with
      | some plain => ([], .text (part.push plain))
      | none => fail
  | .hex part left value, c =>
    match hexDigit? c with
    | some d =>
      if left = 1 then ([], .text (part.pushUnit (16 * value + d))) else ([], .hex part (left - 1) (16 * value + d))
    | none => fail
  | .stuck, _ => ([], .stuck)

/-- The token that the end of the text completes. -/
def finish : Mode → List Token
  | .idle => []
  | .number stage numeral => if stage.final then [.num numeral.value?] else [.cut]
  | .stuck => []
  | _ => [.cut]

/-- The tokens of the characters from where the lexer stands. -/
def lexFrom (mode : Mode) : List Char → List Token
  | [] => finish mode
  | c :: rest => let (tokens, mode) := step mode c; tokens ++ lexFrom mode rest

/-- The tokens of a text. A text that stops being JSON inside a token has `bad` for its last token, one that ends inside
a token `cut`. -/
def lex (text : String) : List Token := lexFrom .idle text.toList

end Token

end Graft.Json
