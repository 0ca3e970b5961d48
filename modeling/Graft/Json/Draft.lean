import Graft.Json.Token

namespace Graft.Json

/-- A text read as JSON up to the point where it stops being JSON, members in the order of the text and repeated names
included. `unreadable` is sound text that denotes no value: a number out of range, a lone surrogate, a container nested
too deep. `broken` is where the text stops being JSON; the containers around it are not closed. -/
inductive Draft where
  | null
  | bool (value : Bool)
  | num (value : Number)
  | str (value : String)
  | arr (items : List Draft) (closed : Bool)
  | obj (members : List (Option String × Draft)) (closed : Bool)
  | unreadable
  | broken
deriving Inhabited

/-- Why a text gives no value: it is not JSON as far as it was read, or the JSON does not fit. -/
inductive Fault where
  | broken
  | misfit
deriving DecidableEq, Repr

namespace Draft

/-- A container that surrounds the place of reading, last entry first. -/
inductive Frame where
  | items (done : List Draft)
  | members (done : List (Option String × Draft)) (key : Option String)

/-- What the reading awaits; the frames are innermost first. -/
inductive State where
  | value (outer : List Frame)
  | firstItem (outer : List Frame)
  | firstKey (outer : List Frame)
  | key (done : List (Option String × Draft)) (outer : List Frame)
  | colon (done : List (Option String × Draft)) (key : Option String) (outer : List Frame)
  | nextItem (done : List Draft) (outer : List Frame)
  | nextMember (done : List (Option String × Draft)) (outer : List Frame)
  | finished (root : Draft)
  | trailing (root : Draft)
  | stopped (root : Draft) (cut : Bool)

/-- Containers may nest this deep. -/
def depthLimit : Nat := 127

/-- Puts a finished value into the container that awaits it. -/
def place (d : Draft) : List Frame → State
  | [] => .finished d
  | .items done :: outer => .nextItem (d :: done) outer
  | .members done key :: outer => .nextMember ((key, d) :: done) outer

/-- Puts a finished container into the one around it. -/
def close (d : Draft) (outer : List Frame) : State :=
  place (if outer.length < depthLimit then d else .unreadable) outer

/-- The root when the text stops inside `d`. -/
def abandon (d : Draft) : List Frame → Draft
  | [] => d
  | .items done :: outer => abandon (.arr (d :: done).reverse false) outer
  | .members done key :: outer => abandon (.obj ((key, d) :: done).reverse false) outer

/-- The root when the text stops in a state. -/
def State.root : State → Draft
  | .value outer => abandon .broken outer
  | .firstItem outer => abandon (.arr [] false) outer
  | .firstKey outer => abandon (.obj [] false) outer
  | .key done outer => abandon (.obj done.reverse false) outer
  | .colon done name outer => abandon (.obj ((name, .broken) :: done).reverse false) outer
  | .nextItem done outer => abandon (.arr done.reverse false) outer
  | .nextMember done outer => abandon (.obj done.reverse false) outer
  | .finished root => root
  | .trailing root => root
  | .stopped root _ => root

/-- A token where a value may start; `none` if none does. -/
def openValue (outer : List Frame) : Token → Option State
  | .null => some (place .null outer)
  | .bool value => some (place (.bool value) outer)
  | .num (some value) => some (place (.num value) outer)
  | .str (some value) => some (place (.str value) outer)
  | .num none => some (place .unreadable outer)
  | .str none => some (place .unreadable outer)
  | .bracketOpen => some (.firstItem outer)
  | .braceOpen => some (.firstKey outer)
  | _ => none

/-- The state after one token. -/
def State.step (s : State) (t : Token) : State :=
  match s, t with
  | .stopped root cut, _ => .stopped root cut
  | .value outer, t => (openValue outer t).getD (.stopped s.root t.isCut)
  | .firstItem outer, .bracketClose => close (.arr [] true) outer
  | .firstItem outer, t =>
    (openValue (.items [] :: outer) t).getD (.stopped (abandon .broken (.items [] :: outer)) t.isCut)
  | .firstKey outer, .braceClose => close (.obj [] true) outer
  | .firstKey outer, .str name => .colon [] name outer
  | .key done outer, .str name => .colon done name outer
  | .colon done name outer, .colon => .value (.members done name :: outer)
  | .nextItem done outer, .bracketClose => close (.arr done.reverse true) outer
  | .nextItem done outer, .comma => .value (.items done :: outer)
  | .nextMember done outer, .braceClose => close (.obj done.reverse true) outer
  | .nextMember done outer, .comma => .key done outer
  | .finished root, _ => .trailing root
  | .trailing root, _ => .trailing root
  | s, t => .stopped s.root t.isCut

/-- Whether more text could still have made a value of what has been read. -/
def State.awaits : State → Bool
  | .finished _ | .trailing _ => false
  | .stopped _ cut => cut
  | _ => true

/-- A whole text: what it holds, whether other text follows that, and whether it only ends too early. -/
structure Reading where
  draft : Draft
  trailing : Bool
  cut : Bool

def ofTokens (tokens : List Token) : Reading :=
  let last := tokens.foldl State.step (.value [])
  { draft := last.root, trailing := (match last with | .trailing _ => true | _ => false), cut := last.awaits }

def ofText (text : String) : Reading := ofTokens (Token.lex text)

mutual

/-- The value of a draft, names in their order and repeated names included. -/
def value? : Draft → Except Fault Json
  | .null => .ok .null
  | .bool value => .ok (.bool value)
  | .num value => .ok (.num value)
  | .str value => .ok (.str value)
  | .arr items closed => do
    let items ← itemValues? items
    if closed then .ok (.arr items) else .error .broken
  | .obj members closed => do
    let members ← memberValues? members
    if closed then .ok (.obj members) else .error .broken
  | .unreadable => .error .broken
  | .broken => .error .broken

def itemValues? : List Draft → Except Fault (List Json)
  | [] => .ok []
  | item :: rest => do
    let item ← value? item
    let rest ← itemValues? rest
    .ok (item :: rest)

def memberValues? : List (Option String × Draft) → Except Fault (List (String × Json))
  | [] => .ok []
  | (none, _) :: _ => .error .broken
  | (some key, value) :: rest => do
    let value ← value? value
    let rest ← memberValues? rest
    .ok ((key, value) :: rest)

end

mutual

/-- Whether the text is sound to the end of the draft, whatever its values denote. -/
def sound : Draft → Bool
  | .arr items closed => soundItems items && closed
  | .obj members closed => soundMembers members && closed
  | .broken => false
  | _ => true

def soundItems : List Draft → Bool
  | [] => true
  | item :: rest => sound item && soundItems rest

def soundMembers : List (Option String × Draft) → Bool
  | [] => true
  | (_, value) :: rest => sound value && soundMembers rest

end

/-- Reads over a draft that is not looked at. -/
def skip (d : Draft) : Except Fault Unit := if d.sound then .ok () else .error .broken

end Draft

mutual

/-- A value as a finished draft. -/
def draft : Json → Draft
  | .null => .null
  | .bool value => .bool value
  | .num value => .num value
  | .str value => .str value
  | .arr items => .arr (draftItems items) true
  | .obj members => .obj (draftMembers members) true

def draftItems : List Json → List Draft
  | [] => []
  | item :: rest => draft item :: draftItems rest

def draftMembers : List (String × Json) → List (Option String × Draft)
  | [] => []
  | (key, value) :: rest => (some key, draft value) :: draftMembers rest

end

mutual

theorem value?_draft (j : Json) : (draft j).value? = .ok j := by
  match j with
  | .null | .bool _ | .num _ | .str _ => rfl
  | .arr items =>
    simp only [draft, Draft.value?, itemValues?_draftItems items]
    rfl
  | .obj members =>
    simp only [draft, Draft.value?, memberValues?_draftMembers members]
    rfl

theorem itemValues?_draftItems (items : List Json) : Draft.itemValues? (draftItems items) = .ok items := by
  match items with
  | [] => rfl
  | item :: rest =>
    simp only [draftItems, Draft.itemValues?, value?_draft item, itemValues?_draftItems rest]
    rfl

theorem memberValues?_draftMembers (members : List (String × Json)) :
    Draft.memberValues? (draftMembers members) = .ok members := by
  match members with
  | [] => rfl
  | (key, value) :: rest =>
    simp only [draftMembers, Draft.memberValues?, value?_draft value, memberValues?_draftMembers rest]
    rfl

end

/-- The canonical value of a text that is JSON from end to end. -/
def ofText? (text : String) : Option Json :=
  let reading := Draft.ofText text
  if reading.trailing then none
  else match reading.draft.value? with
    | .ok value => some value.canonical
    | .error _ => none

end Graft.Json
