import Graft.Double
import Graft.Keyed

namespace Graft

/-- A JSON number: a whole number of at most 64 bits, or a double. The two kinds are never equal. -/
inductive Number where
  | int (value : Int)
  | double (value : Double)
deriving DecidableEq, Repr, Inhabited

inductive Json where
  | null
  | bool (value : Bool)
  | num (value : Number)
  | str (value : String)
  | arr (items : List Json)
  | obj (members : List (String × Json))
deriving Inhabited

/-- The members of an object. -/
abbrev Members := Keyed Json

namespace Json

/-- The member of a name, of an object. -/
def get? (key : String) : Json → Option Json
  | .obj members => Keyed.get? key members
  | _ => none

def str? : Json → Option String
  | .str value => some value
  | _ => none

def bool? : Json → Option Bool
  | .bool value => some value
  | _ => none

def arr? : Json → Option (List Json)
  | .arr items => some items
  | _ => none

def obj? : Json → Option Members
  | .obj members => some members
  | _ => none

/-- The value at the end of a path of member names. -/
def path? : List String → Json → Option Json
  | [], value => some value
  | key :: rest, value => (value.get? key).bind (path? rest)

def ofInt (value : Int) : Json := .num (.int value)

def ofNat (value : Nat) : Json := ofInt value

/-- The list of strings as a JSON array. -/
def strings (values : List String) : Json := .arr (values.map .str)

/-- An object with sorted members. -/
def mkObj (members : List (String × Json)) : Json := .obj (Keyed.ofList members)

mutual

/-- The same value with the members of every object sorted by code point, the last of each name. A value that is
canonical already is the one representation of what it stands for. -/
def canonical : Json → Json
  | .arr items => .arr (canonicalItems items)
  | .obj members => .obj (Keyed.ofList (canonicalMembers members))
  | .null => .null
  | .bool value => .bool value
  | .num value => .num value
  | .str value => .str value

def canonicalItems : List Json → List Json
  | [] => []
  | item :: rest => canonical item :: canonicalItems rest

def canonicalMembers : List (String × Json) → List (String × Json)
  | [] => []
  | (key, value) :: rest => (key, canonical value) :: canonicalMembers rest

end

mutual

/-- Whether two values have the same representation. -/
def beq : Json → Json → Bool
  | .null, .null => true
  | .bool a, .bool b => a == b
  | .num a, .num b => decide (a = b)
  | .str a, .str b => a == b
  | .arr a, .arr b => beqItems a b
  | .obj a, .obj b => beqMembers a b
  | _, _ => false

def beqItems : List Json → List Json → Bool
  | [], [] => true
  | a :: as, b :: bs => beq a b && beqItems as bs
  | _, _ => false

def beqMembers : List (String × Json) → List (String × Json) → Bool
  | [], [] => true
  | (k, a) :: as, (l, b) :: bs => k == l && beq a b && beqMembers as bs
  | _, _ => false

end

mutual

theorem eq_of_beq (a b : Json) (h : beq a b = true) : a = b := by
  match a, b with
  | .null, .null => rfl
  | .bool a, .bool b => simpa [beq] using h
  | .num a, .num b => simpa [beq] using h
  | .str a, .str b => simpa [beq] using h
  | .arr a, .arr b => rw [eq_of_beqItems a b (by simpa [beq] using h)]
  | .obj a, .obj b => rw [eq_of_beqMembers a b (by simpa [beq] using h)]
  | .null, .bool _ | .null, .num _ | .null, .str _ | .null, .arr _ | .null, .obj _
  | .bool _, .null | .bool _, .num _ | .bool _, .str _ | .bool _, .arr _ | .bool _, .obj _
  | .num _, .null | .num _, .bool _ | .num _, .str _ | .num _, .arr _ | .num _, .obj _
  | .str _, .null | .str _, .bool _ | .str _, .num _ | .str _, .arr _ | .str _, .obj _
  | .arr _, .null | .arr _, .bool _ | .arr _, .num _ | .arr _, .str _ | .arr _, .obj _
  | .obj _, .null | .obj _, .bool _ | .obj _, .num _ | .obj _, .str _ | .obj _, .arr _ => simp [beq] at h

theorem eq_of_beqItems (as bs : List Json) (h : beqItems as bs = true) : as = bs := by
  match as, bs with
  | [], [] => rfl
  | [], _ :: _ | _ :: _, [] => simp [beqItems] at h
  | a :: as, b :: bs =>
    simp only [beqItems, Bool.and_eq_true] at h
    rw [eq_of_beq a b h.1, eq_of_beqItems as bs h.2]

theorem eq_of_beqMembers (as bs : List (String × Json)) (h : beqMembers as bs = true) : as = bs := by
  match as, bs with
  | [], [] => rfl
  | [], _ :: _ | _ :: _, [] => simp [beqMembers] at h
  | (k, a) :: as, (l, b) :: bs =>
    simp only [beqMembers, Bool.and_eq_true, beq_iff_eq] at h
    rw [h.1.1, eq_of_beq a b h.1.2, eq_of_beqMembers as bs h.2]

end

mutual

theorem beq_refl (a : Json) : beq a a = true := by
  match a with
  | .null | .bool _ | .num _ | .str _ => simp [beq]
  | .arr items => simpa [beq] using beqItems_refl items
  | .obj members => simpa [beq] using beqMembers_refl members

theorem beqItems_refl (as : List Json) : beqItems as as = true := by
  match as with
  | [] => rfl
  | a :: as => simp [beqItems, beq_refl a, beqItems_refl as]

theorem beqMembers_refl (as : List (String × Json)) : beqMembers as as = true := by
  match as with
  | [] => rfl
  | (k, a) :: as => simp [beqMembers, beq_refl a, beqMembers_refl as]

end

instance : DecidableEq Json := fun a b =>
  if h : beq a b = true then isTrue (eq_of_beq a b h)
  else isFalse fun e => h (e ▸ beq_refl a)

mutual

/-- Equality of values, in which doubles compare as numbers: positive and negative zero agree. -/
def same : Json → Json → Bool
  | .null, .null => true
  | .bool a, .bool b => a == b
  | .num (.int a), .num (.int b) => a == b
  | .num (.double a), .num (.double b) => a.same b
  | .str a, .str b => a == b
  | .arr a, .arr b => sameItems a b
  | .obj a, .obj b => sameMembers a b
  | _, _ => false

def sameItems : List Json → List Json → Bool
  | [], [] => true
  | a :: as, b :: bs => same a b && sameItems as bs
  | _, _ => false

def sameMembers : List (String × Json) → List (String × Json) → Bool
  | [], [] => true
  | (k, a) :: as, (l, b) :: bs => k == l && same a b && sameMembers as bs
  | _, _ => false

end

end Json

end Graft
