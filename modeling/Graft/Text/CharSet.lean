namespace Graft.Text

/-- A set of characters: the ascending code points where it starts and ends, in turn. -/
structure CharSet where
  bounds : List Nat

/-- A character belongs if an odd number of bounds stand at or before it. -/
def CharSet.contains (s : CharSet) (c : Char) : Bool :=
  (s.bounds.takeWhile (· ≤ c.toNat)).length % 2 == 1

end Graft.Text
