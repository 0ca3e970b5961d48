namespace Graft.Octets

/-- The number that bytes stand for, the most significant byte first. -/
def toNat (bytes : List UInt8) : Nat := bytes.foldl (fun n b => 256 * n + b.toNat) 0

/-- The last bytes of a number, as many as are asked for. -/
def ofNat : (width n : Nat) → List UInt8
  | 0, _ => []
  | width + 1, n => ofNat width (n / 256) ++ [UInt8.ofNat n]

/-- How many bytes a number needs; none for zero. -/
def width (n : Nat) : Nat := if n = 0 then 0 else Nat.log2 n / 8 + 1

/-- The bytes of a number without a leading zero. -/
def digits (n : Nat) : List UInt8 := ofNat (width n) n

end Graft.Octets
