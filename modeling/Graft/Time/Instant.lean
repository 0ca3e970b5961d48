import Graft.Time.Timestamp

namespace Graft.Time

/-- A point in time to the nanosecond, as a clock gives it. -/
structure Instant where
  /-- Whole seconds since the start of 1970 in UTC. -/
  seconds : Int
  nanoseconds : Nat := 0
deriving DecidableEq, Repr, Inhabited

/-- The fraction of a second with its point and without zeros at its end; nothing if it is zero. -/
def fractionChars (nanoseconds : Nat) : List Char :=
  if nanoseconds = 0 then []
  else '.' :: ((Timestamp.padded 9 nanoseconds).reverse.dropWhile (· == '0')).reverse

/-- RFC 3339 in UTC, with as many digits of the fraction as it needs. -/
def Instant.text (t : Instant) : String :=
  let date := Date.ofDays (t.seconds / 86400)
  let second := (t.seconds % 86400).toNat
  String.ofList (Timestamp.yearChars date.year ++ '-' :: Timestamp.padded 2 date.month
    ++ '-' :: Timestamp.padded 2 date.day ++ 'T' :: Timestamp.padded 2 (second / 3600)
    ++ ':' :: Timestamp.padded 2 (second / 60 % 60) ++ ':' :: Timestamp.padded 2 (second % 60)
    ++ fractionChars t.nanoseconds ++ ['Z'])

end Graft.Time
