namespace Graft.Modular

/-- The difference of two numbers below the modulus. -/
def sub (modulus a b : Nat) : Nat := (a + modulus - b) % modulus

/-- A power by repeated squaring, for exponents of fewer than `bits` bits. -/
def powBits (modulus : Nat) : (bits base exponent : Nat) → Nat
  | 0, _, _ => 1 % modulus
  | bits + 1, base, exponent =>
    let rest := powBits modulus bits (base * base % modulus) (exponent / 2)
    if exponent % 2 = 1 then base * rest % modulus else rest

def pow (modulus base exponent : Nat) : Nat := powBits modulus (Nat.log2 exponent + 1) (base % modulus) exponent

/-- The inverse modulo a prime number. -/
def inverse (prime a : Nat) : Nat := pow prime a (prime - 2)

end Graft.Modular
