/-!
# Doubles as exact numbers

A finite double is a sign, a natural significand `m` and a power of two: its value is `m · 2^q`.
Number texts are computed from this form in exact arithmetic.

## Contents
- `Binary` and `Binary.ofFloat` — the form, and how the 64 bits give it.
-/

namespace Recap.Decimal

/-- What a double stands for. A finite one has the value `± m · 2^q`. -/
inductive Binary where
  | notANumber
  | infinite (negative : Bool)
  | finite (negative : Bool) (m : Nat) (q : Int)
  deriving DecidableEq, Repr

/-- The significand of the least normal double of each binade. -/
def leastNormal : Nat := 0x10000000000000

/-- The power of two of the smallest positive double. -/
def leastPower : Int := -1074

/-- Reads the sign, the eleven bits of the exponent and the fifty-two of the significand. -/
def Binary.ofFloat (x : Float) : Binary :=
  let bits := x.toBits.toNat
  let negative := bits / 0x8000000000000000 == 1
  let exponent := bits / leastNormal % 2048
  let fraction := bits % leastNormal
  if exponent == 2047 then
    if fraction == 0 then .infinite negative else .notANumber
  else if exponent == 0 then .finite negative fraction leastPower
  else .finite negative (leastNormal + fraction) (leastPower + (exponent - 1 : Nat))

end Recap.Decimal
