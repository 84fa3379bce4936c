import Recap.Decimal.Binary
import Recap.Decimal.Rounding

/-!
# Binary numbers of a precision

A binary number keeps a number of bits, and its power of two lies within bounds. A quotient is taken for
the nearest such number, a half going to the one whose last bit is zero.

## Contents
- `Precision`, `Precision.double`, `Precision.extended` — how many bits are kept.
- `binade` — the power of two in a quotient.
- `Precision.nearest` — the nearest number of a precision.
- `Precision.add`, `Precision.times` — sums and products, rounded once.
- `Written` — a number as it is written, and `Written.nearest`.
-/

namespace Recap.Decimal

/-- How many bits a binary number keeps, and how small and how large it can be. -/
structure Precision where
  bits : Nat
  /-- The power of two of the smallest positive number. -/
  least : Int
  /-- All numbers are below two to this power. -/
  most : Int
  deriving DecidableEq, Repr

namespace Precision

/-- Doubles. -/
def double : Precision := ⟨53, -1074, 1024⟩

/-- Numbers of eighty bits. -/
def extended : Precision := ⟨64, -16445, 16384⟩

end Precision

/-- The power of two in a positive quotient: the greatest `e` with `2^e ≤ num / den`. -/
def binade (num den : Nat) : Int :=
  let e : Int := (num.log2 : Int) - (den.log2 : Int)
  let fits := if 0 ≤ e then den * pow2 e.toNat ≤ num else den ≤ num * pow2 (-e).toNat
  if fits then e else e - 1

/-- The number of a precision that is nearest to a quotient. -/
def Precision.nearest (p : Precision) (negative : Bool) (num den : Nat) : Binary :=
  if num == 0 then .finite negative 0 p.least
  else
    let q := max (binade num den - ((p.bits : Int) - 1)) p.least
    let m := if 0 ≤ q then roundHalfEven num (den * pow2 q.toNat) else roundHalfEven (num * pow2 (-q).toNat) den
    if p.most < (m.log2 : Int) + 1 + q then .infinite negative else .finite negative m q

/-! ## Sums and products -/

/-- A whole number and the power of two that it is multiplied with, as the value of a finite number. -/
def Binary.parts? : Binary → Option (Int × Int)
  | .finite negative m q => some (if negative then -(m : Int) else m, q)
  | _ => none

/-- How `a · 2^p` compares with `b · 2^q`. -/
def compareScaled (a : Int × Int) (b : Int × Int) : Ordering :=
  let least := min a.2 b.2
  Ord.compare (a.1 * pow2 (a.2 - least).toNat) (b.1 * pow2 (b.2 - least).toNat)

/-- The number of a precision that is nearest to `i · 2^q`. -/
def Precision.nearestScaled (p : Precision) (i q : Int) : Binary :=
  if 0 ≤ q then p.nearest (i < 0) (i.natAbs * pow2 q.toNat) 1 else p.nearest (i < 0) i.natAbs (pow2 (-q).toNat)

/-- The sum of `a · 2^p` and `b · 2^q`. -/
def Precision.add (p : Precision) (a : Int × Int) (b : Int × Int) : Binary :=
  let least := min a.2 b.2
  p.nearestScaled (a.1 * pow2 (a.2 - least).toNat + b.1 * pow2 (b.2 - least).toNat) least

/-- The product of a whole number and `b · 2^q`. -/
def Precision.times (p : Precision) (n : Nat) (b : Int × Int) : Binary := p.nearestScaled (n * b.1) b.2

/-! ## Written numbers -/

/-- What is written of a number besides its sign. -/
inductive Size where
  | notANumber
  | infinite
  /-- The number `n · 10^e`. -/
  | decimal (n : Nat) (e : Int)
  /-- The number `n · 2^e`. -/
  | binary (n : Nat) (e : Int)
  deriving DecidableEq, Repr

/-- A number as it is written. -/
structure Written where
  negative : Bool
  size : Size
  deriving DecidableEq, Repr

namespace Written

/-- No power of ten beyond this matters to any precision. -/
def farthest : Int := 6000

/-- The quotient `n · base^e`. -/
def quotientOf (n : Nat) (base : Nat → Nat) (e : Int) : Nat × Nat :=
  if 0 ≤ e then (n * base e.toNat, 1) else (n, base (-e).toNat)

/-- The quotient that is the size of a number, if it is one. What lies beyond every precision is taken for
    something else beyond every precision, in the same direction. -/
def quotient? : Size → Option (Nat × Nat)
  | .notANumber | .infinite => none
  | .decimal n e =>
    let digits : Int := (Nat.repr n).length
    if n == 0 then some (0, 1)
    else if farthest < digits + e then some (pow10 farthest.toNat, 1)
    else if digits + e < -farthest then some (1, pow10 farthest.toNat)
    else some (quotientOf n pow10 e)
  | .binary n e =>
    let digits : Int := n.log2
    if n == 0 then some (0, 1)
    else if 4 * farthest < digits + e then some (pow10 farthest.toNat, 1)
    else if digits + e < -4 * farthest then some (1, pow10 farthest.toNat)
    else some (quotientOf n pow2 e)

/-- The nearest number of a precision, and whether it is out of the range where that is near. -/
def nearest (p : Precision) (x : Written) : Binary × Bool :=
  match x.size, quotient? x.size with
  | .notANumber, _ => (.notANumber, false)
  | _, none => (.infinite x.negative, false)
  | _, some (num, den) =>
    let b := p.nearest x.negative num den
    match b with
    | .finite _ m q =>
      let exact := if 0 ≤ q then m * pow2 q.toNat * den == num else m * den == num * pow2 (-q).toNat
      (b, m < pow2 (p.bits - 1) && !exact)
    | _ => (b, true)

end Written

end Recap.Decimal
