import Recap.Decimal.Binary
import Recap.Decimal.Rounding

/-!
# The fewest digits that read back

A positive double `m · 2^q` is read back from every decimal that lies closer to it than to its
neighbours. Among the decimals with the fewest digits that do, the nearest is taken.

## Contents
- `digitCount`, `magnitude` — how many digits a number has, and where its first one stands.
- `Grid` — the decimals with a given last place, next to the value.
- `shortest` — the digits and the power of ten.
-/

namespace Recap.Decimal

/-! ## Sizes of numbers -/

/-- Counts the digits of `n` as long as `fuel` lasts. -/
def digitCountAux : Nat → Nat → Nat
  | 0, _ => 0
  | fuel + 1, n => if n = 0 then 0 else digitCountAux fuel (n / 10) + 1

/-- The number of decimal digits of `n`, and none for zero. A number has no more digits than bits. -/
def digitCount (n : Nat) : Nat := digitCountAux (n.log2 + 1) n

/-- The place of the first digit of the positive fraction `num / den`: the `p` with
    `10^p ≤ num / den < 10^(p + 1)`. -/
def magnitude (num den : Nat) : Int :=
  if den ≤ num then (digitCount (num / den) : Int) - 1
  else -(digitCount ((den - 1) / num) : Int)

/-! ## One grid of decimals -/

/-- Which of two equally near decimals is taken. -/
inductive Tie where
  | toEven
  | up
  deriving DecidableEq, Repr

/-- The value `num / den` counted in units of the last place, between the ends `low / den` and
    `high / den` of the numbers that read back as it. The ends themselves read back when `closed`. -/
structure Grid where
  num : Nat
  low : Nat
  high : Nat
  den : Nat
  closed : Bool

/-- The grid whose last place is `10^e`, for the double `m · 2^q`. Below a power of two the
    neighbour is half as far away as above it. -/
def Grid.ofDouble (m : Nat) (q e : Int) : Grid :=
  let scale := pow2 (q - 2).toNat * pow10 (-e).toNat
  let gapBelow := if m = leastNormal ∧ leastPower < q then 1 else 2
  { num := 4 * m * scale
    low := (4 * m - gapBelow) * scale
    high := (4 * m + 2) * scale
    den := pow2 (2 - q).toNat * pow10 e.toNat
    closed := m % 2 == 0 }

/-- Whether a number of units is at or above the lower end. -/
def Grid.aboveLow (g : Grid) (d : Nat) : Bool :=
  if g.closed then g.low ≤ d * g.den else g.low < d * g.den

/-- Whether a number of units is at or below the upper end. -/
def Grid.belowHigh (g : Grid) (d : Nat) : Bool :=
  if g.closed then d * g.den ≤ g.high else d * g.den < g.high

/-- The nearest number of units that reads back, if one of the value's two neighbours does. -/
def Grid.nearest? (tie : Tie) (g : Grid) : Option Nat :=
  let d := g.num / g.den
  match g.aboveLow d, g.belowHigh (d + 1) with
  | false, false => none
  | true, false => some d
  | false, true => some (d + 1)
  | true, true =>
    let below := g.num - d * g.den
    let above := (d + 1) * g.den - g.num
    if below < above then some d
    else if above < below then some (d + 1)
    else match tie with
      | .up => some (d + 1)
      | .toEven => if d % 2 == 0 then some d else some (d + 1)

/-! ## The shortest decimal -/

/-- A decimal `digits · 10^exponent`. -/
structure Shortest where
  digits : Nat
  exponent : Int
  deriving DecidableEq, Repr

/-- Moves zeros at the end of the digits into the exponent. -/
def Shortest.dropZeros : Nat → Shortest → Shortest
  | 0, s => s
  | fuel + 1, s =>
    if s.digits ≠ 0 ∧ s.digits % 10 = 0 then
      dropZeros fuel { digits := s.digits / 10, exponent := s.exponent + 1 }
    else s

/-- The most digits any double needs. -/
def mostDigits : Nat := 17

/-- The decimal with the fewest digits that reads back as the positive double `m · 2^q`, and of
    those the nearest one. -/
def shortest (tie : Tie) (m : Nat) (q : Int) : Shortest :=
  let top := magnitude (m * pow2 q.toNat) (pow2 (-q).toNat)
  let attempt (n : Nat) : Option Shortest :=
    let e := top + 1 - n
    (Grid.ofDouble m q e).nearest? tie |>.map fun d => { digits := d, exponent := e }
  let found := (List.range' 1 mostDigits).findSome? attempt
  (found.getD { digits := m * pow2 q.toNat / pow2 (-q).toNat, exponent := 0 }).dropZeros (mostDigits + 1)

end Recap.Decimal
