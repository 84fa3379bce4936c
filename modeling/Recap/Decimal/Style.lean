import Recap.Decimal.Rounding
import Recap.Decimal.Shortest

/-!
# Writing doubles

A `Style` fixes everything about a number text that the digits leave open: where positional
writing ends, whether a whole number keeps `.0`, and the names of the values that are not numbers.

## Contents
- `Style` and `Style.write` — the decisions, and the text they give.
- `fixedPlaces` — a fixed number of places after the point.
-/

namespace Recap.Decimal

/-! ## The decisions of a format -/

/-- How a format writes doubles. -/
structure Style where
  /-- The largest number of digits before the point that is still written positionally. -/
  wholeLimit : Option Nat
  /-- The largest number of zeros after the point that is still written positionally. -/
  zerosLimit : Option Nat
  /-- Whether whole numbers end in `.0`. -/
  keepsPoint : Bool
  /-- Which of two equally near shortest decimals is written. -/
  tie : Tie
  nanText : String
  infinityText : String

/-- `n` zeros. -/
def zeros (n : Nat) : String := String.ofList (List.replicate n '0')

/-- Whether a decimal whose point stands after `point` of its digits is written positionally. -/
def Style.positional (st : Style) (point : Int) : Bool :=
  if 0 < point then st.wholeLimit.all fun limit => point ≤ limit
  else st.zerosLimit.all fun limit => -point ≤ limit

/-- A decimal written with its point in place. -/
def Style.writePositional (st : Style) (digits : String) (point : Int) : String :=
  let n : Int := digits.length
  if n ≤ point then
    digits ++ zeros (point - n).toNat ++ (if st.keepsPoint then ".0" else "")
  else if 0 < point then
    let cs := digits.toList
    String.ofList (cs.take point.toNat) ++ "." ++ String.ofList (cs.drop point.toNat)
  else
    "0." ++ zeros (-point).toNat ++ digits

/-- A decimal written with one digit before the point and a signed power of ten. -/
def writeScientific (digits : String) (point : Int) : String :=
  let cs := digits.toList
  let fraction := cs.drop 1
  let head := String.ofList (cs.take 1) ++
    (if fraction.isEmpty then "" else "." ++ String.ofList fraction)
  let power := point - 1
  head ++ "e" ++ (if 0 ≤ power then "+" else "-") ++ Nat.repr power.natAbs

/-- A non-negative finite double. -/
def Style.writeMagnitude (st : Style) (m : Nat) (q : Int) : String :=
  if m = 0 then (if st.keepsPoint then "0.0" else "0")
  else
    let s := shortest st.tie m q
    let digits := Nat.repr s.digits
    let point := (digits.length : Int) + s.exponent
    if st.positional point then st.writePositional digits point
    else writeScientific digits point

/-- The text of a double. -/
def Style.write (st : Style) (x : Float) : String :=
  match Binary.ofFloat x with
  | .notANumber => st.nanText
  | .infinite negative => (if negative then "-" else "") ++ st.infinityText
  | .finite negative m q => (if negative then "-" else "") ++ st.writeMagnitude m q

/-- Fewest digits, never a power of ten, whole numbers without a point: the text of a number in a
    sentence. -/
def plain : Style :=
  { wholeLimit := none, zerosLimit := none, keepsPoint := false, tie := .up
    nanText := "NaN", infinityText := "inf" }

/-! ## Fixed places -/

/-- `n` units of the last of `places` places after the point. -/
def writeUnits (places n : Nat) : String :=
  let digits := Nat.repr n
  let padded := zeros (places + 1 - digits.length) ++ digits
  let cs := padded.toList
  let cut := cs.length - places
  String.ofList (cs.take cut) ++ "." ++ String.ofList (cs.drop cut)

/-- The exact value of a double, rounded to `places` places after the point. -/
def fixedPlaces (places : Nat) (x : Float) : String :=
  match Binary.ofFloat x with
  | .notANumber => plain.nanText
  | .infinite negative => (if negative then "-" else "") ++ plain.infinityText
  | .finite negative m q =>
    (if negative then "-" else "") ++
      writeUnits places (roundHalfEven (m * pow2 q.toNat * pow10 places) (pow2 (-q).toNat))

end Recap.Decimal
