/-!
# Rounding whole numbers

## Contents
- `pow2`, `pow10` — powers of two and of ten.
- `roundHalfEven` — a quotient to the nearest whole number.
- `nearestDouble` — the whole number that a double can hold nearest to a given one; numbers below
  `2^53` are held exactly (`nearestDouble_of_lt`).
-/

namespace Recap.Decimal

/-! ## Powers -/

/-- Two to a power. -/
def pow2 (n : Nat) : Nat := Nat.pow 2 n

/-- Ten to a power. -/
def pow10 (n : Nat) : Nat := Nat.pow 10 n

/-! ## Nearest numbers -/

/-- The quotient rounded to the nearest whole number, a half going to the even neighbour. -/
def roundHalfEven (num den : Nat) : Nat :=
  let d := num / den
  let twice := 2 * (num % den)
  if twice < den then d
  else if den < twice then d + 1
  else if d % 2 == 0 then d else d + 1

/-- Numbers below this are doubles. -/
def exactLimit : Nat := 0x20000000000000

/-- The double nearest to `n`, as a whole number: fifty-three significant bits, a half going to the
    even neighbour. -/
def nearestDouble (n : Nat) : Nat :=
  if n < exactLimit then n
  else
    let unit := pow2 (n.log2 - 52)
    roundHalfEven n unit * unit

/-- Small numbers are held exactly. -/
theorem nearestDouble_of_lt {n : Nat} (h : n < exactLimit) : nearestDouble n = n := by
  simp [nearestDouble, h]

end Recap.Decimal
