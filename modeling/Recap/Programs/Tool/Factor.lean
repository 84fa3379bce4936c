import Recap.Programs.Tool.Options

/-!
# Prime factors

Small factors are found by division. What is left is prime, or is split by looking for a cycle in a
sequence of remainders: two of its members that differ by a multiple of a factor.

## Contents
- `isPrime` — whether a number is prime.
- `splitFactor?` — a factor of a number that is not prime.
- `factors` — the prime factors of a number.
- `factor` — the program that writes them.
-/

namespace Recap.Tool

open Recap.Shell

/-- A power modulo a number. `fuel` is at least the number of bits of the exponent. -/
def powMod (m : Nat) : Nat → Nat → Nat → Nat → Nat
  | 0, _, _, done => done
  | fuel + 1, base, exponent, done =>
    if exponent == 0 then done
    else powMod m fuel (base * base % m) (exponent / 2) (if exponent % 2 == 1 then done * base % m else done)

/-- A number without its factors of two, and their number. `fuel` is at least the number of bits. -/
def withoutTwos : Nat → Nat → Nat × Nat
  | 0, n => (n, 0)
  | fuel + 1, n =>
    if n % 2 == 0 && n != 0 then
      let (odd, twos) := withoutTwos fuel (n / 2)
      (odd, twos + 1)
    else (n, 0)

/-- Whether a base shows that an odd number is not prime. -/
def isWitness (n base : Nat) : Bool :=
  let (odd, twos) := withoutTwos (n.log2 + 1) (n - 1)
  let first := powMod n (n.log2 + 1) (base % n) odd 1
  let squares := (List.range (twos - 1)).foldl
    (fun (xs : List Nat) _ => match xs with
      | x :: _ => x * x % n :: xs
      | [] => []) [first]
  base % n != 0 && first != 1 && !squares.contains (n - 1)

/-- Bases that are enough for all numbers of 64 bits. -/
def primeBases : List Nat := [2, 3, 5, 7, 11, 13, 17, 19, 23, 29, 31, 37]

/-- Whether a number is prime. -/
def isPrime (n : Nat) : Bool :=
  1 < n && (primeBases.contains n || (n % 2 == 1 && !primeBases.any (isWitness n)))

/-- Looks for two members of a sequence, one of which goes ahead twice as fast, that differ by a multiple
    of a factor. -/
def cycleFactor? (n c : Nat) : Nat → Nat → Nat → Option Nat
  | 0, _, _ => none
  | fuel + 1, slow, fast =>
    let step (x : Nat) : Nat := (x * x + c) % n
    let slow := step slow
    let fast := step (step fast)
    match Nat.gcd (if slow < fast then fast - slow else slow - fast) n with
    | 1 => cycleFactor? n c fuel slow fast
    | d => if d == n then none else some d

/-- A factor of a number that is not prime. -/
def splitFactor? (n : Nat) : Option Nat :=
  (List.range 20).findSome? fun c => cycleFactor? n (c + 1) 1000000 2 2

/-- Divides by a number as often as possible; the factors, and what is left. `fuel` is at least the number
    of bits. -/
def divideOut (d : Nat) : Nat → Nat → List Nat × Nat
  | 0, n => ([], n)
  | fuel + 1, n =>
    if n % d == 0 then
      let (more, rest) := divideOut d fuel (n / d)
      (d :: more, rest)
    else ([], n)

/-- The prime factors of a number without small ones. `fuel` is at least the number of bits. -/
def largeFactors : Nat → Nat → List Nat
  | 0, n => [n]
  | fuel + 1, n =>
    if n ≤ 1 then []
    else if isPrime n then [n]
    else
      match splitFactor? n with
      | some d => largeFactors fuel d ++ largeFactors fuel (n / d)
      | none => [n]

/-- The prime factors of a number, the least first. -/
def factors (n : Nat) : List Nat :=
  let (small, rest) := (List.range 1000).foldl
    (fun (done : List Nat × Nat) i =>
      if done.2 < 2 then done
      else
        let (more, rest) := divideOut (i + 2) (done.2.log2 + 1) done.2
        (done.1 ++ more, rest)) ([], n)
  if n < 2 then [] else small ++ (largeFactors (rest.log2 + 1) rest).mergeSort (· ≤ ·)

/-- The line for a number that is written as a text; nothing if it is not a number. -/
def factorLine? (text : String) : Option String :=
  let digits := if text.startsWith "+" then String.ofList (text.toList.drop 1) else text
  (natOf? digits).map fun n => Nat.repr n ++ ":" ++ String.join ((factors n).map fun f => " " ++ Nat.repr f) ++ "\n"

/-- Writes the prime factors of numbers. -/
def factor : Program := withOptions { program := "factor", plain := "h", names := [("exponents", 'h')] } fun o j =>
  let isBlank (c : Char) : Bool := c == ' ' || c == '\t' || c == '\n'
  let words := if o.operands.isEmpty then
      ((Text.decode j.input).splitToList isBlank).filter (· != "")
    else o.operands
  let step (done : String × String) (word : String) : String × String :=
    match factorLine? word with
    | some line => (done.1 ++ line, done.2)
    | none => (done.1, done.2 ++ "factor: " ++ Text.quoted word ++ " is not a valid positive integer\n")
  let (out, err) := words.foldl step ("", "")
  return { out := Text.bytes out, err := Text.bytes err, status := .exited (if err.isEmpty then 0 else 1)
           rest := if o.operands.isEmpty then [] else j.input }

end Recap.Tool
