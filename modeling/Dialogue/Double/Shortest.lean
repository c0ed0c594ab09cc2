import Dialogue.Double.Basic

namespace Dialogue.Double

structure Decimal where
  digits : Nat
  exponent : Int
deriving DecidableEq, Repr

namespace Decimal

/-- Moves trailing zeros of the digits into the exponent; `fuel` bounds their number. -/
def strip : Nat → Decimal → Decimal
  | 0, d => d
  | fuel + 1, d =>
    if d.digits ≠ 0 ∧ d.digits % 10 = 0 then strip fuel ⟨d.digits / 10, d.exponent + 1⟩ else d

end Decimal

/-- `num / den` scaled by a power of ten, as a numerator and a denominator. -/
def scaled (num den : Nat) (exponent : Int) : Nat × Nat :=
  if 0 ≤ exponent then (num * Nat.pow 10 exponent.toNat, den)
  else (num, den * Nat.pow 10 (-exponent).toNat)

/-- Whether `q * 10 ^ exponent` rounds to the finite code, compared in halves of a unit. -/
def roundsTo (code q : Nat) (exponent : Int) : Bool :=
  let (n, d) := scaled (2 * q * one) 1 exponent
  let low := (units (code - 1) + units code) * d
  let high := (units code + units (code + 1)) * d
  if code % 2 = 0 then low ≤ n && n ≤ high else low < n && n < high

/-- The least `k` up to `fuel` with `den ≤ num * 10 ^ k`, for a magnitude below one. -/
def leadingZeros (den : Nat) : Nat → Nat → Nat
  | 0, _ => 0
  | fuel + 1, num => if den ≤ num then 0 else leadingZeros den fuel (10 * num) + 1

def leadingExponent (num den : Nat) : Int :=
  if den ≤ num then ((Nat.toDigits 10 (num / den)).length : Int) - 1
  else -(leadingZeros den 400 num : Int)

/-- The better of the two neighbours of a code's magnitude on the grid of step `10 ^ exponent`. -/
def gridPoint (code : Nat) (exponent : Int) : Option Nat :=
  let (n, d) := scaled (units code) one (-exponent)
  let q := n / d
  match roundsTo code q exponent, roundsTo code (q + 1) exponent with
  | true, true => some (nearest n d)
  | true, false => some q
  | false, true => some (q + 1)
  | false, false => none

/-- The first grid with a point, from `exponent` down, among `fuel` grids. -/
def shortestFrom (code : Nat) : Nat → Int → Decimal
  | 0, exponent => ⟨(gridPoint code exponent).getD 0, exponent⟩
  | fuel + 1, exponent =>
    match gridPoint code exponent with
    | some q => ⟨q, exponent⟩
    | none => shortestFrom code fuel (exponent - 1)

def shortest (code : Nat) : Decimal :=
  if code = 0 then ⟨0, 0⟩
  else (shortestFrom code 17 (leadingExponent (units code) one)).strip 20

end Dialogue.Double
