namespace Dialogue

/-- The code of the infinite magnitude, one more than that of the largest finite one. -/
def infinityCode : Nat := 2047 * Nat.pow 2 52

theorem infinityCode_pos : 0 < infinityCode := by decide

/-- A finite binary number of 64 bits. -/
structure Double where
  negative : Bool
  code : Nat
  finite : code < infinityCode
deriving DecidableEq

/-- What a 64-bit computation can give: a finite number, an infinity, or no number. -/
inductive Extended where
  | finite (value : Double)
  | infinite (negative : Bool)
  | nan
deriving DecidableEq

namespace Double

def zero (negative : Bool) : Double := ⟨negative, 0, infinityCode_pos⟩

instance : Inhabited Double := ⟨zero false⟩

def units (code : Nat) : Nat :=
  if code < Nat.pow 2 53 then code
  else (Nat.pow 2 52 + code % Nat.pow 2 52) <<< (code / Nat.pow 2 52 - 1)

def one : Nat := Nat.pow 2 1074

/-- The integer nearest to `num / den`; of two equally near ones the even one. -/
def nearest (num den : Nat) : Nat :=
  let q := num / den
  let r := num % den
  if 2 * r < den ∨ (2 * r = den ∧ q % 2 = 0) then q else q + 1

/-- The code nearest to `num / den` units; of two equally near ones the even one. -/
def roundCode (num den : Nat) : Nat :=
  let k := (num / den).log2 - 52
  k * Nat.pow 2 52 + nearest num (den * Nat.pow 2 k)

/-- The number of a sign and a code; codes beyond the finite ones overflow to an infinity. -/
def ofCode (negative : Bool) (code : Nat) : Extended :=
  if h : code < infinityCode then .finite ⟨negative, code, h⟩ else .infinite negative

/-- The number nearest to `num / den`, with the given sign. -/
def ofRatio (negative : Bool) (num den : Nat) : Extended :=
  ofCode negative (roundCode (num * one) den)

def ofInt (n : Int) : Extended := ofRatio (n < 0) n.natAbs 1

/-- The number nearest to `digits * 10 ^ exponent`. The two bounds keep the powers small: above
the first the value is beyond every finite number, below the second it rounds to zero. -/
def ofDecimal (negative : Bool) (digits : Nat) (exponent : Int) : Extended :=
  if digits = 0 then ofCode negative 0
  else if 400 < exponent then .infinite negative
  else if exponent < -(400 + digits.log2 : Int) then ofCode negative 0
  else if 0 ≤ exponent then ofRatio negative (digits * Nat.pow 10 exponent.toNat) 1
  else ofRatio negative digits (Nat.pow 10 (-exponent).toNat)

def isIntegral (d : Double) : Bool := units d.code % one == 0

def truncate (d : Double) : Int :=
  let n : Nat := units d.code / one
  if d.negative then -n else n

end Double

namespace Extended

/-- The rank of a number in the order of the reals; both zeros have rank 0. -/
def rank : Extended → Option Int
  | .finite d => some (if d.negative then -(d.code : Int) else d.code)
  | .infinite negative => some (if negative then -(infinityCode : Int) else infinityCode)
  | .nan => none

/-- Compares by rank; nothing holds of what is not a number. -/
def compareBy (test : Int → Int → Bool) (a b : Extended) : Bool :=
  match a.rank, b.rank with
  | some x, some y => test x y
  | _, _ => false

def eq : Extended → Extended → Bool := compareBy (· == ·)
def lt : Extended → Extended → Bool := compareBy (· < ·)
def le : Extended → Extended → Bool := compareBy (· ≤ ·)

def toDouble? : Extended → Option Double
  | .finite d => some d
  | _ => none

end Extended

namespace Double

def mul (a b : Double) : Extended :=
  ofCode (a.negative != b.negative) (roundCode (units a.code * units b.code) one)

/-- The quotient by a number other than zero, rounded to the nearest number. -/
def div (a b : Double) : Extended :=
  ofCode (a.negative != b.negative) (roundCode (units a.code * one) (units b.code))

end Double

end Dialogue
