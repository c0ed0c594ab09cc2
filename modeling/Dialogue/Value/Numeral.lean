import Dialogue.Double.Basic

namespace Dialogue.Numeral

def digits? : List Char → Option Nat
  | [] => none
  | cs => if cs.all Char.isDigit then some (cs.foldl (fun n c => 10 * n + (c.toNat - '0'.toNat)) 0)
    else none

def natural? (bound : Nat) (cs : List Char) : Option Nat :=
  let ds := match cs with
    | '+' :: rest => rest
    | _ => cs
  (digits? ds).filter (· ≤ bound)

def natural64? : List Char → Option Nat := natural? (Nat.pow 2 64 - 1)

def integer64? (cs : List Char) : Option Int :=
  match cs with
  | '-' :: rest => ((digits? rest).filter (· ≤ Nat.pow 2 63)).map fun n => -(n : Int)
  | _ => (natural? (Nat.pow 2 63 - 1) cs).map Int.ofNat

def run (cs : List Char) : Nat := (digits? cs).getD 0

def exponent? : List Char → Option Int
  | '-' :: rest => (digits? rest).map fun n => -(n : Int)
  | '+' :: rest => (digits? rest).map Int.ofNat
  | cs => (digits? cs).map Int.ofNat

/-- A decimal without sign: digits with or without a point, at least one digit in all, and an
optional exponent. -/
def unsigned? (negative : Bool) (cs : List Char) : Option Extended :=
  let whole := cs.takeWhile Char.isDigit
  let afterWhole := cs.dropWhile Char.isDigit
  let (fraction, rest) := match afterWhole with
    | '.' :: more => (more.takeWhile Char.isDigit, more.dropWhile Char.isDigit)
    | _ => ([], afterWhole)
  if whole.isEmpty && fraction.isEmpty then none
  else
    let digits := run (whole ++ fraction)
    let places : Int := fraction.length
    match rest with
    | [] => some (Double.ofDecimal negative digits (-places))
    | c :: more =>
      if c = 'e' ∨ c = 'E' then
        (exponent? more).map fun e => Double.ofDecimal negative digits (e - places)
      else none

def word? (negative : Bool) (cs : List Char) : Option Extended :=
  let w := String.ofList (cs.map Char.toLower)
  if w = "inf" ∨ w = "infinity" then some (.infinite negative)
  else if w = "nan" then some .nan
  else none

def decimal? (cs : List Char) : Option Extended :=
  let (negative, body) := match cs with
    | '-' :: rest => (true, rest)
    | '+' :: rest => (false, rest)
    | _ => (false, cs)
  (word? negative body).or (unsigned? negative body)

def finite? (cs : List Char) : Option Double := (decimal? cs).bind Extended.toDouble?

end Dialogue.Numeral
