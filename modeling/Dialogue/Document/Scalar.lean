import Dialogue.Value.Numeral
import Dialogue.Value.Basic

namespace Dialogue

inductive Scalar where
  | null
  | bool (b : Bool)
  | integer (n : Int)
  | double (e : Extended)
  | text (s : String)
deriving DecidableEq

namespace Scalar

def isNullWord (s : String) : Bool := s = "null" || s = "Null" || s = "NULL" || s = "~"

def bool? (s : String) : Option Bool :=
  if s = "true" ∨ s = "True" ∨ s = "TRUE" then some true
  else if s = "false" ∨ s = "False" ∨ s = "FALSE" then some false
  else none

def digitsIn? (base : Nat) (cs : List Char) : Option Nat :=
  let digit? (c : Char) : Option Nat :=
    let d := if c.isDigit then c.toNat - '0'.toNat
      else if 'a' ≤ c ∧ c ≤ 'f' then c.toNat - 'a'.toNat + 10
      else if 'A' ≤ c ∧ c ≤ 'F' then c.toNat - 'A'.toNat + 10
      else base
    if d < base then some d else none
  if cs.isEmpty then none
  else cs.foldl (fun n c => n.bind fun n => (digit? c).map (base * n + ·)) (some 0)

/-- Digits with a zero in front that does not stand alone; they are a text, not a number. -/
def isZeroPadded (cs : List Char) : Bool :=
  let body := match cs with
    | '-' :: rest | '+' :: rest => rest
    | _ => cs
  match body with
  | '0' :: c :: rest => (c :: rest).all Char.isDigit
  | _ => false

def magnitude? : List Char → Option Nat
  | '0' :: 'x' :: rest => digitsIn? 16 rest
  | '0' :: 'o' :: rest => digitsIn? 8 rest
  | '0' :: 'b' :: rest => digitsIn? 2 rest
  | cs => digitsIn? 10 cs

def integer? (cs : List Char) : Option Int :=
  if isZeroPadded cs then none
  else match cs with
    | '-' :: rest => ((magnitude? rest).filter (· ≤ Nat.pow 2 127)).map fun n => -(n : Int)
    | '+' :: rest => ((magnitude? rest).filter (· < Nat.pow 2 128)).map Int.ofNat
    | _ => ((magnitude? cs).filter (· < Nat.pow 2 128)).map Int.ofNat

def double? (s : String) : Option Extended :=
  let cs := s.toList
  if s = ".nan" ∨ s = ".NaN" ∨ s = ".NAN" then some .nan
  else
    let unsigned := match cs with
      | '+' :: rest => rest
      | _ => cs
    let word := String.ofList unsigned
    if word = ".inf" ∨ word = ".Inf" ∨ word = ".INF" then some (.infinite false)
    else if s = "-.inf" ∨ s = "-.Inf" ∨ s = "-.INF" then some (.infinite true)
    else if cs.head? = some '+' ∧ (unsigned.head? = some '+' ∨ unsigned.head? = some '-') then none
    else (Numeral.finite? unsigned).map .finite

def ofPlain (s : String) : Scalar :=
  if s.isEmpty || isNullWord s then .null
  else match bool? s with
    | some b => .bool b
    | none =>
      match integer? s.toList with
      | some n => .integer n
      | none =>
        if isZeroPadded s.toList then .text s
        else match double? s with
          | some e => .double e
          | none => .text s

end Scalar

end Dialogue
