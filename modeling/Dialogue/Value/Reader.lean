import Dialogue.Value.Basic
import Dialogue.Value.Numeral
import Dialogue.Value.Text

namespace Dialogue.Value.Reader

def depthLimit : Nat := 128

abbrev Parse (α : Type) := List Char → Option (α × List Char)

def isSpace (c : Char) : Bool := c = ' ' || c = '\n' || c = '\t' || c = '\r'

def skip (cs : List Char) : List Char := cs.dropWhile isSpace

def powerOfTen (n : Nat) : Extended := Double.ofDecimal false 1 n

/-- Scales a binary number by a power of ten in one operation, or for magnitudes below 10 ^ (-308)
in several. None when the result is too large. -/
def scale : Nat → Double → Int → Option Double
  | 0, d, _ => some d
  | fuel + 1, d, exponent =>
    if exponent.natAbs ≤ 308 then
      match powerOfTen exponent.natAbs with
      | .finite p => (if 0 ≤ exponent then d.mul p else d.div p).toDouble?
      | _ => none
    else if d.code = 0 then some d
    else if 0 ≤ exponent then none
    else match powerOfTen 308 with
      | .finite p => match d.div p with
        | .finite q => scale fuel q (exponent + 308)
        | _ => none
      | _ => none

def ofParts (negative : Bool) (significand : Nat) (exponent : Int) : Option Double :=
  match Double.ofInt significand with
  | .finite d => (scale 8 d exponent).map fun d => { d with negative := negative }
  | _ => none

/-- Takes digits into a significand of 64 bits; once it is full, `dropped` counts the others. -/
def significand : Nat → Nat → List Char → Nat × Nat × List Char
  | acc, dropped, [] => (acc, dropped, [])
  | acc, dropped, c :: rest =>
    if c.isDigit then
      let next := 10 * acc + (c.toNat - '0'.toNat)
      if dropped = 0 ∧ next < Nat.pow 2 64 then significand next 0 rest
      else significand acc (dropped + 1) rest
    else (acc, dropped, c :: rest)

/-- Reads an exponent after its letter. An exponent beyond 31 bits is too large if it is positive
and the significand is not zero; otherwise it makes the number zero. -/
def exponent (negative : Bool) (sig : Nat) (start : Int) (cs : List Char) :
    Option (Double × List Char) :=
  let (down, body) := match cs with
    | '-' :: rest => (true, rest)
    | '+' :: rest => (false, rest)
    | _ => (false, cs)
  let ds := body.takeWhile Char.isDigit
  let rest := body.dropWhile Char.isDigit
  if ds.isEmpty then none
  else
    let e := Numeral.run ds
    if Nat.pow 2 31 ≤ e then
      if sig ≠ 0 ∧ !down then none else some (Double.zero negative, rest)
    else
      (ofParts negative sig (if down then start - e else start + e)).map fun d => (d, rest)

def afterWhole (negative : Bool) (sig dropped : Nat) (cs : List Char) :
    Option (Number × List Char) :=
  match cs with
  | '.' :: more =>
    let ds := more.takeWhile Char.isDigit
    let rest := more.dropWhile Char.isDigit
    if ds.isEmpty then none
    else
      let (sig', extra, _) := significand sig 0 ds
      let start : Int := (dropped : Int) - ((ds.length : Int) - extra)
      match rest with
      | c :: tail =>
        if c = 'e' ∨ c = 'E' then
          (exponent negative sig' start tail).map fun r => (.double r.1, r.2)
        else (ofParts negative sig' start).map fun d => (.double d, rest)
      | [] => (ofParts negative sig' start).map fun d => (.double d, rest)
  | c :: tail =>
    if c = 'e' ∨ c = 'E' then
      (exponent negative sig dropped tail).map fun r => (.double r.1, r.2)
    else integerEnd cs
  | [] => integerEnd cs
where
  /-- An integer, or a binary number when it does not fit 64 bits or is a negative zero. -/
  integerEnd (cs : List Char) : Option (Number × List Char) :=
    if dropped = 0 ∧ (!negative ∨ (0 < sig ∧ sig ≤ Nat.pow 2 63)) then
      some (.integer (if negative then -(sig : Int) else sig), cs)
    else (ofParts negative sig dropped).map fun d => (.double d, cs)

def number (cs : List Char) : Option (Number × List Char) :=
  let (negative, body) := match cs with
    | '-' :: rest => (true, rest)
    | _ => (false, cs)
  match body with
  | '0' :: rest =>
    match rest with
    | c :: _ => if c.isDigit then none else afterWhole negative 0 0 rest
    | [] => afterWhole negative 0 0 rest
  | c :: _ =>
    if c.isDigit then
      let (sig, dropped, rest) := significand 0 0 body
      afterWhole negative sig dropped rest
    else none
  | [] => none

def hex? (c : Char) : Option Nat :=
  if c.isDigit then some (c.toNat - '0'.toNat)
  else if 'a' ≤ c ∧ c ≤ 'f' then some (c.toNat - 'a'.toNat + 10)
  else if 'A' ≤ c ∧ c ≤ 'F' then some (c.toNat - 'A'.toNat + 10)
  else none

def hex4? : Parse Nat
  | a :: b :: c :: d :: rest => do
    let n := 4096 * (← hex? a) + 256 * (← hex? b) + 16 * (← hex? c) + (← hex? d)
    some (n, rest)
  | _ => none

/-- Reads the character after a backslash; two halves of a pair make one character. -/
def escaped : Parse Char
  | '"' :: rest => some ('"', rest)
  | '\\' :: rest => some ('\\', rest)
  | '/' :: rest => some ('/', rest)
  | 'b' :: rest => some ('\x08', rest)
  | 'f' :: rest => some ('\x0c', rest)
  | 'n' :: rest => some ('\n', rest)
  | 'r' :: rest => some ('\r', rest)
  | 't' :: rest => some ('\t', rest)
  | 'u' :: rest =>
    match hex4? rest with
    | none => none
    | some (n, rest) =>
      if 0xDC00 ≤ n ∧ n ≤ 0xDFFF then none
      else if 0xD800 ≤ n ∧ n ≤ 0xDBFF then
        match rest with
        | '\\' :: 'u' :: more =>
          match hex4? more with
          | some (low, rest) =>
            if 0xDC00 ≤ low ∧ low ≤ 0xDFFF then
              some (Char.ofNat (0x10000 + (n - 0xD800) * 1024 + (low - 0xDC00)), rest)
            else none
          | none => none
        | _ => none
      else some (Char.ofNat n, rest)
  | _ => none

def quoted : Nat → List Char → Parse String
  | 0, _, _ => none
  | _ + 1, _, [] => none
  | fuel + 1, acc, c :: rest =>
    if c = '"' then some (String.ofList acc.reverse, rest)
    else if c = '\\' then
      match escaped rest with
      | some (e, rest) => quoted fuel (e :: acc) rest
      | none => none
    else if c.toNat < 0x20 then none
    else quoted fuel (c :: acc) rest

def string (cs : List Char) : Option (String × List Char) := quoted (cs.length + 1) [] cs

def items (value : Parse Value) : Nat → List Value → Parse (List Value)
  | 0, _, _ => none
  | fuel + 1, acc, cs =>
    match value (skip cs) with
    | none => none
    | some (v, rest) =>
      match skip rest with
      | ',' :: rest => items value fuel (v :: acc) rest
      | ']' :: rest => some ((v :: acc).reverse, rest)
      | _ => none

/-- Reads the fields after an opening brace, the first one or each after a comma; the last field of
a name wins. -/
def fields (value : Parse Value) : Nat → Record → Parse Record
  | 0, _, _ => none
  | fuel + 1, acc, cs =>
    match skip cs with
    | '"' :: rest =>
      match string rest with
      | none => none
      | some (k, rest) =>
        match skip rest with
        | ':' :: rest =>
          match value (skip rest) with
          | none => none
          | some (v, rest) =>
            let acc := Record.insert k v acc
            match skip rest with
            | ',' :: rest => fields value fuel acc rest
            | '\x7d' :: rest => some (acc, rest)
            | _ => none
        | _ => none
    | _ => none

def word (w : List Char) (cs : List Char) : Option (List Char) :=
  if w.isPrefixOf cs then some (cs.drop w.length) else none

def value : Nat → Parse Value
  | depth, cs =>
    match cs with
    | 'n' :: _ => (word "null".toList cs).map fun r => (.null, r)
    | 't' :: _ => (word "true".toList cs).map fun r => (.bool true, r)
    | 'f' :: _ => (word "false".toList cs).map fun r => (.bool false, r)
    | '"' :: rest => (string rest).map fun r => (.text r.1, r.2)
    | '[' :: rest =>
      match depth with
      | 0 => none
      | depth + 1 =>
        match skip rest with
        | ']' :: rest => some (.list [], rest)
        | rest => (items (value depth) (rest.length + 1) [] rest).map fun r => (.list r.1, r.2)
    | '\x7b' :: rest =>
      match depth with
      | 0 => none
      | depth + 1 =>
        match skip rest with
        | '\x7d' :: rest => some (.object [], rest)
        | rest => (fields (value depth) (rest.length + 1) [] rest).map fun r => (.object r.1, r.2)
    | _ => (number cs).map fun r => (.number r.1, r.2)

end Reader

def ofText? (s : String) : Option Value :=
  match Reader.value (Reader.depthLimit - 1) (Reader.skip s.toList) with
  | some (v, rest) => if (Reader.skip rest).isEmpty then some v else none
  | none => none

end Dialogue.Value
