import Dialogue.Text.Blank
import Dialogue.Value.Numeral
import Dialogue.Double.Layout

namespace Dialogue

/-- Seconds since the start of 1970 and nanoseconds; a leap second has 10 ^ 9 nanoseconds more. -/
structure Instant where
  seconds : Int
  nanos : Nat
deriving DecidableEq

namespace Instant

def isLeap (year : Int) : Bool := year % 4 = 0 && (year % 100 ≠ 0 || year % 400 = 0)

def monthLength (year : Int) (month : Nat) : Nat :=
  if month = 2 then if isLeap year then 29 else 28
  else if month = 4 ∨ month = 6 ∨ month = 9 ∨ month = 11 then 30 else 31

/-- The days from the start of 1970 to a date. Years are counted from March, so that the leap day
is the last one. -/
def dayNumber (year : Int) (month day : Nat) : Int :=
  let y := if month ≤ 2 then year - 1 else year
  let era := y.fdiv 400
  let yearOfEra := y - era * 400
  let monthFromMarch : Int := ((month + 9) % 12 : Nat)
  let dayOfYear := (153 * monthFromMarch + 2) / 5 + day - 1
  let dayOfEra := yearOfEra * 365 + yearOfEra / 4 - yearOfEra / 100 + dayOfYear
  era * 146097 + dayOfEra - 719468

def date (dayNumber : Int) : Int × Nat × Nat :=
  let z := dayNumber + 719468
  let era := z.fdiv 146097
  let dayOfEra := z - era * 146097
  let yearOfEra := (dayOfEra - dayOfEra / 1460 + dayOfEra / 36524 - dayOfEra / 146096) / 365
  let dayOfYear := dayOfEra - (365 * yearOfEra + yearOfEra / 4 - yearOfEra / 100)
  let monthFromMarch := (5 * dayOfYear + 2) / 153
  let day := dayOfYear - (153 * monthFromMarch + 2) / 5 + 1
  let month := if monthFromMarch < 10 then monthFromMarch + 3 else monthFromMarch - 9
  let year := yearOfEra + era * 400 + if month ≤ 2 then 1 else 0
  (year, month.toNat, day.toNat)

def lastYear : Int := 262142

/-- Reads up to some digits, at least one, after blanks. -/
def number? (width : Nat) (cs : List Char) : Option (Nat × List Char) :=
  let cs := Text.trimLeft cs
  let ds := (cs.takeWhile Char.isDigit).take width
  if ds.isEmpty then none else some (Numeral.run ds, cs.drop ds.length)

/-- Reads a year: four digits at most, or any number of digits after a sign. -/
def year? (cs : List Char) : Option (Int × List Char) :=
  let body := Text.trimLeft cs
  let signed (rest : List Char) (sign : Int) : Option (Int × List Char) :=
    match rest with
    | c :: _ =>
      if c.isDigit then (number? rest.length rest).map fun r => (sign * r.1, r.2) else none
    | [] => none
  match body with
  | '-' :: rest => signed rest (-1)
  | '+' :: rest => signed rest 1
  | _ => (number? 4 body).map fun r => ((r.1 : Int), r.2)

def after? (c : Char) : List Char → Option (List Char)
  | d :: rest => if d = c then some rest else none
  | [] => none

/-- Reads a fraction of a second if there is one; digits after the ninth are dropped. -/
def fraction? : List Char → Option (Nat × List Char)
  | '.' :: rest =>
    let ds := (rest.takeWhile Char.isDigit).take 9
    if ds.isEmpty then none
    else some (Numeral.run ds * Nat.pow 10 (9 - ds.length), rest.dropWhile Char.isDigit)
  | cs => some (0, cs)

/-- Reads an offset in seconds: a letter or name for none, or hours and minutes after a sign. -/
def offset? (cs : List Char) : Option (Int × List Char) :=
  let signed (rest : List Char) (sign : Int) : Option (Int × List Char) :=
    match rest with
    | a :: b :: rest =>
      match rest.dropWhile fun c => c = ':' || Text.isBlank c with
      | c :: d :: rest =>
        if a.isDigit ∧ b.isDigit ∧ c.isDigit ∧ d.isDigit ∧ c ≤ '5' ∧ Numeral.run [a, b] ≤ 23 then
          some (sign * ((Numeral.run [a, b] * 60 + Numeral.run [c, d]) * 60 : Nat), rest)
        else none
      | _ => none
    | _ => none
  if (cs.take 3).map Char.toLower = ['u', 't', 'c'] then some (0, cs.drop 3)
  else match cs with
    | 'Z' :: rest | 'z' :: rest => some (0, rest)
    | '+' :: rest => signed rest 1
    | '-' :: rest | '\u2212' :: rest => signed rest (-1)
    | _ => none

def ofText? (text : String) : Option Instant := do
  let (year, rest) ← year? text.toList
  let (month, rest) ← number? 2 (← after? '-' (Text.trimLeft rest))
  let (day, rest) ← number? 2 (← after? '-' (Text.trimLeft rest))
  let rest ← match rest with
    | c :: rest => if c = 'T' ∨ c = 't' ∨ c = ' ' then some rest else none
    | [] => none
  let (hour, rest) ← number? 2 rest
  let (minute, rest) ← number? 2 (← after? ':' (Text.trimLeft rest))
  let (second, rest) ← number? 2 (← after? ':' (Text.trimLeft rest))
  let (nanos, rest) ← fraction? rest
  let (offset, rest) ← offset? (Text.trimLeft rest)
  guard (Text.trimLeft rest).isEmpty
  guard (-(lastYear + 1) ≤ year ∧ year ≤ lastYear ∧ 1 ≤ month ∧ month ≤ 12)
  guard (1 ≤ day ∧ day ≤ monthLength year month ∧ hour ≤ 23 ∧ minute ≤ 59 ∧ second ≤ 60)
  let (second, nanos) := if second = 60 then (59, nanos + Nat.pow 10 9) else (second, nanos)
  let time : Int := ((hour * 60 + minute) * 60 + second : Nat)
  let seconds := dayNumber year month day * 86400 + time - offset
  let written := (date (seconds.fdiv 86400)).1
  guard (-(lastYear + 1) ≤ written ∧ written ≤ lastYear)
  some ⟨seconds, nanos⟩

def padded (width n : Nat) : List Char :=
  let ds := Double.digitsOf n
  List.replicate (width - ds.length) '0' ++ ds

/-- A year: four digits, with a sign when it is not one of the first ten thousand. -/
def yearChars (year : Int) : List Char :=
  if 0 ≤ year ∧ year ≤ 9999 then padded 4 year.toNat
  else (if year < 0 then '-' else '+') :: padded 4 year.natAbs

def fractionChars (nanos : Nat) : List Char :=
  if nanos = 0 then []
  else if nanos % 1000000 = 0 then '.' :: padded 3 (nanos / 1000000)
  else if nanos % 1000 = 0 then '.' :: padded 6 (nanos / 1000)
  else '.' :: padded 9 nanos

def toText (t : Instant) : String :=
  let day := t.seconds.fdiv 86400
  let time := (t.seconds - day * 86400).toNat
  let (year, month, dayOfMonth) := date day
  let leap := Nat.pow 10 9 ≤ t.nanos
  let second := time % 60 + if leap then 1 else 0
  let nanos := if leap then t.nanos - Nat.pow 10 9 else t.nanos
  String.ofList (yearChars year ++ '-' :: padded 2 month ++ '-' :: padded 2 dayOfMonth ++ 'T' ::
    padded 2 (time / 3600) ++ ':' :: padded 2 (time / 60 % 60) ++ ':' :: padded 2 second ++
    fractionChars nanos ++ ['Z'])

end Instant

end Dialogue
