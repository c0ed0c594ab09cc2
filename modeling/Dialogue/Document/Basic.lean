import Dialogue.Document.Scalar

namespace Dialogue

/-- A document. An unquoted scalar is `plain`; a `tagged` one has a type of its own. -/
inductive Document where
  | null
  | bool (b : Bool)
  | number (n : Number)
  | text (s : String)
  | plain (written : String)
  | list (items : List Document)
  | mapping (entries : List (Document × Document))
  | tagged (d : Document)
deriving Inhabited

namespace Document

mutual
def ofValue : Value → Document
  | .null => .null
  | .bool b => .bool b
  | .number n => .number n
  | .text s => .text s
  | .list items => .list (ofValues items)
  | .object fields => .mapping (ofFields fields)

def ofValues : List Value → List Document
  | [] => []
  | v :: rest => ofValue v :: ofValues rest

def ofFields : List (String × Value) → List (Document × Document)
  | [] => []
  | (k, v) :: rest => (.text k, ofValue v) :: ofFields rest
end

/-- Whether the document stands for a missing field. -/
def isAbsent : Document → Bool
  | .null => true
  | .plain w => w.isEmpty || Scalar.isNullWord w
  | _ => false

def text? : Document → Option String
  | .text s => some s
  | .plain w =>
    match Scalar.ofPlain w with
    | .null | .bool _ => none
    | _ => some w
  | .tagged d => d.text?
  | _ => none

def strictText? : Document → Option String
  | .text s => some s
  | .plain w =>
    match Scalar.ofPlain w with
    | .text s => some s
    | _ => none
  | .tagged d => d.strictText?
  | _ => none

def name? : Document → Option String
  | .text s => some s
  | .plain w => some w
  | .tagged d => d.name?
  | _ => none

def bool? : Document → Option Bool
  | .bool b => some b
  | .plain w => Scalar.bool? w
  | .tagged d => d.bool?
  | _ => none

/-- A natural number up to a bound, written without a minus sign. -/
def natural? (bound : Nat) : Document → Option Nat
  | .number (.integer n) => if 0 ≤ n ∧ n ≤ bound then some n.toNat else none
  | .plain w =>
    match Scalar.ofPlain w with
    | .integer n =>
      if 0 ≤ n ∧ n ≤ bound ∧ w.toList.head? ≠ some '-' then some n.toNat else none
    | _ => none
  | .tagged d => d.natural? bound
  | _ => none

def double? : Document → Option Extended
  | .number n => some n.toExtended
  | .plain w => Scalar.double? w
  | .tagged d => d.double?
  | _ => none

def items? : Document → Option (List Document)
  | .list items => some items
  | .plain w => if w.isEmpty then some [] else none
  | .tagged d => d.items?
  | _ => none

def entries? : Document → Option (List (Document × Document))
  | .mapping entries => some entries
  | .plain w => if w.isEmpty then some [] else none
  | .tagged d => d.entries?
  | _ => none

/-- The value of an unquoted scalar; none for an integer of more than 64 bits. Infinities and what
is no number become null. -/
def scalarValue? (w : String) : Option Value :=
  match Scalar.ofPlain w with
  | .null => some .null
  | .bool b => some (.bool b)
  | .integer n => if Number.IsIntegerRange n then some (.number (.integer n)) else none
  | .double (.finite d) => some (.number (.double d))
  | .double _ => some .null
  | .text s => some (.text s)

mutual
/-- The value of a document; none if a key is no text or a scalar has no value. -/
def toValue? : Document → Option Value
  | .null => some .null
  | .bool b => some (.bool b)
  | .number n => some (.number n)
  | .text s => some (.text s)
  | .plain w => scalarValue? w
  | .list items => (toValues? items).map .list
  | .mapping entries => (toFields? entries).map fun fs => .object (Record.ofList fs)
  | .tagged _ => none

def toValues? : List Document → Option (List Value)
  | [] => some []
  | d :: rest => do
    let v ← toValue? d
    let vs ← toValues? rest
    some (v :: vs)

def toFields? : List (Document × Document) → Option (List (String × Value))
  | [] => some []
  | (k, d) :: rest => do
    let name ← k.text?
    let v ← toValue? d
    let fs ← toFields? rest
    some ((name, v) :: fs)
end

def listOf? {α : Type} (read : Document → Option α) (d : Document) : Option (List α) :=
  d.items?.bind fun items => items.mapM read

/-- Reads every entry of a mapping with text keys, the last one of a key winning. -/
def recordOf? (d : Document) : Option Record :=
  d.entries?.bind fun entries => (toFields? entries).map Record.ofList

end Document

end Dialogue
