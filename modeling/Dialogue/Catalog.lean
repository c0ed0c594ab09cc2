import Dialogue.Yaml.Reader
import Dialogue.Double.Layout
import Dialogue.Error

namespace Dialogue

structure Catalog where
  messages : List (String × String) := []
deriving DecidableEq

namespace Document

def scalar? : Document → Option Scalar
  | .null => some .null
  | .bool b => some (.bool b)
  | .number (.integer n) => some (.integer n)
  | .number (.double d) => some (.double (.finite d))
  | .text s => some (.text s)
  | .plain w => some (Scalar.ofPlain w)
  | .list _ | .mapping _ | .tagged _ => none

def sameScalar : Scalar → Scalar → Bool
  | .double a, .double b => a = b || Extended.eq a b
  | a, b => a = b

mutual
/-- Whether documents mean the same; the order of entries does not matter. -/
def same : Document → Document → Bool
  | .list xs, .list ys => sameItems xs ys
  | .mapping xs, .mapping ys => xs.length = ys.length && sameEntries xs ys
  | .tagged a, .tagged b => same a b
  | a, b =>
    match scalar? a, scalar? b with
    | some s, some t => sameScalar s t
    | _, _ => false

def sameItems : List Document → List Document → Bool
  | [], [] => true
  | x :: xs, y :: ys => same x y && sameItems xs ys
  | _, _ => false

def sameEntries : List (Document × Document) → List (Document × Document) → Bool
  | [], _ => true
  | (k, d) :: rest, ys => (ys.any fun y => same k y.1 && same d y.2) && sameEntries rest ys
end

def distinctKeys : List (Document × Document) → Bool
  | [] => true
  | (k, _) :: rest => (rest.all fun e => !same k e.1) && distinctKeys rest

mutual
/-- Whether a document is a tree of values: no integer has more than 64 bits, and no mapping has a
key twice. -/
def isTree : Document → Bool
  | .plain w =>
    match Scalar.ofPlain w with
    | .integer n => decide (Number.IsIntegerRange n)
    | _ => true
  | .list items => areTrees items
  | .mapping entries => distinctKeys entries && areEntryTrees entries
  | .tagged d => isTree d
  | _ => true

def areTrees : List Document → Bool
  | [] => true
  | d :: rest => isTree d && areTrees rest

def areEntryTrees : List (Document × Document) → Bool
  | [] => true
  | (k, d) :: rest => isTree k && isTree d && areEntryTrees rest
end

end Document

namespace Catalog

/-- Numbers in catalogs are positional from 10 ^ -5 up to 10 ^ 16; an exponent has no plus sign. -/
def layout : Double.Layout := ⟨-5, 16, false⟩

def scalarText? : Scalar → Option String
  | .text s => some s
  | .bool true => some "true"
  | .bool false => some "false"
  | .integer n => some (String.ofList (Double.intChars n))
  | .double (.finite d) => some (String.ofList (layout.chars d))
  | .double (.infinite false) => some ".inf"
  | .double (.infinite true) => some "-.inf"
  | .double .nan => some ".nan"
  | .null => none

def join (above name : String) : String := if above.isEmpty then name else above ++ "." ++ name

mutual
/-- The messages of a document under a key, in their order. Only mappings lead further down; lists
and what has a type of its own hold no messages. -/
def flatten (key : String) : Document → List (String × String)
  | .mapping entries => flattenEntries key entries
  | d =>
    match (Document.scalar? d).bind scalarText? with
    | some s => [(key, s)]
    | none => []

/-- The messages of entries below a key; an entry counts if its own key has a text. -/
def flattenEntries (key : String) : List (Document × Document) → List (String × String)
  | [] => []
  | (k, d) :: rest =>
    (match (Document.scalar? k).bind scalarText? with
      | some name => flatten (join key name) d
      | none => []) ++ flattenEntries key rest
end

def put (messages : List (String × String)) (key text : String) : List (String × String) :=
  messages.filter (·.1 ≠ key) ++ [(key, text)]

def ofList (messages : List (String × String)) : Catalog where
  messages := messages.foldl (fun ms m => put ms m.1 m.2) []

def get? (c : Catalog) (key : String) : Option String := c.messages.lookup key

def size (c : Catalog) : Nat := c.messages.length

def ofDocument? (d : Document) : Option Catalog :=
  if d.isTree then some (ofList (flatten "" d)) else none

def ofText (text : String) : Except Error Catalog :=
  match Document.ofText? text with
  | some none => .ok {}
  | some (some d) =>
    match ofDocument? d with
    | some c => .ok c
    | none => .error .malformedDocument
  | none => .error .malformedDocument

end Catalog

end Dialogue
