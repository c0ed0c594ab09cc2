import Dialogue.Text.Split
import Dialogue.Value.Numeral
import Dialogue.Value.Text

namespace Dialogue

namespace Value

def step? (v : Value) (part : String) : Option Value :=
  match v with
  | .object fields => Record.get? fields part
  | .list items => (Numeral.natural64? part.toList).bind fun i => items[i]?
  | _ => none

def follow? (v : Value) : List String → Option Value
  | [] => some v
  | part :: rest => (v.step? part).bind (·.follow? rest)

end Value

namespace Record

def pathParts (path : String) : List String := (path.toList.splitOn '.').map String.ofList

def lookup? (r : Record) (path : String) : Option Value :=
  match pathParts path with
  | [] => none
  | first :: rest => (r.get? first).bind (·.follow? rest)

end Record

end Dialogue
