import Dialogue.Error
import Dialogue.Context.Record

namespace Dialogue

/-- A row: the session, its context as text, and the version in a column of its own. -/
structure SessionRow where
  key : String
  text : String
  version : Nat
deriving DecidableEq

abbrev SessionTable := List SessionRow

namespace SessionTable

def row? (t : SessionTable) (key : String) : Option SessionRow := t.find? (·.key = key)

/-- The context of a session. The version of the row counts, not that in the text. -/
def load (t : SessionTable) (key : String) : Except Error (Option Context) :=
  match t.row? key with
  | none => .ok none
  | some row =>
    match Context.ofText? row.text with
    | some c => .ok (some { c with version := row.version })
    | none => .error .malformedValue

def insertNew (t : SessionTable) (row : SessionRow) : Option SessionTable :=
  if (t.row? row.key).isSome then none else some (t ++ [row])

def update (t : SessionTable) (row : SessionRow) (expected : Nat) : Option SessionTable :=
  if t.any fun r => r.key = row.key ∧ r.version = expected then
    some (t.map fun r => if r.key = row.key ∧ r.version = expected then row else r)
  else none

def save (t : SessionTable) (key : String) (c : Context) (expected : Option Nat) :
    Except Error SessionTable :=
  let row : SessionRow := ⟨key, c.toText, c.version⟩
  let written := match expected with
    | none => t.insertNew row
    | some version => t.update row version
  match written with
  | some t => .ok t
  | none => .error (.versionConflict key expected ((t.row? key).map (·.version)))

def clear (t : SessionTable) (key : String) : SessionTable :=
  t.map fun r =>
    if r.key = key then { r with text := Context.toText {}, version := r.version + 1 } else r

end SessionTable

end Dialogue
