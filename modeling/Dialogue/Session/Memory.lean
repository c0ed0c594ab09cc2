import Dialogue.Context
import Dialogue.Error

namespace Dialogue

abbrev SessionMap := List (String × Context)

namespace SessionMap

def put (m : SessionMap) (key : String) (c : Context) : SessionMap :=
  match m with
  | [] => [(key, c)]
  | (k, d) :: rest => if k = key then (key, c) :: rest else (k, d) :: put rest key c

def load (m : SessionMap) (key : String) : Except Error (Option Context) := .ok (m.lookup key)

def save (m : SessionMap) (key : String) (c : Context) (expected : Option Nat) :
    Except Error SessionMap :=
  let found := (m.lookup key).map (·.version)
  if found = expected then .ok (m.put key c) else .error (.versionConflict key expected found)

/-- Empties the context of a session and counts a write; a session without one stays without. -/
def clear (m : SessionMap) (key : String) : SessionMap :=
  match m.lookup key with
  | some c => m.put key { c.clear with version := c.version + 1 }
  | none => m

end SessionMap

end Dialogue
