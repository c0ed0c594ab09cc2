import Dialogue.Session.Memory
import Dialogue.Session.Table

namespace Dialogue

inductive SessionStore where
  | memory (m : SessionMap)
  | table (t : SessionTable)

namespace SessionStore

def load (s : SessionStore) (key : String) : Except Error (Option Context) :=
  match s with
  | .memory m => m.load key
  | .table t => t.load key

def save (s : SessionStore) (key : String) (c : Context) (expected : Option Nat) :
    Except Error SessionStore :=
  match s with
  | .memory m => (m.save key c expected).map .memory
  | .table t => (t.save key c expected).map .table

def clear (s : SessionStore) (key : String) : SessionStore :=
  match s with
  | .memory m => .memory (m.clear key)
  | .table t => .table (t.clear key)

end SessionStore

end Dialogue
