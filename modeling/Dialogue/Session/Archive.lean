import Dialogue.Session.Table
import Dialogue.Value.Reader
import Dialogue.Value.Text

namespace Dialogue

namespace SessionRow

def toValue (r : SessionRow) : Value :=
  .list [.text r.key, .text r.text, .number (.integer r.version)]

def ofValue? : Value → Option SessionRow
  | .list [.text key, .text text, .number (.integer version)] =>
    if 0 ≤ version then some ⟨key, text, version.toNat⟩ else none
  | _ => none

theorem ofValue?_toValue (r : SessionRow) : ofValue? r.toValue = some r := by
  simp [toValue, ofValue?]

end SessionRow

namespace SessionTable

def toText (t : SessionTable) : String := (Value.list (t.map SessionRow.toValue)).render

def ofText? (s : String) : Option SessionTable :=
  match Value.ofText? s with
  | some (.list rows) => rows.mapM SessionRow.ofValue?
  | _ => none

end SessionTable

end Dialogue
