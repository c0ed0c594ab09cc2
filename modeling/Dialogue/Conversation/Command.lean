import Dialogue.Document.Fields
import Dialogue.Text.Blank
import Dialogue.Text.Lowercase

namespace Dialogue

inductive Command where
  | back | cancel | restart
deriving DecidableEq

structure CommandWords where
  back : List String := ["retour", "back"]
  cancel : List String := ["annuler", "cancel"]
  restart : List String := ["recommencer", "restart"]
deriving DecidableEq

namespace Command

def word : Command → String
  | .back => "back"
  | .cancel => "cancel"
  | .restart => "restart"

end Command

namespace CommandWords

/-- The command an input stands for, capitals and surrounding blanks apart. -/
def recognize? (w : CommandWords) (input : String) : Option Command :=
  let word := Text.lowercase (Text.trim input)
  if word.isEmpty then none
  else if word ∈ w.back then some .back
  else if word ∈ w.cancel then some .cancel
  else if word ∈ w.restart then some .restart
  else none

def ofDocument? (d : Document) : Option CommandWords := do
  let fs ← Fields.of? ["back", "cancel", "restart"] d
  some {
    back := ← fs.required "back" (Document.listOf? Document.text?)
    cancel := ← fs.required "cancel" (Document.listOf? Document.text?)
    restart := ← fs.required "restart" (Document.listOf? Document.text?) }

def toValue (w : CommandWords) : Value :=
  .object [("back", .list (w.back.map .text)), ("cancel", .list (w.cancel.map .text)),
    ("restart", .list (w.restart.map .text))]

end CommandWords

end Dialogue
