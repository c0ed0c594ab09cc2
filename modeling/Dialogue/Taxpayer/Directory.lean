import Dialogue.Taxpayer.Basic
import Dialogue.Text.Blank
import Dialogue.Text.Lowercase
import Dialogue.Yaml.Reader
import Dialogue.Error
import Dialogue.Files

namespace Dialogue

structure Directory where
  entries : List Taxpayer := []
deriving DecidableEq

namespace Directory

def occursIn (part : List Char) : List Char → Bool
  | [] => part.isEmpty
  | c :: rest => part.isPrefixOf (c :: rest) || occursIn part rest

/-- The taxpayers whose name holds the text, capitals and surrounding blanks apart; a blank text is
in no name. -/
def search (d : Directory) (name : String) : List Taxpayer :=
  let needle := (Text.lowercase (Text.trim name)).toList
  if needle.isEmpty then []
  else d.entries.filter fun t => occursIn needle (Text.lowercase t.name).toList

def verify (d : Directory) (nif : String) : Verdict :=
  match d.entries.find? (·.nif = Text.trim nif) with
  | some t => { verified := true, entry := some t }
  | none => .notFound

def answer (d : Directory) : (q : Inquiry) → q.Answer
  | .search name => .ok (d.search name)
  | .verify nif => .ok (d.verify nif)

def ofDocument? (d : Document) : Option Directory :=
  (Document.listOf? Taxpayer.ofDocument? d).map fun entries => { entries }

def ofText (text : String) : Except Error Directory :=
  match Document.ofText? text with
  | some none => .ok {}
  | some (some d) =>
    match ofDocument? d with
    | some directory => .ok directory
    | none => .error .malformedDocument
  | none => .error .malformedDocument

def ofFile (fs : Files) (path : Option (List String)) : Except Error Directory :=
  match path.bind fs.read? with
  | some text => ofText text
  | none => .error .files

end Directory

end Dialogue
