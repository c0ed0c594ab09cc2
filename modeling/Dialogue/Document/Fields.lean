import Dialogue.Document.Basic

namespace Dialogue

inductive Fields where
  | named (entries : List (String × Document))
  | placed (names : List String) (items : List Document)

namespace Fields

def entriesByName? : List (Document × Document) → Option (List (String × Document))
  | [] => some []
  | (k, d) :: rest => do
    let name ← k.name?
    let more ← entriesByName? rest
    some ((name, d) :: more)

/-- The fields with the given names in a document; none if it is no record, if one of the fields
is given twice, or if a list has more items than there are fields. -/
def of? (names : List String) (d : Document) : Option Fields :=
  match d.entries?, d.items? with
  | some entries, _ =>
    (entriesByName? entries).bind fun entries =>
      if names.all fun n => (entries.filter (·.1 = n)).length ≤ 1 then some (.named entries)
      else none
  | none, some items => if items.length ≤ names.length then some (.placed names items) else none
  | none, none => none

def find? : Fields → String → Option Document
  | .named entries, name => entries.lookup name
  | .placed names items, name => items[names.idxOf name]?

def required {α : Type} (fs : Fields) (name : String) (read : Document → Option α) : Option α :=
  (fs.find? name).bind read

/-- A field that may be absent and then has a default; if it is there it must be read. -/
def withDefault {α : Type} (fs : Fields) (name : String) (default : α)
    (read : Document → Option α) : Option α :=
  match fs.find? name with
  | some d => read d
  | none => some default

/-- Reads a document that may stand for a missing field. -/
def present {α : Type} (read : Document → Option α) (d : Document) : Option (Option α) :=
  if d.isAbsent then some none else (read d).map some

def optional {α : Type} (fs : Fields) (name : String) (read : Document → Option α) :
    Option (Option α) :=
  match fs.find? name, fs with
  | some d, _ => present read d
  | none, .named _ => some none
  | none, .placed _ _ => none

def optionalDefault {α : Type} (fs : Fields) (name : String) (read : Document → Option α) :
    Option (Option α) :=
  fs.withDefault name none (present read)

end Fields

end Dialogue
