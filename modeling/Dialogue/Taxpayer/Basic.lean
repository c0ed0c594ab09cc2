import Dialogue.Document.Fields
import Dialogue.Interaction

namespace Dialogue

structure Taxpayer where
  nif : String
  name : String
  address : Option String := none
  activity : Option String := none
deriving DecidableEq

structure Verdict where
  verified : Bool
  entry : Option Taxpayer := none
  reason : Option String := none
deriving DecidableEq

/-- A question to the registry: taxpayers by name, or one identifier. -/
inductive Inquiry where
  | search (name : String)
  | verify (nif : String)
deriving DecidableEq

/-- What the registry answers; it may be out of reach for some reason. -/
abbrev Inquiry.Answer : Inquiry → Type
  | .search _ => Except String (List Taxpayer)
  | .verify _ => Except String Verdict

abbrev Inquiring := Interaction Inquiry Inquiry.Answer

namespace Taxpayer

def ofDocument? (d : Document) : Option Taxpayer := do
  let fs ← Fields.of? ["nif", "name", "address", "activity"] d
  some {
    nif := ← fs.required "nif" Document.text?
    name := ← fs.required "name" Document.text?
    address := ← fs.optionalDefault "address" Document.text?
    activity := ← fs.optionalDefault "activity" Document.text? }

def textField (name : String) : Option String → Record
  | some s => [(name, .text s)]
  | none => []

def toValue (t : Taxpayer) : Value :=
  .object (textField "activity" t.activity ++ textField "address" t.address ++
    [("name", .text t.name), ("nif", .text t.nif)])

end Taxpayer

namespace Verdict

def notFound : Verdict := { verified := false, reason := some "not_found" }

def ofDocument? (d : Document) : Option Verdict := do
  let fs ← Fields.of? ["verified", "record", "reason"] d
  some {
    verified := ← fs.required "verified" Document.bool?
    entry := ← fs.optionalDefault "record" Taxpayer.ofDocument?
    reason := ← fs.optionalDefault "reason" Document.text? }

def toValue (v : Verdict) : Value :=
  .object (Taxpayer.textField "reason" v.reason ++
    (match v.entry with
      | some t => [("record", t.toValue)]
      | none => []) ++
    [("verified", .bool v.verified)])

end Verdict

end Dialogue
