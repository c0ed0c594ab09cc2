namespace Dialogue

/-- The path of an address: segments, or a text that no segment can be added to. -/
inductive UrlPath where
  | segments (parts : List String)
  | unstructured (text : String)
deriving DecidableEq

structure Url where
  scheme : String
  authority : Option String := none
  path : UrlPath
  query : Option String := none
deriving DecidableEq

/-- What is used of a library for addresses: how an address is read, the path of an address of a
scheme with a segment added to it, and a query with a pair added to it. -/
class UrlLibrary where
  parse? : String → Option Url
  addSegment : String → List String → String → List String
  addPair : Option String → String → String → String

namespace Url

def withPath (u : Url) (parts : List String) : Url := { u with path := .segments parts }

/-- The path without an empty last segment, unless that is the only one. -/
def popEmpty (parts : List String) : List String :=
  if 1 < parts.length ∧ parts.getLast? = some "" then parts.dropLast else parts

/-- The address with segments added to its path; none if no segment can be added. -/
def extend? [UrlLibrary] (u : Url) (added : List String) : Option Url :=
  match u.path with
  | .unstructured _ => none
  | .segments parts =>
    some (u.withPath (added.foldl (UrlLibrary.addSegment u.scheme) (popEmpty parts)))

def addPair [UrlLibrary] (u : Url) (name value : String) : Url :=
  { u with query := some (UrlLibrary.addPair u.query name value) }

def target (u : Url) : String :=
  let path := match u.path with
    | .segments [] => "/"
    | .segments parts => String.join (parts.map ("/" ++ ·))
    | .unstructured text => text
  match u.query with
  | some q => path ++ "?" ++ q
  | none => path

end Url

end Dialogue
