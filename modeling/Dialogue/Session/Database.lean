import Dialogue.Session.Store
import Dialogue.Files
import Dialogue.Text.Percent
import Dialogue.Text.Split

namespace Dialogue

inductive DatabaseKind where
  | memory | sqlite
deriving DecidableEq

structure DatabaseSettings where
  kind : DatabaseKind := .memory
  path : Option String := none
  maxConnections : Nat := 5
deriving DecidableEq

namespace DatabaseKind

def word : DatabaseKind → String
  | .memory => "memory"
  | .sqlite => "sqlite"

def ofWord? (w : String) : Option DatabaseKind := [.memory, .sqlite].find? (·.word = w)

def ofDocument? : Document → Option DatabaseKind
  | .mapping [(k, d)] => if d.isAbsent then k.name?.bind ofWord? else none
  | .text s => ofWord? s
  | .plain w => ofWord? w
  | .tagged d => ofDocument? d
  | _ => none

end DatabaseKind

namespace DatabaseSettings

def ofDocument? (d : Document) : Option DatabaseSettings := do
  let fs ← Fields.of? ["type", "sqlite_path", "max_connections"] d
  some {
    kind := ← fs.required "type" DatabaseKind.ofDocument?
    path := ← fs.optional "sqlite_path" Document.text?
    maxConnections := ← fs.required "max_connections" (Document.natural? (Nat.pow 2 32 - 1)) }

def toValue (s : DatabaseSettings) : Value :=
  .object ([("max_connections", .number (.integer s.maxConnections))] ++
    (match s.path with
      | some p => [("sqlite_path", .text p)]
      | none => []) ++
    [("type", .text s.kind.word)])

def complaint? (s : DatabaseSettings) : Option String :=
  if s.kind = .sqlite ∧ s.path.isNone then
    some "SQLite path is required for SQLite database type"
  else if s.maxConnections = 0 then some "max_connections must be at least 1"
  else none

def validate (s : DatabaseSettings) : Except Error Unit :=
  match s.complaint? with
  | some text => .error (.configuration text)
  | none => .ok ()

end DatabaseSettings

inductive DatabasePlace where
  | transient
  | file (path : String)
deriving DecidableEq

namespace DatabasePlace

def optionWords : List (String × List String) :=
  [("mode", ["ro", "rw", "rwc", "memory"]), ("cache", ["private", "shared"]),
    ("immutable", ["true", "1", "false", "0"])]

def option (cs : List Char) : String × String :=
  (String.ofList (cs.takeWhile (· ≠ '=')), String.ofList ((cs.dropWhile (· ≠ '=')).drop 1))

def isValid (o : String × String) : Bool :=
  o.1 = "vfs" || ((optionWords.lookup o.1).any (·.contains o.2))

/-- The place that an address with options names. A read-only database cannot be set up. -/
def ofAddress? (address : String) : Option DatabasePlace :=
  let body := Text.dropCopies "sqlite:".toList (Text.dropCopies "sqlite://".toList address.toList)
  let name := body.takeWhile (· ≠ '?')
  let query := (body.dropWhile (· ≠ '?')).drop 1
  let options := ((query.splitOn '&').filter (!·.isEmpty)).map option
  if !options.all isValid then none
  else if options.any fun o => o = ("mode", "ro") ∨ o.1 = "vfs" ∨ o = ("immutable", "true") ∨
    o = ("immutable", "1") then none
  else if String.ofList name = ":memory:" ∨ ("mode", "memory") ∈ options then some .transient
  else (Percent.decode? name).map .file

def isAddress (path : String) : Bool := path = ":memory:" || "sqlite:".toList.isPrefixOf path.toList

def parent? (path : String) : Option String :=
  let kept := (path.toList.reverse.dropWhile (· = '/')).dropWhile (· ≠ '/')
  if kept.isEmpty then none else some (String.ofList kept.reverse)

end DatabasePlace

structure Disk where
  files : Files := {}
  tables : List (List String × SessionTable) := []

namespace Disk

def putTable (d : Disk) (path : List String) (t : SessionTable) : Disk :=
  { d with tables := (path, t) :: d.tables.filter (·.1 ≠ path) }

def canMake (d : Disk) (path : List String) : Bool :=
  (List.range (path.length + 1)).all fun n =>
    (d.files.read? (path.take n)).isNone && (d.tables.lookup (path.take n)).isNone

def table? (d : Disk) (path : List String) : Except Error SessionTable :=
  match d.tables.lookup path with
  | some t => .ok t
  | none =>
    if d.files.isDirectory path then .error .database
    else match d.files.read? path with
      | none => .ok []
      | some "" => .ok []
      | some _ => .error .database

def file? (s : DatabaseSettings) : Except Error (Option (List String)) :=
  match s.kind, s.path with
  | .memory, _ => .ok none
  | .sqlite, none => .error (.configuration "SQLite path not configured")
  | .sqlite, some path =>
    let address := if DatabasePlace.isAddress path then path else "sqlite://" ++ path
    match DatabasePlace.ofAddress? address with
    | none => .error .database
    | some .transient => .ok none
    | some (.file name) =>
      match Files.path? name with
      | some p => .ok (some p)
      | none => .error .database

def openStore (d : Disk) (s : DatabaseSettings) : Except Error SessionStore := do
  s.validate
  match s.kind with
  | .memory => .ok (.memory [])
  | .sqlite =>
    let path := s.path.getD ""
    let parent := if DatabasePlace.isAddress path then none else DatabasePlace.parent? path
    match parent.bind Files.path? with
    | some p => if d.canMake p then .ok () else .error .files
    | none => .ok ()
    match ← file? s with
    | none => .ok (.table [])
    | some p => (d.table? p).map .table

def keep (d : Disk) (s : DatabaseSettings) (store : SessionStore) : Disk :=
  match store, file? s with
  | .table t, .ok (some path) => d.putTable path t
  | _, _ => d

end Disk

end Dialogue
