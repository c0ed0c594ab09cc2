import Std.Time.DateTime.Timestamp
import Dialogue.Console
import Dialogue.Session.Archive

namespace Dialogue.Console

def addFile (fs : Files) (path : String) : IO Files := do
  match Files.path? path with
  | none => pure fs
  | some names =>
    try
      let text ← IO.FS.readFile path
      pure { fs with files := (names, text) :: fs.files }
    catch _ => pure fs

def addDirectory (fs : Files) (path : String) : IO Files := do
  match Files.path? path with
  | none => pure fs
  | some names =>
    try
      let entries ← ((← IO.currentDir) / path).readDir
      let mut found := { fs with directories := names :: fs.directories }
      for entry in entries do
        let name := names ++ [entry.fileName]
        try
          let text ← IO.FS.readFile entry.path
          found := { found with files := (name, text) :: found.files }
        catch _ => found := { found with directories := name :: found.directories }
      pure found
    catch _ => pure fs

def readEnvironment : IO Environment := do
  let mut env : Environment := []
  for key in Settings.keys do
    if let some value ← IO.getEnv key then env := env ++ [(key, value)]
  pure env

def databasePath (s : Settings) : Option String :=
  match Disk.file? s.database with
  | .ok (some names) => some ("/".intercalate names)
  | _ => none

def readDisk (s : Settings) (o : ConsoleOptions) : IO Disk := do
  let mut files ← addDirectory {} s.workflowsDirectory
  files ← addDirectory files s.localesDirectory
  if let some path := o.directory then files ← addFile files path
  match databasePath s with
  | none => pure { files }
  | some path =>
    let withTable ← addFile files path
    match (Files.path? path).bind fun names => (withTable.read? names).map (names, ·) with
    | none => pure { files }
    | some (names, text) =>
      match SessionTable.ofText? text with
      | some t => pure { files, tables := [(names, t)] }
      | none => pure { files := withTable }

def writeStore (s : Settings) (store : SessionStore) : IO Unit := do
  match store, databasePath s with
  | .table t, some path =>
    if let some parent := DatabasePlace.parent? path then IO.FS.createDirAll parent
    IO.FS.writeFile path t.toText
  | _, _ => pure ()

def surroundings : IO Surroundings := do
  let nanos := (← Std.Time.Timestamp.now).toNanosecondsSinceUnixEpoch.val
  pure {
    now := ⟨nanos.fdiv 1000000000, (nanos.fmod 1000000000).toNat⟩
    fetch := fun _ => .error "the gateway is out of reach" }

def printBlocks (messages : List String) : IO Unit := do
  for message in messages do IO.print (block message)
  (← IO.getStdout).flush

partial def converse (s : Settings) (c : Console) : IO Console := do
  let line ← (← IO.getStdin).getLine
  if line.isEmpty then pure c
  else
    let (shown, c) := c.line (← surroundings) (lineText line.toList)
    printBlocks shown
    writeStore s c.store
    converse s c

def runOptions (o : ConsoleOptions) : IO UInt32 := do
  let environmentFile ← addFile {} ".env"
  let fail (e : Error) : IO UInt32 := do
    IO.eprintln e.message
    pure 1
  match settings (← readEnvironment) environmentFile with
  | .error e => fail e
  | .ok s =>
    let disk ← readDisk s o
    let key := freshKey (← IO.getRandomBytes 16).toList
    match make s o disk key with
    | .error e => fail e
    | .ok c =>
      let (greeting, c) := c.greet (← surroundings) o
      printBlocks greeting
      writeStore s c.store
      let c ← converse s c
      IO.print (c.farewell o)
      pure 0

end Dialogue.Console

def main (args : List String) : IO UInt32 := do
  match Dialogue.Invocation.ofArguments args with
  | .refuse message =>
    IO.eprintln message
    pure 2
  | .show text =>
    IO.print text
    pure 0
  | .run o => Dialogue.Console.runOptions o
