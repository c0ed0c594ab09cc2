import Dialogue.Text.Names
import Dialogue.Text.Split

namespace Dialogue

/-- Files by path, and directories that hold none; a path is the list of its names. The directories
above a file or a directory are there too. -/
structure Files where
  files : List (List String × String) := []
  directories : List (List String) := []

namespace Files

/-- The names of a path from the top; empty names and single dots stand for nothing. Without a
result the path leads outside. -/
def path? (text : String) : Option (List String) :=
  if text.toList.head? = some '/' then none
  else
    ((text.toList.splitOn '/').map String.ofList).foldl (fun path name =>
      path.bind fun path =>
        if name = "" ∨ name = "." then some path
        else if name = ".." then (if path.isEmpty then none else some path.dropLast)
        else some (path ++ [name])) (some [])

def read? (fs : Files) (path : List String) : Option String := fs.files.lookup path

def isDirectory (fs : Files) (path : List String) : Bool :=
  path.isEmpty || fs.directories.any (path.isPrefixOf ·) ||
    fs.files.any fun f => path.isPrefixOf f.1 && f.1 != path

def list? (fs : Files) (path : List String) : Option (List String) :=
  if fs.isDirectory path then
    some (Text.sortNames ((fs.files.map (·.1) ++ fs.directories).filterMap fun p =>
      if path.isPrefixOf p then p[path.length]? else none))
  else none

/-- The parts of a name before and after its last dot; a dot in front divides nothing. -/
def splitName (name : String) : String × Option String :=
  let reversed := name.toList.reverse
  let extension := (reversed.takeWhile (· ≠ '.')).reverse
  match reversed.drop extension.length with
  | _ :: stem =>
    if stem.isEmpty then (name, none)
    else (String.ofList stem.reverse, some (String.ofList extension))
  | [] => (name, none)

def isYamlName (name : String) : Bool :=
  match (splitName name).2 with
  | some e => e = "yaml" || e = "yml"
  | none => false

/-- The files with the names of YAML files in a directory, in the order of their names. What is no
file under such a name has no text. -/
def yamlFiles? (fs : Files) (path : List String) : Option (List (String × Option String)) :=
  (fs.list? path).map fun names =>
    (names.filter isYamlName).map fun name => (name, fs.read? (path ++ [name]))

end Files

end Dialogue
