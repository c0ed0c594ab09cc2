import Dialogue.Text.Percent
import Dialogue.Text.Split
import Dialogue.Url

namespace Dialogue.Url

/-- Schemes whose addresses always have an authority and segments, a backslash being as good as a
slash. -/
def specialSchemes : List String := ["http", "https", "ws", "wss", "ftp", "file"]

def isSpecial (scheme : String) : Bool := specialSchemes.contains scheme

def isControl (c : Char) : Bool := c.toNat < 0x20 || 0x7E < c.toNat

def escapedInPath (c : Char) : Bool :=
  isControl c || " \"<>`#?\x7b\x7d".toList.contains c

def escapedInSegment (special : Bool) (c : Char) : Bool :=
  escapedInPath c || c = '/' || c = '%' || (special && c = '\\')

def escapedInQuery (special : Bool) (c : Char) : Bool :=
  isControl c || " \"#<>".toList.contains c || (special && c = '\x27')

def escapedInForm (c : Char) : Bool :=
  !(c.isAlphanum || c = '*' || c = '-' || c = '.' || c = '_')

def isPassedOver (c : Char) : Bool := c = '\t' || c = '\n' || c = '\r'

def isDoubleDot (cs : List Char) : Bool :=
  ["..", "%2e%2e", ".%2e", "%2e."].contains (String.ofList (cs.map Char.toLower))

def isSingleDot (cs : List Char) : Bool :=
  [".", "%2e"].contains (String.ofList (cs.map Char.toLower))

def pathParts (special : Bool) (cs : List Char) : List (List Char) :=
  (if special then cs.map fun c => if c = '\\' then '/' else c else cs).splitOn '/'

def resolveDots (done : List String) : List (List Char) → List String
  | [] => done
  | [part] =>
    if isDoubleDot part then done.dropLast ++ [""]
    else if isSingleDot part then done ++ [""]
    else done ++ [String.ofList (Percent.encode escapedInPath part)]
  | part :: rest =>
    if isDoubleDot part then resolveDots done.dropLast rest
    else if isSingleDot part then resolveDots done rest
    else resolveDots (done ++ [String.ofList (Percent.encode escapedInPath part)]) rest

/-- The segments of a path with its first slash; none for an empty path of an address that is not
special. -/
def segments (special : Bool) (path : List Char) : List String :=
  match path with
  | [] => if special then [""] else []
  | c :: rest =>
    if c = '/' ∨ (special ∧ c = '\\') then resolveDots [] (pathParts special rest)
    else resolveDots [] (pathParts special path)

def scheme? (cs : List Char) : Option (String × List Char) :=
  let name := cs.takeWhile fun c => c.isAlphanum || c = '+' || c = '-' || c = '.'
  match name.head?, cs.drop name.length with
  | some c, ':' :: rest =>
    if c.isAlpha then some (String.ofList (name.map Char.toLower), rest) else none
  | _, _ => none

def isPort (cs : List Char) : Bool :=
  cs.all Char.isDigit && (cs.foldl (fun n c => 10 * n + (c.toNat - '0'.toNat)) 0) ≤ 65535

def isBracketed (cs : List Char) : Bool :=
  let groups := cs.splitOn ':'
  let wellFormed := groups.all fun g => g.length ≤ 4 ∧ g.all fun c => (Percent.digit? c).isSome
  let gaps := ((groups.drop 1).dropLast.filter List.isEmpty).length
  wellFormed && 3 ≤ groups.length &&
    ((groups.length = 8 && gaps = 0) || (groups.length ≤ 9 && gaps = 1) ||
      (gaps = 1 && cs = [':', ':']))

def forbiddenInHost (special : Bool) (c : Char) : Bool :=
  c.toNat = 0 || " #/:<>?@[\\]^|".toList.contains c ||
    (special && (c.toNat < 0x20 || c.toNat = 0x7F || c = '%'))

def splitLast (sep : Char) (cs : List Char) : Option (List Char × List Char) :=
  if cs.contains sep then
    let after := (cs.reverse.takeWhile (· ≠ sep)).reverse
    some (cs.take (cs.length - after.length - 1), after)
  else none

def isAuthority (special mayBeEmpty : Bool) (cs : List Char) : Bool :=
  let hostAndPort := ((splitLast '@' cs).map (·.2)).getD cs
  match hostAndPort with
  | '[' :: rest =>
    let host := rest.takeWhile (· ≠ ']')
    match rest.drop host.length with
    | ']' :: [] => isBracketed host
    | ']' :: ':' :: port => isBracketed host && isPort port
    | _ => false
  | _ =>
    let (host, port) := (splitLast ':' hostAndPort).getD (hostAndPort, [])
    !host.any (forbiddenInHost special) && isPort port &&
      (!host.isEmpty || (mayBeEmpty && hostAndPort.length = cs.length && hostAndPort.isEmpty))

def splitAt (stop : Char → Bool) (cs : List Char) : List Char × List Char :=
  (cs.takeWhile fun c => !stop c, cs.dropWhile fun c => !stop c)

def query? (special : Bool) : List Char → Option String
  | '?' :: rest =>
    some (String.ofList (Percent.encode (escapedInQuery special) (rest.takeWhile (· ≠ '#'))))
  | _ => none

def withAuthority? (scheme : String) (special : Bool) (cs : List Char) : Option Url :=
  let (authority, rest) :=
    splitAt (fun c => c = '/' || c = '?' || c = '#' || (special && c = '\\')) cs
  let (path, rest) := splitAt (fun c => c = '?' || c = '#') rest
  if isAuthority special (!special || scheme = "file") authority then
    some { scheme, authority := some (String.ofList authority),
           path := .segments (segments special path), query := query? special rest }
  else none

def parse? (text : String) : Option Url := do
  let trimmed := text.toList.dropWhile fun c => c.toNat ≤ 0x20
  let trimmed := (trimmed.reverse.dropWhile fun c => c.toNat ≤ 0x20).reverse
  let (scheme, rest) ← scheme? (trimmed.filter fun c => !isPassedOver c)
  if isSpecial scheme then
    withAuthority? scheme true (rest.dropWhile fun c => c = '/' || c = '\\')
  else match rest with
    | '/' :: '/' :: rest => withAuthority? scheme false rest
    | _ =>
      let (path, after) := splitAt (fun c => c = '?' || c = '#') rest
      let path :=
        if path.head? = some '/' then UrlPath.segments (segments false path)
        else .unstructured (String.ofList (Percent.encode isControl path))
      some { scheme, path, query := query? false after }

/-- The path with room for another segment: an empty segment that stands alone makes room. -/
def opened (parts : List String) : List String := if parts = [""] then [] else parts

/-- The path with a segment added. Single and double dots are not added; when tabs and line breaks
make one of them, it still counts as dots. -/
def addSegment (special : Bool) (parts : List String) (segment : String) : List String :=
  if segment = "." ∨ segment = ".." then parts
  else
    let written := Percent.encode (escapedInSegment special)
      (segment.toList.filter fun c => !isPassedOver c)
    if isDoubleDot written then parts.dropLast ++ [""]
    else if isSingleDot written then opened parts ++ [""]
    else opened parts ++ [String.ofList written]

def formText (s : String) : List Char :=
  s.toList.flatMap fun c => if c = ' ' then ['+'] else Percent.encodeChar escapedInForm c

def queryWith (query : Option String) (name value : String) : String :=
  let pair := String.ofList (formText name ++ '=' :: formText value)
  match query with
  | none => pair
  | some q => if q.isEmpty then pair else q ++ "&" ++ pair

/-- The library that the command line uses. -/
instance library : UrlLibrary where
  parse? := parse?
  addSegment scheme := addSegment (isSpecial scheme)
  addPair := queryWith

end Dialogue.Url
