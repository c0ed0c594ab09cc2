import Dialogue.Yaml.ScalarText

namespace Dialogue.Yaml

inductive Token where
  | directive
  | documentStart | documentEnd
  | blockSequence | blockMapping | blockEnd
  | flowSequenceStart | flowSequenceEnd | flowMappingStart | flowMappingEnd
  | blockEntry | flowEntry | key | value
  | alias (name : String)
  | anchor (name : String)
  | tag (name : String)
  | scalar (text : String) (plain : Bool)
deriving DecidableEq

/-- A place where a key may have begun: the number of tokens before it and where it stands. -/
structure KeyPlace where
  possible : Bool := false
  required : Bool := false
  token : Nat := 0
  index : Nat := 0
  line : Nat := 0
  column : Nat := 0

/-- The state of reading tokens. `keys` has a place for every flow collection that is open, and one
for the block around them. -/
structure Lexer where
  cursor : Cursor
  tokens : Array Token := #[]
  indent : Int := -1
  indents : List Int := []
  keyAllowed : Bool := true
  keys : List KeyPlace := [{}]

namespace Lexer

def inFlow (s : Lexer) : Bool := 1 < s.keys.length

def push (s : Lexer) (t : Token) : Lexer := { s with tokens := s.tokens.push t }

def goto (s : Lexer) (c : Cursor) : Lexer := { s with cursor := c }

def dropKey (s : Lexer) : Option Lexer :=
  match s.keys with
  | k :: rest =>
    if k.possible && k.required then none
    else some { s with keys := { k with possible := false } :: rest }
  | [] => some s

/-- Notes that a key may begin here. In a block a text at the current indentation has to be one. -/
def saveKey (s : Lexer) : Option Lexer :=
  if s.keyAllowed then
    s.dropKey.map fun s =>
      let place : KeyPlace := {
        possible := true
        required := !s.inFlow && s.indent == (s.cursor.column : Int)
        token := s.tokens.size
        index := s.cursor.index
        line := s.cursor.line
        column := s.cursor.column }
      { s with keys := place :: s.keys.drop 1 }
  else some s

/-- Keys do not run over lines and have at most 1024 characters; places beyond are forgotten. -/
def dropStale (s : Lexer) : Option Lexer := do
  let keys ← s.keys.mapM fun k =>
    if k.possible && (k.line < s.cursor.line || k.index + 1024 < s.cursor.index) then
      if k.required then none else some { k with possible := false }
    else some k
  some { s with keys := keys }

def unroll (column : Int) : Nat → Lexer → Lexer
  | 0, s => s
  | fuel + 1, s =>
    if s.inFlow || s.indent ≤ column then s
    else unroll column fuel
      { s.push .blockEnd with indent := s.indents.headD (-1), indents := s.indents.drop 1 }

def unrollTo (s : Lexer) (column : Int) : Lexer := unroll column (s.indents.length + 1) s

/-- Opens a block at a column if it is indented more than the current one, its token put at a
place among the tokens. -/
def roll (s : Lexer) (column : Nat) (place : Nat) (t : Token) : Lexer :=
  if !s.inFlow && s.indent < (column : Int) then
    { s with
      indents := s.indent :: s.indents
      indent := column
      tokens := s.tokens.insertIdxIfInBounds place t }
  else s

/-- Skips blanks, comments and line ends up to the next token. Tabs do not count as indentation. -/
def skipGap : Nat → Lexer → Lexer
  | 0, s => s
  | fuel + 1, s =>
    match s.cursor.peek with
    | some ' ' => skipGap fuel (s.goto s.cursor.next)
    | some '\t' =>
      if s.inFlow || !s.keyAllowed then skipGap fuel (s.goto s.cursor.next) else s
    | some '#' => skipGap fuel (s.goto (s.cursor.toLineEnd (s.cursor.rest.length + 1)))
    | some c =>
      if isBreak c then
        let s := s.goto s.cursor.nextLine.1
        skipGap fuel (if s.inFlow then s else { s with keyAllowed := true })
      else s
    | none => s

def openFlow (s : Lexer) (t : Token) : Option Lexer :=
  s.saveKey.map fun s =>
    { (s.push t).goto s.cursor.next with keys := {} :: s.keys, keyAllowed := true }

def closeFlow (s : Lexer) (t : Token) : Option Lexer :=
  s.dropKey.map fun s =>
    { (s.push t).goto s.cursor.next with
      keys := if s.inFlow then s.keys.drop 1 else s.keys
      keyAllowed := false }

def flowComma (s : Lexer) : Option Lexer :=
  s.dropKey.map fun s => { (s.push .flowEntry).goto s.cursor.next with keyAllowed := true }

def hyphen (s : Lexer) : Option Lexer := do
  guard (s.inFlow || s.keyAllowed)
  let s := s.roll s.cursor.column s.tokens.size .blockSequence
  let s ← s.dropKey
  some { (s.push .blockEntry).goto s.cursor.next with keyAllowed := true }

def explicitKey (s : Lexer) : Option Lexer := do
  guard (s.inFlow || s.keyAllowed)
  let s := s.roll s.cursor.column s.tokens.size .blockMapping
  let s ← s.dropKey
  some { (s.push .key).goto s.cursor.next with keyAllowed := !s.inFlow }

def colon (s : Lexer) : Option Lexer :=
  match s.keys with
  | k :: rest =>
    if k.possible then
      let s := { s with
        tokens := s.tokens.insertIdxIfInBounds k.token .key
        keys := { k with possible := false } :: rest }
      let s := s.roll k.column k.token .blockMapping
      some { (s.push .value).goto s.cursor.next with keyAllowed := false }
    else if s.inFlow then
      some { (s.push .value).goto s.cursor.next with keyAllowed := false }
    else if s.keyAllowed then
      let s := s.roll s.cursor.column s.tokens.size .blockMapping
      some { (s.push .value).goto s.cursor.next with keyAllowed := true }
    else none
  | [] => none

def isAnchorChar (c : Char) : Bool := c.isAlphanum || c = '_' || c = '-'

def endsAnchor (c : Char) : Bool := "?:,]\x7d%@`".toList.contains c

def anchorName (s : Lexer) (make : String → Token) : Option Lexer := do
  let s ← s.saveKey
  let name := (s.cursor.next.rest).takeWhile isAnchorChar
  let c := s.cursor.next.skip name.length
  guard (!name.isEmpty && (Cursor.isGap c.peek || c.peek.any endsAnchor))
  some { (s.push (make (String.ofList name))).goto c with keyAllowed := false }

def isTagChar (flow : Bool) (c : Char) : Bool :=
  c.isAlphanum || "-;/?:@&=+$.!~*'()%_#".toList.contains c ||
    (!flow && (c = ',' || c = '[' || c = ']'))

def isKnownTag (s : Lexer) (tag : List Char) : Bool :=
  let name := (tag.drop 1).takeWhile isAnchorChar
  match tag.drop (name.length + 1) with
  | '!' :: rest => !rest.isEmpty && (name.isEmpty || s.tokens.contains .directive)
  | _ => true

def tagName (s : Lexer) : Option Lexer := do
  let s ← s.saveKey
  let body := s.cursor.rest
  let taken := match body with
    | '!' :: '<' :: rest =>
      let uri := rest.takeWhile fun c => isTagChar false c
      if (rest.drop uri.length).head? = some '>' then '!' :: '<' :: uri ++ ['>'] else []
    | _ => body.takeWhile (isTagChar s.inFlow)
  let c := s.cursor.skip taken.length
  guard (!taken.isEmpty && s.isKnownTag taken)
  guard (Cursor.isGap c.peek || (s.inFlow && c.peek = some ','))
  some { (s.push (.tag (String.ofList taken))).goto c with keyAllowed := false }

def blockScalar (s : Lexer) (folding : Bool) : Option Lexer := do
  let s ← s.dropKey
  let (cs, c) ← block folding s.indent s.cursor.next
  some { (s.push (.scalar (String.ofList cs) false)).goto c with keyAllowed := true }

def quotedScalar (s : Lexer) (single : Bool) : Option Lexer := do
  let s ← s.saveKey
  let (cs, c) ← quoted single (s.cursor.rest.length + 1) [] s.cursor.next
  some { (s.push (.scalar (String.ofList cs) false)).goto c with keyAllowed := false }

def plainScalar (s : Lexer) : Option Lexer := do
  let s ← s.saveKey
  let (cs, broken, c) ←
    unquoted s.inFlow (s.indent + 1).toNat (s.cursor.rest.length + 1) [] {} s.cursor
  some { (s.push (.scalar (String.ofList cs) true)).goto c with keyAllowed := broken }

/-- A directive up to the end of its line: the version, which is 1.1 or 1.2 and followed at most by
a comment, or the declaration of a handle of tags. -/
def directiveLine (s : Lexer) : Option Lexer := do
  let s ← (s.unrollTo (-1)).dropKey
  let name := s.cursor.next.rest.takeWhile isAnchorChar
  let line := s.cursor.rest.takeWhile fun c => !isBreak c
  let body := (line.drop (name.length + 1)).dropWhile isBlank
  let isVersion := (['1', '.', '1'].isPrefixOf body || ['1', '.', '2'].isPrefixOf body) &&
    match (body.drop 3).dropWhile isBlank with
    | [] => true
    | c :: _ => c = '#'
  guard ((name = "YAML".toList ∧ isVersion) ∨ name = "TAG".toList)
  some { (s.push .directive).goto (s.cursor.toLineEnd (s.cursor.rest.length + 1)) with
    keyAllowed := false }

def documentMark (s : Lexer) (t : Token) : Option Lexer :=
  ((s.unrollTo (-1)).dropKey).map fun s =>
    { (s.push t).goto (s.cursor.skip 3) with keyAllowed := false }

def isIndicator (c : Char) : Bool := "-?:,[]\x7b\x7d#&*!|>'\"%@`".toList.contains c

def token (s : Lexer) (c : Char) : Option Lexer :=
  let after := s.cursor.peekAt 1
  if s.cursor.column = 0 ∧ c = '%' then s.directiveLine
  else if s.cursor.atDocumentMark then
    s.documentMark (if c = '-' then .documentStart else .documentEnd)
  else if c = '[' then s.openFlow .flowSequenceStart
  else if c = '\x7b' then s.openFlow .flowMappingStart
  else if c = ']' then s.closeFlow .flowSequenceEnd
  else if c = '\x7d' then s.closeFlow .flowMappingEnd
  else if c = ',' then s.flowComma
  else if c = '-' ∧ Cursor.isGap after then s.hyphen
  else if c = '?' ∧ (s.inFlow ∨ Cursor.isGap after) then s.explicitKey
  else if c = ':' ∧ (s.inFlow ∨ Cursor.isGap after) then s.colon
  else if c = '*' then s.anchorName .alias
  else if c = '&' then s.anchorName .anchor
  else if c = '!' then s.tagName
  else if c = '|' ∧ !s.inFlow then s.blockScalar false
  else if c = '>' ∧ !s.inFlow then s.blockScalar true
  else if c = '\'' then s.quotedScalar true
  else if c = '"' then s.quotedScalar false
  else if (!isIndicator c && !isBlank c) || (c = '-' && !after.any isBlank) ||
      (!s.inFlow && (c = '?' || c = ':') && !Cursor.isGap after) then s.plainScalar
  else none

def run : Nat → Lexer → Option (List Token)
  | 0, _ => none
  | fuel + 1, s =>
    match (s.skipGap (2 * s.cursor.rest.length + 1)).dropStale with
    | none => none
    | some s =>
      match s.cursor.peek with
      | none =>
        ((s.unrollTo (-1)).dropKey).map fun s => s.tokens.toList
      | some c =>
        match (s.unrollTo s.cursor.column).token c with
        | some s => run fuel s
        | none => none

end Lexer

def tokens? (text : String) : Option (List Token) :=
  let cs := match text.toList with
    | '\ufeff' :: rest => rest
    | cs => cs
  if cs.all isPrintable then Lexer.run (cs.length + 2) { cursor := { rest := cs } } else none

end Dialogue.Yaml
