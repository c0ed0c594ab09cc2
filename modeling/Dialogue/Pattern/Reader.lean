import Dialogue.Pattern.Basic
import Dialogue.Rule

namespace Dialogue.Pattern.Reader

/-- The switches that can be set inside a pattern. -/
structure Flags where
  caseless : Bool := false
  multiLine : Bool := false
  dotAll : Bool := false
  unicode : Bool := true
  crlf : Bool := false
  verbose : Bool := false

/-- What is left to read, with the switches in force and the group names used so far. -/
structure Cursor where
  rest : List Char
  flags : Flags := {}
  names : List String := []

structure Read where
  pattern : Pattern
  depth : Nat

def depthLimit : Nat := 250

def sizeLimit : Nat := 10485760

inductive Primitive where
  | char (c : Char)
  | set (s : CharSet)
  | anchor (a : Anchor)

def skipVerbose (within : Bool) : List Char → List Char
  | [] => []
  | c :: rest =>
    if within then skipVerbose (c ≠ '\n') rest
    else if Text.isBlank c then skipVerbose false rest
    else if c = '#' then skipVerbose true rest
    else c :: rest

def skip (flags : Flags) (cs : List Char) : List Char :=
  if flags.verbose then skipVerbose false cs else cs

def isMeta (c : Char) : Bool := "\\.+*?()|[]\x7b\x7d^$#&-~".toList.contains c

def isEscapable (c : Char) : Bool :=
  isMeta c || (c.toNat < 0x80 && !c.isAlphanum && c ≠ '<' && c ≠ '>')

def hex? (c : Char) : Option Nat :=
  if c.isDigit then some (c.toNat - '0'.toNat)
  else if 'a' ≤ c ∧ c ≤ 'f' then some (c.toNat - 'a'.toNat + 10)
  else if 'A' ≤ c ∧ c ≤ 'F' then some (c.toNat - 'A'.toNat + 10)
  else none

def char? (n : Nat) : Option Char :=
  if n.isValidChar then some (Char.ofNat n) else none

def hexDigits (flags : Flags) : Nat → Nat → List Char → Option (Nat × List Char)
  | 0, acc, cs => some (acc, cs)
  | k + 1, acc, cs =>
    match skip flags cs with
    | c :: rest => (hex? c).bind fun d => hexDigits flags k (16 * acc + d) rest
    | [] => none

/-- Reads hexadecimal digits up to a closing brace; at least one, and no more than a code point
needs apart from zeros. -/
def hexBraces (flags : Flags) : Nat → Bool → Nat → List Char → Option (Nat × List Char)
  | 0, _, _, _ => none
  | fuel + 1, some?, acc, cs =>
    match skip flags cs with
    | '\x7d' :: rest => if some? then some (acc, rest) else none
    | c :: rest => (hex? c).bind fun d =>
      if Nat.pow 2 32 ≤ 16 * acc + d then none else hexBraces flags fuel true (16 * acc + d) rest
    | [] => none

def hexChar (flags : Flags) (digits : Nat) (cs : List Char) : Option (Char × List Char) := do
  let (n, rest) ← match skip flags cs with
    | '\x7b' :: rest => hexBraces flags (rest.length + 1) false 0 rest
    | rest => hexDigits flags digits 0 rest
  let c ← char? n
  some (c, rest)

def splitAt? (mark : List Char) : List Char → Option (List Char × List Char)
  | [] => none
  | c :: rest =>
    if mark.isPrefixOf (c :: rest) then some ([], (c :: rest).drop mark.length)
    else (splitAt? mark rest).map fun p => (c :: p.1, p.2)

def propertySet? (name : List Char) : Option CharSet :=
  match splitAt? "!=".toList name with
  | some (p, v) => (CharSet.valued? p v).map .compl
  | none =>
    match splitAt? [':'] name with
    | some (p, v) => CharSet.valued? p v
    | none =>
      match splitAt? ['='] name with
      | some (p, v) => CharSet.valued? p v
      | none => CharSet.named? name

def withCase (flags : Flags) (s : CharSet) : CharSet :=
  if flags.caseless then s.fold flags.unicode else s

def propertyClass (flags : Flags) (negated : Bool) (cs : List Char) :
    Option (CharSet × List Char) := do
  guard flags.unicode
  let (s, rest) ← match skip flags cs with
    | '\x7b' :: rest =>
      (splitAt? ['\x7d'] rest).bind fun (name, rest) =>
        (propertySet? (if flags.verbose then name.filter (!Text.isBlank ·) else name)).map (·, rest)
    | c :: rest => if c = '\\' then none else (CharSet.named? [c]).map (·, rest)
    | [] => none
  let s := withCase flags s
  some (if negated then .compl s else s, rest)

def letterClass? (flags : Flags) (c : Char) : Option CharSet :=
  let positive := if flags.unicode then
      (CharSet.digit, CharSet.blank, CharSet.word)
    else (CharSet.asciiDigit, CharSet.asciiBlank, CharSet.asciiWord)
  let negative (r : Text.Ranges) : Option CharSet :=
    if flags.unicode then some (.compl (.ranges r)) else none
  match c with
  | 'd' => some (.ranges positive.1)
  | 's' => some (.ranges positive.2.1)
  | 'w' => some (.ranges positive.2.2)
  | 'D' => negative positive.1
  | 'S' => negative positive.2.1
  | 'W' => negative positive.2.2
  | _ => none

/-- Reads what may follow the boundary escape: a kind of boundary between braces. None is an error,
and text that is not a kind is left alone. -/
def boundary (flags : Flags) (cs : List Char) : Option (Anchor × List Char) :=
  match cs with
  | '\x7b' :: more =>
    match skip flags more with
    | [] => none
    | c :: _ =>
      if c.isAlpha ∨ c = '-' then
        let body := skip flags more
        let isKind (c : Char) : Bool := c.isAlpha || c = '-' || (flags.verbose && Text.isBlank c)
        match body.dropWhile isKind with
        | '\x7d' :: rest =>
          match String.ofList ((body.takeWhile isKind).filter (!Text.isBlank ·)) with
          | "start" => some (.wordStart flags.unicode, rest)
          | "end" => some (.wordEnd flags.unicode, rest)
          | "start-half" => some (.wordStartHalf flags.unicode, rest)
          | "end-half" => some (.wordEndHalf flags.unicode, rest)
          | _ => none
        | _ => none
      else some (.wordBoundary flags.unicode, cs)
  | _ => some (.wordBoundary flags.unicode, cs)

def escape (flags : Flags) : List Char → Option (Primitive × List Char)
  | [] => none
  | c :: rest =>
    if c.isDigit then none
    else if c = 'x' then (hexChar flags 2 rest).map fun r => (.char r.1, r.2)
    else if c = 'u' then (hexChar flags 4 rest).map fun r => (.char r.1, r.2)
    else if c = 'U' then (hexChar flags 8 rest).map fun r => (.char r.1, r.2)
    else if c = 'p' ∨ c = 'P' then
      (propertyClass flags (c = 'P') rest).map fun r => (.set r.1, r.2)
    else if "dswDSW".toList.contains c then
      (letterClass? flags c).map fun s => (.set s, rest)
    else if isEscapable c then some (.char c, rest)
    else match c with
      | 'a' => some (.char '\x07', rest)
      | 'f' => some (.char '\x0c', rest)
      | 't' => some (.char '\t', rest)
      | 'n' => some (.char '\n', rest)
      | 'r' => some (.char '\r', rest)
      | 'v' => some (.char '\x0b', rest)
      | 'A' => some (.anchor .textStart, rest)
      | 'z' => some (.anchor .textEnd, rest)
      | 'b' => (boundary flags rest).map fun r => (.anchor r.1, r.2)
      | 'B' => some (.anchor (.notWordBoundary flags.unicode), rest)
      | '<' => some (.anchor (.wordStart flags.unicode), rest)
      | '>' => some (.anchor (.wordEnd flags.unicode), rest)
      | _ => none

def charSet (flags : Flags) (c : Char) : CharSet := withCase flags (.single c)

def classItem (flags : Flags) : List Char → Option (Primitive × List Char)
  | [] => none
  | '\\' :: rest => escape flags rest
  | c :: rest => some (.char c, rest)

def itemSet? (flags : Flags) : Primitive → Option CharSet
  | .char c => if flags.unicode ∨ c.toNat < 0x80 then some (charSet flags c) else none
  | .set s => some s
  | .anchor _ => none

/-- Reads one item or range of a class. A hyphen before the closing bracket or another hyphen makes
no range. -/
def classRange (flags : Flags) (cs : List Char) : Option (CharSet × List Char) := do
  let (first, rest) ← classItem flags cs
  match skip flags rest with
  | [] => none
  | '-' :: more =>
    match skip flags more with
    | [] => none
    | ']' :: _ => (itemSet? flags first).map (·, skip flags rest)
    | '-' :: _ => (itemSet? flags first).map (·, skip flags rest)
    | body =>
      let (last, rest) ← classItem flags body
      match first, last with
      | .char a, .char b =>
        if a ≤ b ∧ (flags.unicode ∨ b.toNat < 0x80) then
          some (withCase flags (.ranges [(a.toNat, b.toNat)]), rest)
        else none
      | _, _ => none
  | rest => (itemSet? flags first).map (·, rest)

def asciiClass? (flags : Flags) : List Char → Option (CharSet × List Char)
  | '[' :: ':' :: rest =>
    let (negated, body) := match rest with
      | '^' :: more => (true, more)
      | _ => (false, rest)
    match body.dropWhile (· ≠ ':') with
    | ':' :: ']' :: rest =>
      (CharSet.asciiClass? (String.ofList (body.takeWhile (· ≠ ':')))).bind fun r =>
        let s := withCase flags (.ranges r)
        if negated then if flags.unicode then some (.compl s, rest) else none else some (s, rest)
    | _ => none
  | _ => none

inductive SetOperator where
  | inter | diff | symmDiff

def applyPending : Option (CharSet × SetOperator) → CharSet → CharSet
  | none, s => s
  | some (left, .inter), s => .inter left s
  | some (left, .diff), s => .diff left s
  | some (left, .symmDiff), s => .symmDiff left s

def classHead (flags : Flags) : Nat → CharSet → Bool → List Char → CharSet × List Char
  | 0, acc, _, cs => (acc, cs)
  | fuel + 1, acc, started, cs =>
    match cs with
    | '-' :: rest => classHead flags fuel (.union acc (charSet flags '-')) true (skip flags rest)
    | ']' :: rest =>
      if started then (acc, cs) else (.union acc (charSet flags ']'), skip flags rest)
    | _ => (acc, cs)

/-- Reads a class after its opening bracket: the set, how deep it nests, and the rest. -/
def classBody (flags : Flags) : Nat → Option (CharSet × SetOperator) → CharSet → Nat →
    List Char → Option (CharSet × Nat × List Char)
  | 0, _, _, _, _ => none
  | fuel + 1, pending, acc, depth, cs =>
    match skip flags cs with
    | [] => none
    | ']' :: rest => some (applyPending pending acc, depth, rest)
    | '&' :: '&' :: rest =>
      classBody flags fuel (some (applyPending pending acc, .inter)) .none depth rest
    | '-' :: '-' :: rest =>
      classBody flags fuel (some (applyPending pending acc, .diff)) .none depth rest
    | '~' :: '~' :: rest =>
      classBody flags fuel (some (applyPending pending acc, .symmDiff)) .none depth rest
    | '[' :: rest =>
      match asciiClass? flags ('[' :: rest) with
      | some (s, rest) => classBody flags fuel pending (.union acc s) depth rest
      | none =>
        let (negated, rest) := match skip flags rest with
          | '^' :: more => (true, skip flags more)
          | more => (false, more)
        let (head, rest) := classHead flags (rest.length + 1) .none false rest
        match classBody flags fuel none head 0 rest with
        | some (s, inner, rest) =>
          if negated && !flags.unicode then none
          else
            classBody flags fuel pending (.union acc (if negated then .compl s else s))
              (max depth (inner + 1)) rest
        | none => none
    | body =>
      match classRange flags body with
      | some (s, rest) => classBody flags fuel pending (.union acc s) depth rest
      | none => none

def bracketed (flags : Flags) (cs : List Char) : Option (CharSet × Nat × List Char) :=
  let (negated, rest) := match skip flags cs with
    | '^' :: more => (true, skip flags more)
    | more => (false, more)
  let (head, rest) := classHead flags (rest.length + 1) .none false rest
  (classBody flags (rest.length + 1) none head 0 rest).bind fun (s, depth, rest) =>
    if negated then if flags.unicode then some (.compl s, depth + 1, rest) else none
    else some (s, depth + 1, rest)

/-- A decimal count between blanks, at most 32 bits; none as a result when there are no digits. -/
def count (flags : Flags) (cs : List Char) : Option (Option Nat × List Char) :=
  let isPart (c : Char) : Bool := c.isDigit || (flags.verbose && Text.isBlank c)
  let body := cs.dropWhile Text.isBlank
  let ds := (body.takeWhile isPart).filter Char.isDigit
  let rest := skip flags ((body.dropWhile isPart).dropWhile Text.isBlank)
  if ds.isEmpty then some (none, rest)
  else
    let n := ds.foldl (fun n c => 10 * n + (c.toNat - '0'.toNat)) 0
    if n < Nat.pow 2 32 then some (some n, rest) else none

def lazyMark : List Char → List Char
  | '?' :: rest => rest
  | cs => cs

def counts (flags : Flags) (cs : List Char) : Option (Nat × Option Nat × List Char) := do
  let (least, rest) ← count flags (skip flags cs)
  match rest with
  | '\x7d' :: rest => least.map fun n => (n, some n, lazyMark rest)
  | ',' :: rest =>
    match skip flags rest with
    | '\x7d' :: rest => least.map fun n => (n, none, lazyMark rest)
    | rest =>
      let least ← least
      let (most, rest) ← count flags rest
      let most ← most
      match rest with
      | '\x7d' :: rest => if least ≤ most then some (least, some most, lazyMark rest) else none
      | _ => none
  | _ => none

def setFlag (flags : Flags) (c : Char) (on : Bool) : Option Flags :=
  match c with
  | 'i' => some { flags with caseless := on }
  | 'm' => some { flags with multiLine := on }
  | 's' => some { flags with dotAll := on }
  | 'u' => some { flags with unicode := on }
  | 'R' => some { flags with crlf := on }
  | 'x' => some { flags with verbose := on }
  | 'U' => some flags
  | _ => none

/-- Reads switches up to a colon or a closing parenthesis, each at most once, and one minus sign
that is followed by a switch. -/
def switches (on : Bool) (seen : List Char) (flags : Flags) :
    List Char → Option (Flags × List Char × List Char)
  | [] => none
  | c :: rest =>
    if c = ':' ∨ c = ')' then
      if seen.head? = some '-' then none else some (flags, seen, c :: rest)
    else if seen.contains c then none
    else if c = '-' then switches false (c :: seen) flags rest
    else match setFlag flags c on with
      | some flags => switches on (c :: seen) flags rest
      | none => none

def isGroupNameChar (first : Bool) (c : Char) : Bool :=
  let alpha := Text.Property.alphabetic.contains c.toNat
  c = '_' || alpha ||
    (!first && (c = '.' || c = '[' || c = ']' || Text.Category.numeric.contains c.toNat))

def groupName (cs : List Char) : Option (String × List Char) :=
  match cs.takeWhile (· ≠ '>'), cs.dropWhile (· ≠ '>') with
  | c :: more, '>' :: rest =>
    if isGroupNameChar true c && more.all (isGroupNameChar false) then
      some (String.ofList (c :: more), rest)
    else none
  | _, _ => none

inductive Opening where
  | group (cursor : Cursor)
  | switches (cursor : Cursor)

def opening (cursor : Cursor) (cs : List Char) : Option Opening :=
  let named (rest : List Char) : Option Opening :=
    (groupName rest).bind fun (name, rest) =>
      if cursor.names.contains name then none
      else some (.group { cursor with rest := rest, names := name :: cursor.names })
  match skip cursor.flags cs with
  | '?' :: 'P' :: '<' :: rest => named rest
  | '?' :: '<' :: '=' :: _ | '?' :: '<' :: '!' :: _ | '?' :: '=' :: _ | '?' :: '!' :: _ => none
  | '?' :: '<' :: rest => named rest
  | '?' :: rest =>
    (switches true [] cursor.flags rest).bind fun (flags, seen, rest) =>
      match rest with
      | ')' :: rest =>
        if seen.isEmpty then none
        else some (.switches { cursor with rest := rest, flags := flags })
      | ':' :: rest => some (.group { cursor with rest := rest, flags := flags })
      | _ => none
  | rest => some (.group { cursor with rest := rest })

def anyChar? (flags : Flags) : Option CharSet :=
  if !flags.unicode then none
  else if flags.dotAll then some (.ranges [(0, 0x10FFFF)])
  else if flags.crlf then some (.compl (.ranges [(0xA, 0xA), (0xD, 0xD)]))
  else some (.compl (.ranges [(0xA, 0xA)]))

def leaf (p : Pattern) : Read := ⟨p, 0⟩

def primitive (flags : Flags) : Primitive → Read
  | .char c => leaf (.set (charSet flags c))
  | .set s => leaf (.set s)
  | .anchor a => leaf (.anchor a)

def joinItems (items : List (Option Read)) : Read :=
  match items with
  | [] => leaf .empty
  | [some r] => r
  | _ =>
    let rs := items.filterMap id
    ⟨rs.foldl (fun acc r => .seq r.pattern acc) .empty, (rs.map (·.depth)).foldl max 0 + 1⟩

def joinBranches (branches : List Read) : Read :=
  match branches with
  | [] => leaf .empty
  | [r] => r
  | r :: rs =>
    ⟨rs.foldl (fun acc b => .alt b.pattern acc) r.pattern,
      (branches.map (·.depth)).foldl max 0 + 1⟩

def repeatLast (items : List (Option Read)) (least : Nat) (most : Option Nat) :
    Option (List (Option Read)) :=
  match items with
  | some r :: rest => some (some ⟨.rep r.pattern least most, r.depth + 1⟩ :: rest)
  | _ => none

/-- Reads branches up to the end of the text or, inside a group, up to its closing parenthesis. -/
def branches (inside : Bool) : Nat → List Read → List (Option Read) → Cursor →
    Option (Read × Cursor)
  | 0, _, _, _ => none
  | fuel + 1, done, items, cursor =>
    let flags := cursor.flags
    let go (items : List (Option Read)) (rest : List Char) : Option (Read × Cursor) :=
      branches inside fuel done items { cursor with rest := rest }
    match skip flags cursor.rest with
    | [] => if inside then none else some (joinBranches (joinItems items :: done), cursor)
    | ')' :: rest =>
      if inside then some (joinBranches (joinItems items :: done), { cursor with rest := rest })
      else none
    | '|' :: rest =>
      branches inside fuel (joinItems items :: done) [] { cursor with rest := rest }
    | '(' :: rest =>
      match opening cursor rest with
      | none => none
      | some (.switches cursor) => branches inside fuel done (none :: items) cursor
      | some (.group inner) =>
        match branches true fuel [] [] inner with
        | none => none
        | some (r, after) =>
          branches inside fuel done (some ⟨r.pattern, r.depth + 1⟩ :: items)
            { after with flags := flags }
    | '[' :: rest =>
      match bracketed flags rest with
      | some (s, depth, rest) => go (some ⟨.set s, depth⟩ :: items) rest
      | none => none
    | '?' :: rest => (repeatLast items 0 (some 1)).bind fun items => go items (lazyMark rest)
    | '*' :: rest => (repeatLast items 0 none).bind fun items => go items (lazyMark rest)
    | '+' :: rest => (repeatLast items 1 none).bind fun items => go items (lazyMark rest)
    | '\x7b' :: rest =>
      match counts flags rest with
      | some (least, most, rest) => (repeatLast items least most).bind fun items => go items rest
      | none => none
    | '\\' :: rest =>
      match escape flags rest with
      | some (p, rest) => go (some (primitive flags p) :: items) rest
      | none => none
    | '.' :: rest =>
      match anyChar? flags with
      | some s => go (some (leaf (.set s)) :: items) rest
      | none => none
    | '^' :: rest =>
      let a := if flags.multiLine then Anchor.lineStart flags.crlf else .textStart
      go (some (leaf (.anchor a)) :: items) rest
    | '$' :: rest =>
      let a := if flags.multiLine then Anchor.lineEnd flags.crlf else .textEnd
      go (some (leaf (.anchor a)) :: items) rest
    | c :: rest => go (some (leaf (.set (charSet flags c))) :: items) rest

end Reader

/-- The pattern a text writes; none if the text writes none, or one that nests too deep or is too
large. -/
def ofText? (text : String) : Option Pattern :=
  let cs := text.toList
  match Reader.branches false (cs.length + 2) [] [] { rest := cs } with
  | some (r, _) =>
    if r.depth ≤ Reader.depthLimit && r.pattern.size ≤ Reader.sizeLimit then some r.pattern
    else none
  | none => none

/-- The patterns that this reader knows, which are those of the command line. -/
instance reader : PatternReader where
  read? pattern := (ofText? pattern).map fun p text => p.isFound text.toList

end Dialogue.Pattern
