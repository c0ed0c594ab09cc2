import Dialogue.Yaml.Cursor

namespace Dialogue.Yaml

/-- The line breaks and blanks that were read after a piece of a scalar: blanks on its line, or
the first break and those after it. -/
structure Gap where
  blanks : List Char := []
  first : List Char := []
  more : List Char := []
  broken : Bool := false

namespace Gap

def folded (g : Gap) : List Char :=
  if g.broken then
    if g.first = ['\n'] then if g.more.isEmpty then [' '] else g.more
    else g.first ++ g.more
  else g.blanks

/-- Reads a gap. With `indent`, tabs may not stand before that column of a later line. -/
def read (indent : Option Nat) : Nat → Gap → Cursor → Option (Gap × Cursor)
  | 0, g, c => some (g, c)
  | fuel + 1, g, c =>
    match c.peek with
    | none => some (g, c)
    | some b =>
      if isBlank b then
        if g.broken ∧ b = '\t' ∧ indent.any (c.column < ·) then none
        else read indent fuel (if g.broken then g else { g with blanks := g.blanks ++ [b] }) c.next
      else if isBreak b then
        let (c, br) := c.nextLine
        read indent fuel
          (if g.broken then { g with more := g.more ++ br }
            else { g with blanks := [], first := br, broken := true }) c
      else some (g, c)

end Gap

def hexValue : List Char → Option Nat
  | [] => some 0
  | cs => cs.foldl (fun n c => n.bind fun n =>
      if c.isDigit then some (16 * n + (c.toNat - '0'.toNat))
      else if 'a' ≤ c ∧ c ≤ 'f' then some (16 * n + (c.toNat - 'a'.toNat + 10))
      else if 'A' ≤ c ∧ c ≤ 'F' then some (16 * n + (c.toNat - 'A'.toNat + 10))
      else none) (some 0)

def codePoint (digits : Nat) (c : Cursor) : Option (Char × Cursor) :=
  let ds := c.rest.take digits
  if ds.length < digits then none
  else (hexValue ds).bind fun n =>
    if n.isValidChar then some (Char.ofNat n, c.skip digits) else none

def escape (c : Cursor) : Option (Char × Cursor) :=
  match c.peek with
  | none => none
  | some e =>
    let one (r : Char) : Option (Char × Cursor) := some (r, c.next)
    match e with
    | '0' => one '\x00'
    | 'a' => one '\x07'
    | 'b' => one '\x08'
    | 't' => one '\t'
    | '\t' => one '\t'
    | 'n' => one '\n'
    | 'v' => one '\x0b'
    | 'f' => one '\x0c'
    | 'r' => one '\r'
    | 'e' => one '\x1b'
    | ' ' => one ' '
    | '"' => one '"'
    | '/' => one '/'
    | '\\' => one '\\'
    | 'N' => one '\u0085'
    | '_' => one '\u00a0'
    | 'L' => one '\u2028'
    | 'P' => one '\u2029'
    | 'x' => codePoint 2 c.next
    | 'u' => codePoint 4 c.next
    | 'U' => codePoint 8 c.next
    | _ => none

def quoted (single : Bool) : Nat → List Char → Cursor → Option (List Char × Cursor)
  | 0, _, _ => none
  | fuel + 1, acc, c =>
    if c.atDocumentMark then none
    else
      let gap (g : Gap) (c : Cursor) : Option (List Char × Cursor) :=
        match g.read none (c.rest.length + 1) c with
        | some (g, c) => quoted single fuel (g.folded.reverse ++ acc) c
        | none => none
      match c.rest with
      | [] => none
      | ch :: rest =>
        if isBlank ch || isBreak ch then gap {} c
        else if single then
          if ch = '\'' then
            if rest.head? = some '\'' then quoted single fuel ('\'' :: acc) (c.skip 2)
            else some (acc.reverse, c.next)
          else quoted single fuel (ch :: acc) c.next
        else if ch = '"' then some (acc.reverse, c.next)
        else if ch = '\\' then
          if rest.head?.any isBreak then gap { broken := true } c.next.nextLine.1
          else match escape c.next with
            | some (e, c) => quoted single fuel (e :: acc) c
            | none => none
        else quoted single fuel (ch :: acc) c.next

def isFlowSign (c : Char) : Bool := c = ',' || c = '[' || c = ']' || c = '\x7b' || c = '\x7d'

/-- Reads an unquoted scalar, the characters so far in reverse: its text, whether it ran into
another line, and the cursor after it. In a block it ends at a line indented less than `indent`. -/
def unquoted (flow : Bool) (indent : Nat) : Nat → List Char → Gap → Cursor →
    Option (List Char × Bool × Cursor)
  | 0, acc, g, c => some (acc.reverse, g.broken, c)
  | fuel + 1, acc, g, c =>
    let stop := some (acc.reverse, g.broken, c)
    match c.rest with
    | [] => stop
    | ch :: rest =>
      if isBlank ch || isBreak ch then
        match g.read (some indent) (c.rest.length + 1) c with
        | none => none
        | some (g, c) =>
          if (!flow && c.column < indent) || c.atDocumentMark || c.peek = some '#' then
            some (acc.reverse, g.broken, c)
          else unquoted flow indent fuel acc g c
      else if flow && ch = ':' && rest.head?.any (fun n => isFlowSign n || n = '?') then none
      else if (ch = ':' && Cursor.isGap rest.head?) || (flow && isFlowSign ch) then stop
      else unquoted flow indent fuel (ch :: (g.folded.reverse ++ acc)) {} c.next

/-- Reads the empty lines of a block scalar and the indentation of its next line. An indentation of
zero is not known yet; it becomes the greatest one found, but more than that of the surroundings. -/
def blockBreaks (parent : Int) : Nat → Nat → Nat → List Char → Cursor →
    Option (Nat × List Char × Cursor)
  | 0, _, _, _, _ => none
  | fuel + 1, indent, deepest, breaks, c =>
    if (indent = 0 ∨ c.column < indent) ∧ c.peek = some ' ' then
      blockBreaks parent fuel indent deepest breaks c.next
    else
      let deepest := max deepest c.column
      if (indent = 0 ∨ c.column < indent) ∧ c.peek = some '\t' then none
      else if c.peek.any isBreak then
        let (c, br) := c.nextLine
        blockBreaks parent fuel indent deepest (breaks ++ br) c
      else
        let known := if indent = 0 then max (max deepest (parent + 1).toNat) 1 else indent
        some (known, breaks, c)

/-- How a block scalar ends: without its last line breaks, with one, or with all. -/
inductive Chomp where
  | strip | clip | keep
deriving DecidableEq

/-- Reads the rest of the lines of a block scalar. `lead` is the break after the last line, `breaks`
those of the empty lines after it, `indented` whether that line began with a blank. -/
def blockLines (folding : Bool) (chomp : Chomp) (parent : Int) (indent : Nat) : Nat → List Char →
    List Char → List Char → Bool → Cursor → Option (List Char × Cursor)
  | 0, _, _, _, _, _ => none
  | fuel + 1, acc, lead, breaks, indented, c =>
    if c.column = indent ∧ !c.rest.isEmpty then
      let blank := c.peek.any isBlank
      let joint :=
        if folding && lead == ['\n'] && !indented && !blank then
          if breaks.isEmpty then [' '] else []
        else lead
      let stop := c.toLineEnd (c.rest.length + 1)
      let line := c.rest.take (stop.index - c.index)
      let (c, br) := stop.nextLine
      match blockBreaks parent (c.rest.length + 1) indent 0 [] c with
      | none => none
      | some (_, more, c) =>
        blockLines folding chomp parent indent fuel (acc ++ joint ++ breaks ++ line) br more blank c
    else
      let tail := match chomp with
        | .strip => []
        | .clip => lead
        | .keep => lead ++ breaks
      some (acc ++ tail, c)

/-- Reads the signs after the indicator of a block scalar: how it ends and how far it is
indented. -/
def blockHeader (c : Cursor) : Option (Chomp × Nat × Cursor) :=
  let chomp? : Option Char → Option Chomp
    | some '+' => some .keep
    | some '-' => some .strip
    | _ => none
  let digit? : Option Char → Option Nat := fun d =>
    d.bind fun d => if d.isDigit then some (d.toNat - '0'.toNat) else none
  match chomp? c.peek with
  | some chomp =>
    match digit? c.next.peek with
    | some 0 => none
    | some k => some (chomp, k, c.skip 2)
    | none => some (chomp, 0, c.next)
  | none =>
    match digit? c.peek with
    | some 0 => none
    | some k =>
      match chomp? c.next.peek with
      | some chomp => some (chomp, k, c.skip 2)
      | none => some (.clip, k, c.next)
    | none => some (.clip, 0, c)

def block (folding : Bool) (parent : Int) (c : Cursor) : Option (List Char × Cursor) := do
  let (chomp, increment, c) ← blockHeader c
  let c := c.skipBlanks (c.rest.length + 1)
  let c := if c.peek = some '#' then c.toLineEnd (c.rest.length + 1) else c
  guard (Cursor.isLineEnd c.peek)
  let c := c.nextLine.1
  let start : Nat :=
    if increment = 0 then 0 else if 0 ≤ parent then parent.toNat + increment else increment
  let (indent, breaks, c) ← blockBreaks parent (c.rest.length + 1) start 0 [] c
  blockLines folding chomp parent indent (c.rest.length + 1) [] [] breaks false c

end Dialogue.Yaml
