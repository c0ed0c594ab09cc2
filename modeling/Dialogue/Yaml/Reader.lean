import Dialogue.Yaml.Token
import Dialogue.Document.Basic

namespace Dialogue.Yaml

/-- A document, the tokens after it, and the anchors named so far. -/
structure Parsed where
  document : Document
  rest : List Token
  anchors : List (String × Document)

def depthLimit : Nat := 128

/-- A scalar with its tag. Tags of the core types decide how the text is understood; other tags
make a type of their own. -/
def taggedScalar (tag : Option String) (text : String) (plain : Bool) : Option Document :=
  let meant : Document := if plain then .plain text else .text text
  let when (test : Scalar → Bool) : Option Document :=
    if test (Scalar.ofPlain text) then some (.plain text) else none
  match tag with
  | none => some meant
  | some t =>
    let core := if t.startsWith "!!" then some (t.drop 2).toString
      else if t.startsWith "!<tag:yaml.org,2002:" then
        some (((t.drop 20).dropEnd 1).toString)
      else none
    match core with
    | some "null" => when fun s => s = .null && !text.isEmpty
    | some "bool" => when fun s => match s with
      | .bool _ => true
      | _ => false
    | some "int" => when fun s => match s with
      | .integer _ => true
      | _ => false
    | some "float" => when fun s => match s with
      | .integer _ | .double _ => true
      | _ => false
    | some _ => some (.text text)
    | none => if t = "!" then some meant else some (.tagged meant)

def taggedCollection (tag : Option String) (d : Document) : Document :=
  match tag with
  | some t => if t.startsWith "!!" || t = "!" || t.startsWith "!<tag:yaml.org" then d else .tagged d
  | none => d

/-- The anchor and tag in front of a node, in either order, each at most once. -/
def properties : Option String → Option String → List Token →
    Option String × Option String × List Token
  | none, tag, .anchor a :: rest => properties (some a) tag rest
  | anchor, none, .tag t :: rest => properties anchor (some t) rest
  | anchor, tag, rest => (anchor, tag, rest)
termination_by _ _ ts => ts.length

def emptyScalar : Document := .plain ""

def atAny (ts : List Token) (stops : List Token) : Bool :=
  match ts with
  | [] => true
  | t :: _ => stops.contains t

mutual
/-- Reads a node. Block collections are read only where `block` allows them, sequences without
indentation of their own only as the value of a mapping. -/
def node (block indentless : Bool) : Nat → Nat → List (String × Document) → List Token →
    Option Parsed
  | 0, _, _, _ => none
  | fuel + 1, depth, anchors, ts =>
    match ts with
    | .alias name :: rest => (anchors.lookup name).map fun d => ⟨d, rest, anchors⟩
    | _ =>
      let (anchor, tag, ts) := properties none none ts
      let keep (p : Parsed) : Option Parsed :=
        let d := taggedCollection tag p.document
        if depth = 0 then none
        else match anchor with
          | some a => some ⟨d, p.rest, (a, d) :: p.anchors⟩
          | none => some { p with document := d }
      let scalar (text : String) (plain : Bool) (rest : List Token) : Option Parsed :=
        (taggedScalar tag text plain).map fun d =>
          ⟨d, rest, match anchor with
            | some a => (a, d) :: anchors
            | none => anchors⟩
      match ts with
      | .scalar text plain :: rest => scalar text plain rest
      | .flowSequenceStart :: rest => (flowItems true fuel (depth - 1) anchors [] rest).bind keep
      | .flowMappingStart :: rest => (flowEntries true fuel (depth - 1) anchors [] rest).bind keep
      | .blockEntry :: _ =>
        if indentless then (items true fuel (depth - 1) anchors [] ts).bind keep
        else if anchor.isSome || tag.isSome then scalar "" true ts else none
      | .blockSequence :: rest =>
        if block then (items false fuel (depth - 1) anchors [] rest).bind keep
        else if anchor.isSome || tag.isSome then scalar "" true ts else none
      | .blockMapping :: rest =>
        if block then (entries fuel (depth - 1) anchors [] rest).bind keep
        else if anchor.isSome || tag.isSome then scalar "" true ts else none
      | _ => if anchor.isSome || tag.isSome then scalar "" true ts else none
termination_by structural fuel => fuel

def nodeOrEmpty (block indentless : Bool) (stops : List Token) : Nat → Nat →
    List (String × Document) → List Token → Option Parsed
  | 0, _, _, _ => none
  | fuel + 1, depth, anchors, ts =>
    if atAny ts stops then some ⟨emptyScalar, ts, anchors⟩
    else node block indentless fuel depth anchors ts
termination_by structural fuel => fuel

def items (indentless : Bool) : Nat → Nat → List (String × Document) → List Document →
    List Token → Option Parsed
  | 0, _, _, _, _ => none
  | fuel + 1, depth, anchors, acc, ts =>
    match ts with
    | .blockEntry :: rest =>
      let stops := if indentless then [.blockEntry, .key, .value, .blockEnd]
        else [.blockEntry, .blockEnd]
      match nodeOrEmpty true false stops fuel depth anchors rest with
      | some p => items indentless fuel depth p.anchors (p.document :: acc) p.rest
      | none => none
    | _ =>
      if indentless then some ⟨.list acc.reverse, ts, anchors⟩
      else match ts with
        | .blockEnd :: rest => some ⟨.list acc.reverse, rest, anchors⟩
        | _ => none
termination_by structural fuel => fuel

def entries : Nat → Nat → List (String × Document) → List (Document × Document) → List Token →
    Option Parsed
  | 0, _, _, _, _ => none
  | fuel + 1, depth, anchors, acc, ts =>
    let stops := [Token.key, .value, .blockEnd]
    match ts with
    | .blockEnd :: rest => some ⟨.mapping acc.reverse, rest, anchors⟩
    | .key :: rest =>
      match nodeOrEmpty true true stops fuel depth anchors rest with
      | none => none
      | some k =>
        match k.rest with
        | .value :: rest =>
          match nodeOrEmpty true true stops fuel depth k.anchors rest with
          | some v => entries fuel depth v.anchors ((k.document, v.document) :: acc) v.rest
          | none => none
        | rest => entries fuel depth k.anchors ((k.document, emptyScalar) :: acc) rest
    | _ => none
termination_by structural fuel => fuel

def flowItems (first : Bool) : Nat → Nat → List (String × Document) → List Document →
    List Token → Option Parsed
  | 0, _, _, _, _ => none
  | fuel + 1, depth, anchors, acc, ts =>
    match ts with
    | .flowSequenceEnd :: rest => some ⟨.list acc.reverse, rest, anchors⟩
    | _ =>
      let after := if first then some ts else match ts with
        | .flowEntry :: rest => some rest
        | _ => none
      match after with
      | none => none
      | some (.flowSequenceEnd :: rest) => some ⟨.list acc.reverse, rest, anchors⟩
      | some (.key :: rest) =>
        match nodeOrEmpty false false [.value, .flowEntry, .flowSequenceEnd] fuel depth anchors
          rest with
        | none => none
        | some k =>
          match k.rest with
          | .value :: rest =>
            match nodeOrEmpty false false [.flowEntry, .flowSequenceEnd] fuel depth k.anchors
              rest with
            | some v => flowItems false fuel depth v.anchors
                (.mapping [(k.document, v.document)] :: acc) v.rest
            | none => none
          | rest => flowItems false fuel depth k.anchors
              (.mapping [(k.document, emptyScalar)] :: acc) rest
      | some ts =>
        match node false false fuel depth anchors ts with
        | some p => flowItems false fuel depth p.anchors (p.document :: acc) p.rest
        | none => none
termination_by structural fuel => fuel

def flowEntries (first : Bool) : Nat → Nat → List (String × Document) →
    List (Document × Document) → List Token → Option Parsed
  | 0, _, _, _, _ => none
  | fuel + 1, depth, anchors, acc, ts =>
    match ts with
    | .flowMappingEnd :: rest => some ⟨.mapping acc.reverse, rest, anchors⟩
    | _ =>
      let after := if first then some ts else match ts with
        | .flowEntry :: rest => some rest
        | _ => none
      match after with
      | none => none
      | some (.flowMappingEnd :: rest) => some ⟨.mapping acc.reverse, rest, anchors⟩
      | some (.key :: rest) =>
        match nodeOrEmpty false false [.value, .flowEntry, .flowMappingEnd] fuel depth anchors
          rest with
        | none => none
        | some k =>
          match k.rest with
          | .value :: rest =>
            match nodeOrEmpty false false [.flowEntry, .flowMappingEnd] fuel depth k.anchors
              rest with
            | some v => flowEntries false fuel depth v.anchors
                ((k.document, v.document) :: acc) v.rest
            | none => none
          | rest => flowEntries false fuel depth k.anchors
              ((k.document, emptyScalar) :: acc) rest
      | some ts =>
        match node false false fuel depth anchors ts with
        | some p => flowEntries false fuel depth p.anchors
            ((p.document, emptyScalar) :: acc) p.rest
        | none => none
termination_by structural fuel => fuel
end

def dropEnds : List Token → List Token
  | .documentEnd :: rest => dropEnds rest
  | ts => ts

def single (ts : List Token) : Option (Option Document) :=
  let fuel := 4 * ts.length + 4
  let afterDirectives := ts.dropWhile (· = .directive)
  let finish (p : Parsed) : Option (Option Document) :=
    if (dropEnds p.rest).isEmpty then some (some p.document) else none
  match ts, afterDirectives with
  | [], _ => some none
  | _, .documentStart :: rest =>
    match nodeOrEmpty true false [.directive, .documentStart, .documentEnd] fuel depthLimit []
      rest with
    | some p => finish p
    | none => none
  | .directive :: _, _ => none
  | _, _ =>
    match node true false fuel depthLimit [] ts with
    | some p => finish p
    | none => none

end Dialogue.Yaml

namespace Dialogue.Document

/-- The document a text holds; none as a result if it holds no document at all, none if it cannot
be read or holds several. -/
def ofText? (text : String) : Option (Option Document) := (Yaml.tokens? text).bind Yaml.single

end Dialogue.Document
