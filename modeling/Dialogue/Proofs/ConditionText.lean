import Dialogue.Proofs.ConditionGrammar
import Dialogue.Proofs.ValueText

namespace Dialogue

namespace Value

/-- The value that is read where a value was written with escapes: a text keeps them. -/
def escaped : Value → Value
  | .text s => .text (String.ofList (s.toList.flatMap escapeChar))
  | v => v

def IsPlain (c : Char) : Prop := c ≠ '"' ∧ c ≠ '\\' ∧ 0x20 ≤ c.toNat

theorem hexChar_ne_newline : ∀ n < 16, hexChar n ≠ '\n' := by decide

/-- A character is written as itself, or as a backslash and more. -/
theorem escapeChar_cases (c : Char) : IsPlain c ∧ escapeChar c = [c] ∨
    ¬ IsPlain c ∧ ∃ d rest, escapeChar c = '\\' :: d :: rest ∧ '\n' ∉ d :: rest := by
  have hcontrol : c.toNat < 0x20 → ¬ IsPlain c := fun h hplain => Nat.not_le.2 h hplain.2.2
  unfold escapeChar
  split_ifs with h h h h h h h h
  · exact .inr ⟨fun hplain => hplain.1 h, _, _, rfl, by decide⟩
  · exact .inr ⟨fun hplain => hplain.2.1 h, _, _, rfl, by decide⟩
  · exact .inr ⟨hcontrol (by rw [h]; decide), _, _, rfl, by decide⟩
  · exact .inr ⟨hcontrol (by rw [h]; decide), _, _, rfl, by decide⟩
  · exact .inr ⟨hcontrol (by rw [h]; decide), _, _, rfl, by decide⟩
  · exact .inr ⟨hcontrol (by rw [h]; decide), _, _, rfl, by decide⟩
  · exact .inr ⟨hcontrol (by rw [h]; decide), _, _, rfl, by decide⟩
  · have hhigh := hexChar_ne_newline (c.toNat / 16) (by omega)
    have hlow := hexChar_ne_newline (c.toNat % 16) (by omega)
    exact .inr ⟨hcontrol h, _, _, rfl, by simp [hhigh.symm, hlow.symm]⟩
  · rename_i hquote hslash _ _ _ _ _
    exact .inl ⟨⟨hquote, hslash, Nat.not_lt.1 h⟩, rfl⟩

theorem newline_not_mem_escaped (cs : List Char) : '\n' ∉ cs.flatMap escapeChar := by
  rw [List.mem_flatMap]
  rintro ⟨c, -, hc⟩
  rcases escapeChar_cases c with ⟨hplain, heq⟩ | ⟨-, d, rest, heq, hnot⟩
  · rw [heq, List.mem_singleton] at hc
    subst hc
    exact absurd hplain.2.2 (by decide)
  · rw [heq] at hc
    rcases List.mem_cons.1 hc with hc | hc
    · cases hc
    · exact hnot hc

/-- A text comes back as itself exactly when nothing in it is escaped. -/
theorem flatMap_escapeChar_eq_self_iff (cs : List Char) :
    cs.flatMap escapeChar = cs ↔ ∀ c ∈ cs, IsPlain c := by
  induction cs with
  | nil => simp
  | cons c cs ih =>
    rw [List.flatMap_cons, List.forall_mem_cons]
    rcases escapeChar_cases c with ⟨hplain, heq⟩ | ⟨hescaped, d, rest, heq, -⟩
    · rw [heq, List.singleton_append, List.cons_inj_right, ih]
      simp [hplain]
    · constructor
      · intro h
        have hlength := congrArg List.length h
        have := Reader.length_le_flatMap_escapeChar cs
        rw [heq] at hlength
        simp only [List.length_append, List.length_cons] at hlength
        omega
      · rintro ⟨hplain, -⟩
        exact absurd hplain hescaped

theorem escaped_eq_self_iff {v : Value} :
    v.escaped = v ↔ ∀ s, v = .text s → ∀ c ∈ s.toList, IsPlain c := by
  cases v with
  | text s =>
    have hchars : String.ofList (s.toList.flatMap escapeChar) = s ↔
        s.toList.flatMap escapeChar = s.toList := by
      rw [← String.toList_inj, String.toList_ofList]
    simp [escaped, hchars, flatMap_escapeChar_eq_self_iff]
  | _ => simp [escaped]

end Value

namespace Condition

open Numeral Double

theorem text_chars (body : List Char) :
    Literal (Value.chars (.text (String.ofList body)))
        (Value.escaped (.text (String.ofList body))) ∨
      Overquoted (Value.chars (.text (String.ofList body)))
        (Value.escaped (.text (String.ofList body))) := by
  have hline := Value.newline_not_mem_escaped body
  have hquote : IsQuote '"' := .inl rfl
  rw [Value.chars, Value.quote, Value.escaped, String.toList_ofList, List.cons_append]
  by_cases hmem : '"' ∈ body.flatMap Value.escapeChar
  · exact .inr (.text hquote hmem hline)
  · exact .inl (.text hquote hmem hline)

theorem literal_chars {cs : List Char} {v : Value} (h : Literal cs v ∨ Overquoted cs v) :
    Literal v.chars v.escaped ∨ Overquoted v.chars v.escaped := by
  rcases h with h | h
  · cases h with
    | @text q body hq hquote hline => exact text_chars body
    | yes => exact .inl .yes
    | no => exact .inl .no
    | null => exact .inl .null
    | number hn =>
      refine .inl (.number ?_)
      cases hn with
      | integer hspells hlow hhigh => exact .integer (spellsInteger_intChars _) hlow hhigh
      | @decimal d =>
        have hread : Denotes (Value.layout.chars d) (.double d) := by
          rw [denotes_iff, integer64?_chars, finite?_chars]
          rfl
        exact hread
  · obtain ⟨-, -, -⟩ := h
    exact text_chars _

theorem exists_parts {text : String} {c : Condition} (h : parse text = .ok c) :
    ∃ path, Path.Dotted path ∧ c.path = String.ofList path ∧
      (¬ c.operator.IsComparison ∧ c.literal = .null ∨ c.operator.IsComparison ∧
        ∃ lit, Literal lit c.literal ∨ Overquoted lit c.literal) := by
  rcases parse_eq_ok_iff.1 h with (hasks | hcompares) | hover
  · generalize text.toList = cs at hasks
    obtain ⟨hleft, hpath, hgap, hne, hop, hright⟩ := hasks
    exact ⟨_, hpath, rfl, .inl ⟨hop, rfl⟩⟩
  · generalize text.toList = cs at hcompares
    obtain ⟨hleft, hpath, hgap, hop, hgap', hlit, hright⟩ := hcompares
    exact ⟨_, hpath, rfl, .inr ⟨hop, _, .inl hlit⟩⟩
  · rw [Overread] at hover
    generalize text.toList = cs at hover
    obtain ⟨hleft, hpath, hgap, hop, hgap', hlit, hright⟩ := hover
    exact ⟨_, hpath, rfl, .inr ⟨hop, _, .inr hlit⟩⟩

/-- A question for presence with one blank before its word. -/
theorem asks_spaced {path : List Char} {op : Operator} (hpath : Path.Dotted path)
    (hop : ¬ op.IsComparison) :
    Asks (path ++ (' ' :: op.token.toList)) ⟨String.ofList path, op, .null⟩ := by
  simpa using Asks.mk Text.blank_nil hpath Text.blank_space (List.cons_ne_nil _ _) hop
    Text.blank_nil

theorem toList_toText_of_isComparison {c : Condition} (h : c.operator.IsComparison) :
    c.toText.toList =
      c.path.toList ++ (' ' :: (c.operator.token.toList ++ (' ' :: c.literal.chars))) := by
  obtain ⟨path, op, v⟩ := c
  cases op with
  | present => exact absurd rfl h.1
  | absent => exact absurd rfl h.2
  | _ => simp [toText, Value.render]

theorem toList_toText_of_not_isComparison {c : Condition} (h : ¬ c.operator.IsComparison) :
    c.toText.toList = c.path.toList ++ (' ' :: c.operator.token.toList) := by
  obtain ⟨path, op, v⟩ := c
  cases op with
  | present => simp [toText]
  | absent => simp [toText]
  | _ => exact absurd ⟨nofun, nofun⟩ h

/-- What a condition is written as is read as a condition with the same path and operator; its
literal keeps the escapes it was written with, and so is the same exactly when it needs none. -/
theorem parse_toText {text : String} {c : Condition} (h : parse text = .ok c) :
    parse c.toText = .ok { c with literal := c.literal.escaped } ∧
      (parse c.toText = .ok c ↔
        ∀ s, c.literal = .text s → ∀ ch ∈ s.toList, ch ≠ '"' ∧ ch ≠ '\\' ∧ 0x20 ≤ ch.toNat) := by
  have hread : parse c.toText = .ok { c with literal := c.literal.escaped } := by
    obtain ⟨path, hpath, hchars, ⟨hop, hnull⟩ | ⟨hop, lit, hlit⟩⟩ := exists_parts h
    · have hasks := asks_spaced hpath hop
      rw [parse_eq_ok_iff, Documented, toList_toText_of_not_isComparison hop, hchars, hnull,
        String.toList_ofList]
      exact .inl (.inl hasks)
    · rw [parse_eq_ok_iff, Documented, Overread, toList_toText_of_isComparison hop, hchars,
        String.toList_ofList]
      rcases literal_chars hlit with hliteral | hliteral
      · exact .inl (.inr (compares_spaced hpath hop hliteral))
      · exact .inr (compares_spaced hpath hop hliteral)
  have hsame : { c with literal := c.literal.escaped } = c ↔ c.literal.escaped = c.literal := by
    obtain ⟨path, op, v⟩ := c
    simp
  refine ⟨hread, ?_⟩
  rw [hread, Except.ok.injEq, hsame]
  exact Value.escaped_eq_self_iff

/-- A text with a backslash in it comes back with two. -/
theorem parse_toText_backslash :
    parse "folder == 'C:\\data'" = .ok ⟨"folder", .eq, .text "C:\\data"⟩ ∧
      toText ⟨"folder", .eq, .text "C:\\data"⟩ = "folder == \"C:\\\\data\"" ∧
      parse (toText ⟨"folder", .eq, .text "C:\\data"⟩) =
        .ok ⟨"folder", .eq, .text "C:\\\\data"⟩ ∧
      parse (toText ⟨"folder", .eq, .text "C:\\data"⟩) ≠
        .ok ⟨"folder", .eq, .text "C:\\data"⟩ := by
  have hparse : parse "folder == 'C:\\data'" = .ok ⟨"folder", .eq, .text "C:\\data"⟩ := by
    decide +kernel
  have hread := parse_toText hparse
  have hescaped : Value.escaped (.text "C:\\data") = .text "C:\\\\data" := by decide +kernel
  rw [hescaped] at hread
  refine ⟨hparse, by decide +kernel, hread.1, fun hsame => ?_⟩
  exact (hread.2.1 hsame _ rfl '\\' (by decide +kernel)).2.1 rfl

end Condition

end Dialogue
