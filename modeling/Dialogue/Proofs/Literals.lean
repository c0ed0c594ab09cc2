import Dialogue.Condition
import Dialogue.Proofs.InstantText
import Dialogue.Proofs.Spelling
import Dialogue.Proofs.Trimming

namespace Dialogue

namespace Numeral

open Double

/-- The number a text spells: an integer of 64 bits, or else the nearest binary number. -/
inductive Denotes : List Char → Number → Prop
  | integer {cs : List Char} {n : Int} (hspells : SpellsInteger cs n) (hlow : -2 ^ 63 ≤ n)
      (hhigh : n < 2 ^ 63) : Denotes cs (.integer n)
  | decimal {cs : List Char} {d : Double} {m : Decimal} (hspells : Spells cs d.negative m)
      (hnearest : Nearest (m.value * one) d.code)
      (hlarge : ∀ n, SpellsInteger cs n → ¬ (-2 ^ 63 ≤ n ∧ n < 2 ^ 63)) : Denotes cs (.double d)

theorem denotes_iff {cs : List Char} {n : Number} : Denotes cs n ↔
    (match integer64? cs with
    | some n => some (Number.integer n)
    | none => (finite? cs).map Number.double) = some n := by
  constructor
  · rintro (⟨hspells, hlow, hhigh⟩ | ⟨hspells, hnearest, hlarge⟩)
    · rw [integer64?_eq_some_iff.2 ⟨hspells, hlow, hhigh⟩]
    · have hnone : integer64? cs = none := by
        rw [Option.eq_none_iff_forall_ne_some]
        intro n hn
        exact hlarge n (integer64?_eq_some_iff.1 hn).1 (integer64?_eq_some_iff.1 hn).2
      rw [hnone, finite?_eq_some_iff.2 ⟨_, hspells, hnearest⟩]
      rfl
  · intro h
    cases hread : integer64? cs with
    | some k =>
      rw [hread] at h
      cases h
      obtain ⟨hspells, hlow, hhigh⟩ := integer64?_eq_some_iff.1 hread
      exact .integer hspells hlow hhigh
    | none =>
      rw [hread] at h
      obtain ⟨d, hd, rfl⟩ := Option.map_eq_some_iff.1 h
      obtain ⟨m, hspells, hnearest⟩ := finite?_eq_some_iff.1 hd
      refine .decimal hspells hnearest fun n hn hrange => ?_
      rw [integer64?_eq_some_iff.2 ⟨hn, hrange⟩] at hread
      cases hread

def IsNumberChar (c : Char) : Prop := c.isDigit = true ∨ c ∈ ['+', '-', '.', 'e', 'E']

theorem IsSign.isNumberChar {sign : List Char} {negative : Bool} (h : IsSign sign negative) :
    ∀ c ∈ sign, IsNumberChar c := by
  cases h with
  | none => simp
  | plus => simp [IsNumberChar]
  | minus => simp [IsNumberChar]

theorem SpellsInteger.isNumberChar {cs : List Char} {n : Int} (h : SpellsInteger cs n) :
    ∀ c ∈ cs, IsNumberChar c := by
  obtain ⟨hsign, hds⟩ := h
  exact List.forall_mem_append.2 ⟨hsign.isNumberChar, fun c hc => .inl (hds.isDigit c hc)⟩

theorem Mantissa.isNumberChar {cs : List Char} {digits places : Nat}
    (h : Mantissa cs digits places) : ∀ c ∈ cs, IsNumberChar c := by
  cases h with
  | whole hds => exact fun c hc => .inl (hds.isDigit c hc)
  | point hds =>
    obtain ⟨hwhole, hfraction⟩ := List.forall_mem_append.1 hds.isDigit
    refine List.forall_mem_append.2 ⟨fun c hc => .inl (hwhole c hc), ?_⟩
    exact List.forall_mem_cons.2 ⟨.inr (by simp), fun c hc => .inl (hfraction c hc)⟩

theorem Power.isNumberChar {cs : List Char} {e : Int} (h : Power cs e) :
    ∀ c ∈ cs, IsNumberChar c := by
  cases h with
  | unit => simp
  | exponent hletter he =>
    refine List.forall_mem_cons.2 ⟨.inr ?_, he.isNumberChar⟩
    rcases hletter with rfl | rfl <;> simp

theorem Denotes.isNumberChar {cs : List Char} {n : Number} (h : Denotes cs n) :
    cs ≠ [] ∧ ∀ c ∈ cs, IsNumberChar c := by
  cases h with
  | integer hspells =>
    refine ⟨?_, hspells.isNumberChar⟩
    obtain ⟨hsign, hds⟩ := hspells
    simp [hds.ne_nil]
  | decimal hspells =>
    generalize Double.negative _ = negative at hspells
    obtain ⟨hsign, hm, hp⟩ := hspells
    obtain ⟨c, rest, rfl, hc⟩ := hm.head
    exact ⟨by simp, List.forall_mem_append.2 ⟨hsign.isNumberChar,
      List.forall_mem_append.2 ⟨hm.isNumberChar, hp.isNumberChar⟩⟩⟩

theorem IsNumberChar.isBlank {c : Char} (h : IsNumberChar c) : Text.isBlank c = false := by
  rcases h with h | h
  · exact Instant.isBlank_of_isDigit h
  · simp only [List.mem_cons, List.not_mem_nil, or_false] at h
    rcases h with rfl | rfl | rfl | rfl | rfl <;> rfl

end Numeral

namespace Condition

open Numeral

def IsQuote (q : Char) : Prop := q = '"' ∨ q = '\''

/-- A literal: a text between quotes of one kind without that quote in it, a word, or a number. -/
inductive Literal : List Char → Value → Prop
  | text {q : Char} {body : List Char} (hq : IsQuote q) (hquote : q ∉ body)
      (hline : '\n' ∉ body) : Literal (q :: (body ++ [q])) (.text (String.ofList body))
  | yes : Literal "true".toList (.bool true)
  | no : Literal "false".toList (.bool false)
  | null : Literal "null".toList .null
  | number {cs : List Char} {n : Number} (h : Denotes cs n) : Literal cs (.number n)

/-- What else is taken as a text: the same quote at both ends and inside. -/
inductive Overquoted : List Char → Value → Prop
  | text {q : Char} {body : List Char} (hq : IsQuote q) (hquote : q ∈ body) (hline : '\n' ∉ body) :
      Overquoted (q :: (body ++ [q])) (.text (String.ofList body))

theorem isQuoted_iff {q : Char} {cs : List Char} :
    isQuoted q cs = true ↔ ∃ body, cs = q :: (body ++ [q]) := by
  constructor
  · intro h
    rw [isQuoted, Bool.and_eq_true, Bool.and_eq_true, decide_eq_true_iff, beq_iff_eq,
      beq_iff_eq] at h
    obtain ⟨⟨hlength, hhead⟩, hlast⟩ := h
    obtain ⟨rest, rfl⟩ := List.head?_eq_some_iff.1 hhead
    obtain ⟨body, rfl⟩ : ∃ body, rest = body ++ [q] := by
      cases rest with
      | nil => simp at hlength
      | cons c rest => exact List.getLast?_eq_some_iff.1 (by simpa using hlast)
    exact ⟨body, rfl⟩
  · rintro ⟨body, rfl⟩
    simp [isQuoted, List.getLast?_cons]

theorem bare_quoted {q : Char} (hq : IsQuote q) (body : List Char) :
    Text.Bare (q :: (body ++ [q])) := by
  have hblank : Text.isBlank q = false := by rcases hq with rfl | rfl <;> rfl
  exact ⟨by simpa using hblank, by simpa [List.getLast?_cons] using hblank⟩

theorem literal?_quoted {q : Char} (hq : IsQuote q) (body : List Char) :
    literal? (q :: (body ++ [q])) = some (.text (String.ofList body)) := by
  have hquoted : isQuoted q (q :: (body ++ [q])) = true := isQuoted_iff.2 ⟨body, rfl⟩
  simp only [literal?, (bare_quoted hq body).trimChars_eq]
  rw [if_pos]
  · simp
  · rcases hq with rfl | rfl
    · rw [hquoted, Bool.true_or]
    · rw [hquoted, Bool.or_true]

theorem Literal.literal?_eq {cs : List Char} {v : Value} (h : Literal cs v) :
    literal? cs = some v := by
  cases h with
  | @text q body hq hquote hline => exact literal?_quoted hq body
  | yes => rfl
  | no => rfl
  | null => rfl
  | @number cs n hn =>
    have hchars := hn.isNumberChar.2
    have hquoted : ∀ q, IsQuote q → ¬ isQuoted q cs = true := by
      rintro q hq h
      obtain ⟨body, rfl⟩ := isQuoted_iff.1 h
      have hhead := hchars q (List.mem_cons_self ..)
      rcases hq with rfl | rfl <;> simp [IsNumberChar] at hhead
    have hword : ∀ c w, ¬ IsNumberChar c → cs ≠ c :: w := by
      rintro c w hc rfl
      exact hc (hchars c (List.mem_cons_self ..))
    have htrue : cs ≠ "true".toList := hword 't' ['r', 'u', 'e'] (by simp [IsNumberChar])
    have hfalse : cs ≠ "false".toList := hword 'f' ['a', 'l', 's', 'e'] (by simp [IsNumberChar])
    have hnull : cs ≠ "null".toList := hword 'n' ['u', 'l', 'l'] (by simp [IsNumberChar])
    simp only [literal?, (Text.bare_of_forall fun c hc => (hchars c hc).isBlank).trimChars_eq]
    rw [if_neg (by simp [hquoted _ (.inl rfl), hquoted _ (.inr rfl)]), if_neg htrue, if_neg hfalse,
      if_neg hnull]
    have hread := denotes_iff.1 hn
    split at hread <;> simp_all

theorem Overquoted.literal?_eq {cs : List Char} {v : Value} (h : Overquoted cs v) :
    literal? cs = some v := by
  obtain ⟨hq, hquote, hline⟩ := h
  exact literal?_quoted hq _

/-- On one line and without white space at the ends nothing else is read. -/
theorem literal_or_overquoted {cs : List Char} {v : Value} (hbare : Text.Bare cs)
    (hline : '\n' ∉ cs) (h : literal? cs = some v) : Literal cs v ∨ Overquoted cs v := by
  simp only [literal?, hbare.trimChars_eq] at h
  split_ifs at h with hquoted htrue hfalse hnull
  · -- Only the two ends are looked at, so the quote may occur inside as well.
    obtain ⟨q, hq, body, rfl⟩ : ∃ q, IsQuote q ∧ ∃ body, cs = q :: (body ++ [q]) := by
      rcases Bool.or_eq_true_iff.1 hquoted with hquoted | hquoted
      · exact ⟨_, .inl rfl, isQuoted_iff.1 hquoted⟩
      · exact ⟨_, .inr rfl, isQuoted_iff.1 hquoted⟩
    have hbody : '\n' ∉ body := fun hmem => hline (by simp [hmem])
    have hv : v = .text (String.ofList body) := by simpa using h.symm
    rw [hv]
    by_cases hquote : q ∈ body
    · exact .inr (.text hq hquote hbody)
    · exact .inl (.text hq hquote hbody)
  · cases h
    exact .inl (htrue ▸ .yes)
  · cases h
    exact .inl (hfalse ▸ .no)
  · cases h
    exact .inl (hnull ▸ .null)
  · obtain ⟨n, hn, rfl⟩ : ∃ n, Denotes cs n ∧ v = .number n := by
      cases hread : integer64? cs with
      | some k =>
        rw [hread] at h
        exact ⟨.integer k, denotes_iff.2 (by rw [hread]), (Option.some.inj h).symm⟩
      | none =>
        rw [hread] at h
        obtain ⟨d, hd, rfl⟩ := Option.map_eq_some_iff.1 h
        exact ⟨.double d, denotes_iff.2 (by rw [hread, hd]; rfl), rfl⟩
    exact .inl (.number hn)

/-- A literal that starts with a quote is a text, and ends where this quote comes again. -/
theorem Literal.of_quote {q : Char} {rest : List Char} {v : Value} (h : Literal (q :: rest) v)
    (hq : IsQuote q) : ∃ body, rest = body ++ [q] ∧ q ∉ body := by
  generalize hcs : q :: rest = cs at h
  have hchar : ∀ a w, ¬ IsQuote a → cs ≠ a :: w := by
    rintro a w ha rfl
    exact ha ((List.cons.inj hcs).1 ▸ hq)
  cases h with
  | @text q' body hq' hquote hline =>
    obtain ⟨rfl, rfl⟩ := List.cons.inj hcs
    exact ⟨body, rfl, hquote⟩
  | yes => exact absurd rfl (hchar 't' ['r', 'u', 'e'] (by simp [IsQuote]))
  | no => exact absurd rfl (hchar 'f' ['a', 'l', 's', 'e'] (by simp [IsQuote]))
  | null => exact absurd rfl (hchar 'n' ['u', 'l', 'l'] (by simp [IsQuote]))
  | number hn =>
    have hhead := hn.isNumberChar.2 q (hcs ▸ List.mem_cons_self ..)
    rcases hq with rfl | rfl <;> simp [IsNumberChar] at hhead

/-- What literals of a kind have in common with the documented ones. -/
structure IsLiteral (cs : List Char) : Prop where
  bare : Text.Bare cs
  ne_nil : cs ≠ []
  line : '\n' ∉ cs
  head : ∀ c ∈ cs.head?, c ≠ '='

/-- Also after white space no equals sign stands before a literal. -/
theorem IsLiteral.head_append {gap lit : List Char} (h : IsLiteral lit) (hgap : Text.Blank gap)
    (right : List Char) : ∀ c ∈ (gap ++ (lit ++ right)).head?, c ≠ '=' := by
  cases gap with
  | nil =>
    cases lit with
    | nil => exact absurd rfl h.ne_nil
    | cons a lit => simpa using h.head
  | cons a gap =>
    rintro c ⟨⟩ rfl
    cases hgap '=' (List.mem_cons_self ..)

theorem IsLiteral.trimLeft_eq {gap lit : List Char} (h : IsLiteral lit) (hgap : Text.Blank gap)
    (right : List Char) : Text.trimLeft (gap ++ (lit ++ right)) = lit ++ right := by
  refine Text.trimLeft_append hgap ?_
  cases lit with
  | nil => exact absurd rfl h.ne_nil
  | cons a lit => simpa using h.bare.head

theorem isLiteral_quoted {q : Char} {body : List Char} (hq : IsQuote q) (hline : '\n' ∉ body) :
    IsLiteral (q :: (body ++ [q])) := by
  refine ⟨bare_quoted hq body, by simp, ?_, ?_⟩
  · rcases hq with rfl | rfl <;> simp [hline]
  · rintro c ⟨⟩
    rcases hq with rfl | rfl <;> decide

theorem Literal.isLiteral {cs : List Char} {v : Value} (h : Literal cs v) : IsLiteral cs := by
  cases h with
  | text hq hquote hline => exact isLiteral_quoted hq hline
  | yes =>
    refine ⟨Text.bare_of_all (by decide) (by decide), by decide, by decide, ?_⟩
    rintro c ⟨⟩
    decide
  | no =>
    refine ⟨Text.bare_of_all (by decide) (by decide), by decide, by decide, ?_⟩
    rintro c ⟨⟩
    decide
  | null =>
    refine ⟨Text.bare_of_all (by decide) (by decide), by decide, by decide, ?_⟩
    rintro c ⟨⟩
    decide
  | number hn =>
    obtain ⟨hne, hchars⟩ := hn.isNumberChar
    have hother : ∀ c, c = '\n' ∨ c = '=' → ¬ IsNumberChar c := by
      rintro c (rfl | rfl) <;> simp [IsNumberChar]
    have hbare : Text.Bare cs := Text.bare_of_forall fun c hc => (hchars c hc).isBlank
    refine ⟨hbare, hne, fun hmem => hother _ (.inl rfl) (hchars _ hmem), ?_⟩
    rintro c hc rfl
    exact hother _ (.inr rfl) (hchars _ (List.mem_of_mem_head? hc))

theorem Overquoted.isLiteral {cs : List Char} {v : Value} (h : Overquoted cs v) :
    IsLiteral cs := by
  obtain ⟨hq, hquote, hline⟩ := h
  exact isLiteral_quoted hq hline

end Condition

end Dialogue
