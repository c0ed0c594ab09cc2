import Dialogue.Proofs.InstantText
import Dialogue.Proofs.Lowercasing
import Dialogue.Proofs.Trimming
import Dialogue.Pattern.Reader

namespace Dialogue.Rule

open Text

section Kinds

variable {cs : List Char} {c : Char}

theorem collapse_append_singleton (hc : isBlank c = false) (within : Bool) (cs : List Char) :
    collapse within (cs ++ [c]) = collapse within cs ++ [c] := by
  induction cs generalizing within with
  | nil => simp [collapse, hc]
  | cons d cs ih =>
    simp only [List.cons_append, collapse]
    split
    · split
      · exact ih true
      · rw [ih true, List.cons_append]
    · rw [ih false, List.cons_append]

theorem collapse_collapse (within : Bool) (cs : List Char) :
    collapse within (collapse within cs) = collapse within cs := by
  induction cs generalizing within with
  | nil => rfl
  | cons c cs ih =>
    by_cases hc : isBlank c = true
    · cases within with
      | true => simpa only [collapse, hc, if_true] using ih true
      | false =>
        have hspace : isBlank ' ' = true := rfl
        simp only [collapse, hc, hspace, if_true, Bool.false_eq_true, if_false, ih true]
    · simp only [collapse, hc, Bool.false_eq_true, if_false, ih false]

/-- What stands at the ends is not white space, and so it is left there. -/
theorem bare_collapse (h : Bare cs) : Bare (collapse false cs) := by
  constructor
  · cases cs with
    | nil => simp [collapse]
    | cons c cs =>
      have hc := h.head c rfl
      simp [collapse, hc]
  · obtain rfl | ⟨init, c, rfl⟩ := List.eq_nil_or_concat cs
    · simp [collapse]
    · rw [List.concat_eq_append] at h ⊢
      have hc := h.last c (by simp)
      rw [collapse_append_singleton hc]
      simpa using hc

theorem isBlank_of_isEmail (h : isEmail cs = true) : ∀ c ∈ cs, isBlank c = false := by
  unfold isEmail at h
  split at h
  · simp only [Bool.and_eq_true, Bool.not_eq_true', List.any_eq_false] at h
    intro c hc
    exact Bool.eq_false_iff.2 (h.1.2 c hc)
  · cases h

theorem isBlank_of_isPhone (h : isPhone cs = true) : ∀ c ∈ cs, isBlank c = false := by
  have hdigits : ∀ ds : List Char, ds.all Char.isDigit = true → ∀ c ∈ ds, isBlank c = false :=
    fun ds hds c hc => Instant.isBlank_of_isDigit (List.all_eq_true.1 hds c hc)
  simp only [isPhone, Bool.and_eq_true] at h
  split at h
  · exact List.forall_mem_cons.2 ⟨rfl, hdigits _ h.1.1⟩
  · exact hdigits _ h.1.1

end Kinds

section Fixed

variable {kind : RuleKind} {rule : Rule} {s t input : String}

def rewritten (kind : RuleKind) (s : String) : String :=
  match kind with
  | .email => lowercase s
  | .phone => String.ofList (s.toList.filter (!isPhoneSign ·))
  | .name => String.ofList (collapse false s.toList)
  | .text | .number | .pattern | .any => s

def fits (kind : RuleKind) (s : String) : Bool :=
  match kind with
  | .email => isEmail s.toList
  | .phone => isPhone s.toList
  | .name => isName s.toList
  | .text | .number | .pattern | .any => true

theorem coerceText_eq_ok_iff :
    coerceText kind s = .ok t ↔ rewritten kind s = t ∧ fits kind (rewritten kind s) = true := by
  cases kind with
  | text | number | pattern | any => simp [coerceText, rewritten, fits]
  | email | phone | name =>
    simp only [coerceText, rewritten, fits, String.toList_ofList]
    split
    · rename_i hfits
      simp [hfits]
    · rename_i hfits
      simp [hfits]

theorem rewritten_rewritten (kind : RuleKind) (s : String) :
    rewritten kind (rewritten kind s) = rewritten kind s := by
  cases kind with
  | text | number | pattern | any => rfl
  | email => exact lowercase_lowercase s
  | phone => simp [rewritten, List.filter_filter]
  | name => simp only [rewritten, String.toList_ofList, collapse_collapse]

theorem bare_rewritten (hs : Bare s.toList) (hfits : fits kind (rewritten kind s) = true) :
    Bare (rewritten kind s).toList := by
  cases kind with
  | text | number | pattern | any => exact hs
  | email => exact bare_of_forall (isBlank_of_isEmail hfits)
  | phone => exact bare_of_forall (isBlank_of_isPhone hfits)
  | name =>
    rw [rewritten, String.toList_ofList]
    exact bare_collapse hs

theorem rewritten_ne_empty (hs : s ≠ "") (hfits : fits kind (rewritten kind s) = true) :
    rewritten kind s ≠ "" := by
  cases kind with
  | text | number | pattern | any => exact hs
  | email | phone | name =>
    intro hempty
    rw [hempty] at hfits
    cases hfits

/-- The form of a text has no white space at its ends, and is its own form. -/
theorem coerceText_coerceText (hs : Bare s.toList) (hne : s ≠ "")
    (h : coerceText kind s = .ok t) : Bare t.toList ∧ t ≠ "" ∧ coerceText kind t = .ok t := by
  obtain ⟨rfl, hfits⟩ := coerceText_eq_ok_iff.1 h
  refine ⟨bare_rewritten hs hfits, rewritten_ne_empty hne hfits, ?_⟩
  rw [coerceText_eq_ok_iff, rewritten_rewritten]
  exact ⟨rfl, hfits⟩

theorem checkLength_eq_ok_iff : rule.checkLength s = .ok () ↔
    (∀ n ∈ rule.minLength, n ≤ s.length) ∧ ∀ n ∈ rule.maxLength, s.length ≤ n := by
  have hshort : rule.minLength.any (s.length < ·) = false ↔ ∀ n ∈ rule.minLength, n ≤ s.length := by
    cases rule.minLength <;> simp
  have hlong : rule.maxLength.any (· < s.length) = false ↔ ∀ n ∈ rule.maxLength, s.length ≤ n := by
    cases rule.maxLength <;> simp
  rw [← hshort, ← hlong, checkLength, String.length_toList]
  cases rule.minLength.any (s.length < ·) <;> cases rule.maxLength.any (· < s.length) <;> simp

theorem numberValue_ne_text (d : Double) (t : String) : numberValue d ≠ .text t := by
  unfold numberValue
  split
  · simp
  · simp

variable [PatternReader]

theorem accept_number_ne_text (hkind : rule.kind = .number) :
    rule.accept s ≠ .ok (.text t) := by
  simp only [accept, hkind, Bind.bind, Except.bind]
  split
  · simp
  · split
    · simp
    · split
      · simp
      · simp [numberValue_ne_text]

/-- The texts that a rule accepts are kept in the form for its kind, and it is this form that is
checked. -/
theorem accept_eq_text_iff : rule.accept s = .ok (.text t) ↔
    rule.kind ≠ .number ∧ coerceText rule.kind s = .ok t ∧
      (rule.kind ≠ .any → rule.checkLength t = .ok () ∧ rule.checkPattern t = .ok ()) := by
  -- The kinds of text are checked alike; `any` is not checked, and a number is no text.
  cases hkind : rule.kind with
  | any => simp [accept, hkind, coerceText]
  | number => simp [accept_number_ne_text hkind]
  | text | email | phone | name | pattern =>
    simp only [accept, hkind, Bind.bind, Except.bind]
    cases coerceText _ s with
    | error reason => simp
    | ok kept =>
      constructor
      · intro h
        cases hlength : rule.checkLength kept with
        | error reason => simp [hlength] at h
        | ok _ =>
          cases hpattern : rule.checkPattern kept with
          | error reason => simp [hlength, hpattern] at h
          | ok _ =>
            simp only [hlength, hpattern] at h
            cases h
            exact ⟨by simp, rfl, fun _ => ⟨hlength, hpattern⟩⟩
      · rintro ⟨-, hkept, hchecks⟩
        cases hkept
        obtain ⟨hlength, hpattern⟩ := hchecks (by simp)
        simp [hlength, hpattern]

theorem validate_eq_text_iff : validate (some rule) input = .ok (.text t) ↔
    trim input ≠ "" ∧ rule.accept (trim input) = .ok (.text t) := by
  simp only [validate]
  by_cases hempty : trim input = ""
  · cases rule.required <;> simp [hempty]
  · simp [hempty]

/-- A text that is kept is accepted again as it is: it has no white space at its ends, its length is
within the bounds of the rule unless any answer goes, and checking it once more gives the same. -/
theorem validate_fixed_point {rule : Option Rule} (h : validate rule input = .ok (.text t)) :
    Bare t.toList ∧
    (∀ r ∈ rule, r.kind ≠ .any →
      (∀ n ∈ r.minLength, n ≤ t.length) ∧ ∀ n ∈ r.maxLength, t.length ≤ n) ∧
    validate rule t = .ok (.text t) := by
  cases rule with
  | none =>
    cases h
    have hbare := bare_trim input
    exact ⟨hbare, by simp, by rw [validate, hbare.trim_eq]⟩
  | some rule =>
    obtain ⟨hne, haccept⟩ := validate_eq_text_iff.1 h
    obtain ⟨hkind, hkept, hchecks⟩ := accept_eq_text_iff.1 haccept
    obtain ⟨hbare, hne', hagain⟩ := coerceText_coerceText (bare_trim input) hne hkept
    refine ⟨hbare, ?_, ?_⟩
    · rintro r ⟨⟩ hany
      exact checkLength_eq_ok_iff.1 (hchecks hany).1
    · rw [validate_eq_text_iff, hbare.trim_eq]
      exact ⟨hne', accept_eq_text_iff.2 ⟨hkind, hagain, hchecks⟩⟩

end Fixed

def mailbox : Rule where
  kind := .email
  minLength := some 18
  maxLength := some 18
  pattern := some "^[a-z].*@example\\.org$"

/-- An address of 17 characters is kept with 18, its dotted capital I being two in lower case. -/
theorem validate_fixed_point_mailbox :
    validate (some mailbox) "\u2003İLKER@Example.ORG\n" = .ok (.text "i\u0307lker@example.org") ∧
    Bare "i\u0307lker@example.org".toList ∧
    (∀ r ∈ some mailbox, r.kind ≠ .any →
      (∀ n ∈ r.minLength, n ≤ "i\u0307lker@example.org".length) ∧
        ∀ n ∈ r.maxLength, "i\u0307lker@example.org".length ≤ n) ∧
    validate (some mailbox) "i\u0307lker@example.org" =
      .ok (.text "i\u0307lker@example.org") := by
  have hkept : validate (some mailbox) "\u2003İLKER@Example.ORG\n" =
      .ok (.text "i\u0307lker@example.org") := by decide +kernel
  exact ⟨hkept, validate_fixed_point hkept⟩

end Dialogue.Rule
