import Dialogue.Proofs.Lowercasing
import Dialogue.Taxpayer.Directory
import Mathlib.Data.List.Infix

namespace Dialogue

namespace Text

/-- Whether a capital sigma between two texts is the last letter of a word. -/
def endsWord (left right : List Char) : Bool := startsCased left.reverse && !startsCased right

def lowerBetween (left right : List Char) (c : Char) : List Char :=
  if c = 'Σ' then [if endsWord left right then 'ς' else 'σ'] else lowerChar c

/-- The lowercase form of a part of a text that stands between two others. -/
def lowerWithin (left right : List Char) : List Char → List Char
  | [] => []
  | c :: rest => lowerBetween left (rest ++ right) c ++ lowerWithin (left ++ [c]) right rest

theorem lowerBetween_ne_nil (left right : List Char) (c : Char) :
    lowerBetween left right c ≠ [] := by
  unfold lowerBetween
  split
  · simp
  · obtain ⟨-, h⟩ | ⟨-, h⟩ | ⟨r, -, -, h⟩ | ⟨-, h⟩ := lowerChar_cases c <;> simp [h]

theorem lowerFrom_reverse (left cs : List Char) :
    lowerFrom left.reverse cs = lowerWithin left [] cs := by
  induction cs generalizing left with
  | nil => rfl
  | cons c cs ih =>
    have hleft : c :: left.reverse = (left ++ [c]).reverse := by simp
    rw [lowerFrom, lowerWithin, lowerBetween, hleft, ih, endsWord, List.append_nil]
    split <;> rfl

theorem lowercase_toList (s : String) : (lowercase s).toList = lowerWithin [] [] s.toList := by
  rw [lowercase, String.toList_ofList]
  exact lowerFrom_reverse [] s.toList

/-- A text is lowercased part by part, each part between the others. -/
theorem lowerWithin_append (left right cs ds : List Char) :
    lowerWithin left right (cs ++ ds) =
      lowerWithin left (ds ++ right) cs ++ lowerWithin (left ++ cs) right ds := by
  induction cs generalizing left with
  | nil => simp [lowerWithin]
  | cons c cs ih => simp [lowerWithin, ih]

/-- What stands around a part matters only for its capital sigmas. -/
theorem lowerWithin_congr {left right left' right' cs : List Char}
    (h : ∀ a b, cs = a ++ 'Σ' :: b →
      endsWord (left ++ a) (b ++ right) = endsWord (left' ++ a) (b ++ right')) :
    lowerWithin left right cs = lowerWithin left' right' cs := by
  induction cs generalizing left left' with
  | nil => rfl
  | cons c cs ih =>
    have hfirst : lowerBetween left (cs ++ right) c = lowerBetween left' (cs ++ right') c := by
      unfold lowerBetween
      split
      · rename_i hsigma
        have hends := h [] cs (by rw [hsigma, List.nil_append])
        simp only [List.append_nil] at hends
        rw [hends]
      · rfl
    have hrest : lowerWithin (left ++ [c]) right cs = lowerWithin (left' ++ [c]) right' cs := by
      apply ih
      intro a b hcs
      simpa using h (c :: a) b (by rw [hcs, List.cons_append])
    rw [lowerWithin, hfirst, hrest, lowerWithin]

theorem lowercase_ne_nil {s : String} (h : s.toList ≠ []) : (lowercase s).toList ≠ [] := by
  obtain ⟨c, rest, hs⟩ := List.exists_cons_of_ne_nil h
  rw [lowercase_toList, hs, lowerWithin]
  exact List.append_ne_nil_of_left_ne_nil (lowerBetween_ne_nil _ _ c) _

/-- A part of a text is also a part of it in lower case if its capital sigmas end words in the text
where they do in the part. -/
theorem lowercase_infix {s name : String} {left right : List Char}
    (hname : name.toList = left ++ s.toList ++ right)
    (hsigma : ∀ a b, s.toList = a ++ 'Σ' :: b →
      endsWord (left ++ a) (b ++ right) = endsWord a b) :
    (lowercase s).toList <:+: (lowercase name).toList := by
  have hpart : (lowercase s).toList = lowerWithin left right s.toList := by
    rw [lowercase_toList]
    apply lowerWithin_congr
    intro a b hs
    simpa using (hsigma a b hs).symm
  rw [lowercase_toList name, hname, lowerWithin_append, lowerWithin_append, hpart]
  simp only [List.nil_append, List.append_nil]
  exact List.infix_append _ _ _

end Text

namespace Directory

theorem occursIn_iff {part cs : List Char} : occursIn part cs = true ↔ part <:+: cs := by
  induction cs with
  | nil => simp [occursIn]
  | cons c cs ih =>
    rw [occursIn, Bool.or_eq_true, ih, List.isPrefixOf_iff_prefix, List.infix_cons_iff]

variable {d : Directory} {t : Taxpayer} {text : String}

theorem search_eq_filter (h : (Text.trim text).toList ≠ []) :
    d.search text = d.entries.filter fun t =>
      occursIn (Text.lowercase (Text.trim text)).toList (Text.lowercase t.name).toList := by
  rw [search, if_neg (by simpa using Text.lowercase_ne_nil h)]

/-- What a search for a text that is not blank finds: taxpayers of the directory, in its order and
each as often as it is there; among them everybody whose name holds the text, unless one of the
text's capital sigmas ends a word in the text and not in the name, or in the name and not in the
text; and the same ones for every text that is the same in lower case. -/
theorem search_finds (d : Directory) (text : String) (h : (Text.trim text).toList ≠ []) :
    (d.search text).Sublist d.entries ∧
    (∀ t ∈ d.search text, (d.search text).count t = d.entries.count t) ∧
    (∀ t ∈ d.entries, ∀ left right, t.name.toList = left ++ (Text.trim text).toList ++ right →
      (∀ a b, (Text.trim text).toList = a ++ 'Σ' :: b →
        Text.endsWord (left ++ a) (b ++ right) = Text.endsWord a b) →
      t ∈ d.search text) ∧
    (∀ other, Text.lowercase (Text.trim other) = Text.lowercase (Text.trim text) →
      d.search other = d.search text) := by
  rw [search_eq_filter h]
  refine ⟨List.filter_sublist, fun t ht => ?_, fun t ht left right hname hsigma => ?_, ?_⟩
  · exact List.count_filter (List.mem_filter.1 ht).2
  · exact List.mem_filter.2 ⟨ht, occursIn_iff.2 (Text.lowercase_infix hname hsigma)⟩
  · intro other hsame
    rw [← search_eq_filter h, search, search, hsame]

/-- Two taxpayers with a capital sigma in their names, one of them registered twice. -/
def register : Directory where
  entries := [
    { nif := "1234567A", name := "ΚΩΝΣΤΑΝΤΙΝΟΣ" },
    { nif := "7654321B", name := "ΝΙΚΟΣ" },
    { nif := "1234567A", name := "ΚΩΝΣΤΑΝΤΙΝΟΣ" }]

/-- A name is found by a part without a capital sigma, and as a whole, where its sigmas end the
words that they end in the name. -/
theorem search_finds_register :
    (Text.trim " ΚΩΝ").toList ≠ [] ∧
      ⟨"1234567A", "ΚΩΝΣΤΑΝΤΙΝΟΣ", none, none⟩ ∈ register.search " ΚΩΝ" ∧
      (register.search " ΚΩΝ").count ⟨"1234567A", "ΚΩΝΣΤΑΝΤΙΝΟΣ", none, none⟩ = 2 ∧
      register.search "κων " = register.search " ΚΩΝ" ∧
    (Text.trim "ΝΙΚΟΣ ").toList ≠ [] ∧
      ⟨"7654321B", "ΝΙΚΟΣ", none, none⟩ ∈ register.search "ΝΙΚΟΣ " ∧
      (register.search "ΝΙΚΟΣ ").Sublist register.entries := by
  have hpart : Text.trim " ΚΩΝ" = "ΚΩΝ" := by decide +kernel
  have hwhole : Text.trim "ΝΙΚΟΣ " = "ΝΙΚΟΣ" := by decide +kernel
  have hpartBlank : (Text.trim " ΚΩΝ").toList ≠ [] := by decide +kernel
  have hwholeBlank : (Text.trim "ΝΙΚΟΣ ").toList ≠ [] := by decide +kernel
  obtain ⟨-, hcount, hfinds, hsame⟩ := search_finds register " ΚΩΝ" hpartBlank
  obtain ⟨hsublist, -, hfindsWhole, -⟩ := search_finds register "ΝΙΚΟΣ " hwholeBlank
  have hfound : ⟨"1234567A", "ΚΩΝΣΤΑΝΤΙΝΟΣ", none, none⟩ ∈ register.search " ΚΩΝ" := by
    refine hfinds _ (by decide +kernel) [] "ΣΤΑΝΤΙΝΟΣ".toList (by decide +kernel) fun a b hs => ?_
    have hsigma : 'Σ' ∈ (Text.trim " ΚΩΝ").toList := by
      rw [hs]
      exact List.mem_append_right _ (List.mem_cons_self ..)
    exact absurd hsigma (by decide +kernel)
  refine ⟨hpartBlank, hfound, ?_, hsame _ (by decide +kernel), hwholeBlank, ?_, hsublist⟩
  · rw [hcount _ hfound]
    decide +kernel
  · refine hfindsWhole _ (by decide +kernel) [] [] (by decide +kernel) fun a b _ => ?_
    rw [List.nil_append, List.append_nil]

end Directory

end Dialogue
