import Dialogue.Text.Blank
import Mathlib.Data.List.Basic
import Mathlib.Data.List.TakeWhile

namespace Dialogue

namespace Text

def Blank (cs : List Char) : Prop := ∀ c ∈ cs, isBlank c = true

theorem blank_nil : Blank [] := by simp [Blank]

theorem blank_space : Blank [' '] := by simp [Blank, isBlank]

/-- No white space at either end. -/
structure Bare (cs : List Char) : Prop where
  head : ∀ c ∈ cs.head?, isBlank c = false
  last : ∀ c ∈ cs.getLast?, isBlank c = false

theorem bare_of_all {cs : List Char} (hhead : cs.head?.all (!isBlank ·) = true)
    (hlast : cs.getLast?.all (!isBlank ·) = true) : Bare cs :=
  ⟨fun c hc => by simpa using (Option.all_eq_true _ _).1 hhead c hc,
    fun c hc => by simpa using (Option.all_eq_true _ _).1 hlast c hc⟩

theorem bare_of_forall {cs : List Char} (h : ∀ c ∈ cs, isBlank c = false) : Bare cs :=
  ⟨fun c hc => h c (List.mem_of_mem_head? hc), fun c hc => h c (List.mem_of_getLast? hc)⟩

theorem trimLeft_append {left cs : List Char} (hleft : Blank left)
    (hhead : ∀ c ∈ cs.head?, isBlank c = false) : trimLeft (left ++ cs) = cs := by
  rw [trimLeft, List.dropWhile_append_of_pos hleft]
  cases cs with
  | nil => rfl
  | cons c cs => rw [List.dropWhile_cons_of_neg (by simp [hhead c rfl])]

/-- White space at both ends is all that trimming takes away. -/
theorem trimChars_append {left cs right : List Char} (hleft : Blank left) (hcs : Bare cs)
    (hright : Blank right) : trimChars (left ++ (cs ++ right)) = cs := by
  have htrim : trimRight (cs ++ right) = cs := by
    have hreverse : ∀ c ∈ right.reverse, isBlank c = true := by simpa [Blank] using hright
    rw [trimRight, List.reverse_append, List.dropWhile_append_of_pos hreverse]
    cases hrev : cs.reverse with
    | nil => simpa using hrev
    | cons c rest =>
      have hc : isBlank c = false := hcs.last c (by rw [← List.head?_reverse, hrev]; rfl)
      rw [List.dropWhile_cons_of_neg (by simp [hc]), ← hrev, List.reverse_reverse]
  cases cs with
  | nil =>
    have hblank : Blank (left ++ right) := List.forall_mem_append.2 ⟨hleft, hright⟩
    rw [List.nil_append, trimChars, trimLeft, List.dropWhile_eq_nil_iff.2 hblank]
    rfl
  | cons c cs => rw [trimChars, trimLeft_append hleft (by simpa using hcs.head), htrim]

theorem exists_trimLeft (cs : List Char) : ∃ left, cs = left ++ trimLeft cs ∧ Blank left ∧
    ∀ c ∈ (trimLeft cs).head?, isBlank c = false := by
  refine ⟨cs.takeWhile isBlank, List.takeWhile_append_dropWhile.symm,
    List.all_eq_true.1 List.all_takeWhile, fun c hc => ?_⟩
  have := List.head?_dropWhile_not isBlank cs
  rw [← trimLeft, Option.mem_def.1 hc] at this
  simpa using this

theorem Bare.trimChars_eq {cs : List Char} (h : Bare cs) : trimChars cs = cs := by
  simpa using trimChars_append blank_nil h blank_nil

/-- Every text is what trimming leaves, between white space. -/
theorem exists_trimChars (cs : List Char) : ∃ left right, cs = left ++ (trimChars cs ++ right) ∧
    Blank left ∧ Bare (trimChars cs) ∧ Blank right := by
  obtain ⟨left, hcs, hleft, hhead⟩ := exists_trimLeft cs
  obtain ⟨right, hrev, hright, hlast⟩ := exists_trimLeft (trimLeft cs).reverse
  have hsplit : trimLeft cs = trimChars cs ++ right.reverse := by
    rw [trimChars, trimRight, ← trimLeft, ← List.reverse_append, ← hrev, List.reverse_reverse]
  refine ⟨left, right.reverse, by rw [← hsplit, ← hcs], hleft, ⟨fun c hc => hhead c ?_, ?_⟩, ?_⟩
  · rw [hsplit]
    exact List.mem_head?_append_of_mem_head? hc
  · rw [trimChars, trimRight, List.getLast?_reverse, ← trimLeft]
    exact hlast
  · simpa [Blank] using hright

theorem bare_trim (s : String) : Bare (trim s).toList := by
  obtain ⟨left, right, -, -, hbare, -⟩ := exists_trimChars s.toList
  rwa [trim, String.toList_ofList]

theorem Bare.trim_eq {s : String} (h : Bare s.toList) : trim s = s := by
  rw [trim, h.trimChars_eq, String.ofList_toList]

end Text

end Dialogue
