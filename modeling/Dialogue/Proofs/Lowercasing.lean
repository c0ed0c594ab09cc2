import Dialogue.Text.Lowercase

namespace Dialogue.Text

namespace Casing

abbrev Run := Nat × Nat × Nat × Int

namespace Run

variable {r q : Run} {n : Nat}

def holds (r : Run) (n : Nat) : Bool := r.1 ≤ n && n ≤ r.2.1 && (n - r.1) % r.2.2.1 == 0

def form (r : Run) (n : Nat) : Nat := (n + r.2.2.2).toNat

def members (r : Run) : List Nat :=
  (List.range ((r.2.1 - r.1) / r.2.2.1 + 1)).map (r.1 + r.2.2.1 * ·)

def avoids (r q : Run) : Bool :=
  Nat.blt q.2.1 (r.form r.1) || Nat.blt (r.form r.2.1) q.1 ||
    r.members.all fun n => !q.holds (r.form n)

theorem holds_iff : r.holds n = true ↔ r.1 ≤ n ∧ n ≤ r.2.1 ∧ (n - r.1) % r.2.2.1 = 0 := by
  simp [holds, and_assoc]

theorem form_le_form {m : Nat} (h : m ≤ n) : r.form m ≤ r.form n := by
  unfold form
  omega

theorem mem_members_of_holds (h : r.holds n = true) : n ∈ r.members := by
  obtain ⟨hlow, hhigh, hstep⟩ := holds_iff.1 h
  have hindex : (n - r.1) / r.2.2.1 < (r.2.1 - r.1) / r.2.2.1 + 1 :=
    Nat.lt_succ_of_le (Nat.div_le_div_right (Nat.sub_le_sub_right hhigh _))
  have hmember : r.1 + r.2.2.1 * ((n - r.1) / r.2.2.1) = n := by
    rw [Nat.mul_div_cancel' (Nat.dvd_of_mod_eq_zero hstep)]
    exact Nat.add_sub_of_le hlow
  rw [← hmember]
  exact List.mem_map_of_mem (List.mem_range.2 hindex)

theorem holds_form_of_avoids (h : r.avoids q = true) (hn : r.holds n = true) :
    q.holds (r.form n) = false := by
  obtain ⟨hlow, hhigh, -⟩ := holds_iff.1 hn
  have hfirst : r.form r.1 ≤ r.form n := form_le_form hlow
  have hlast : r.form n ≤ r.form r.2.1 := form_le_form hhigh
  rw [Bool.eq_false_iff, Ne, holds_iff]
  simp only [avoids, Bool.or_eq_true, Nat.blt_eq, List.all_eq_true, Bool.not_eq_true'] at h
  rcases h with (h | h) | h
  · omega
  · omega
  · have hnot := h n (mem_members_of_holds hn)
    rwa [Bool.eq_false_iff, Ne, holds_iff] at hnot

end Run

/-- The runs of all characters with another lowercase form. The dotted capital I is apart, its form
being two characters. -/
def changed : List Run := (0x130, 0x130, 1, 0) :: lowerRuns

theorem avoids_changed : (lowerRuns.all fun r => changed.all (Run.avoids r)) = true := by
  decide +kernel

theorem holds_form {r q : Run} {n : Nat} (hr : r ∈ lowerRuns) (hq : q ∈ changed)
    (hn : r.holds n = true) : q.holds (r.form n) = false := by
  apply Run.holds_form_of_avoids _ hn
  exact List.all_eq_true.1 (List.all_eq_true.1 avoids_changed r hr) q hq

end Casing

open Casing

theorem lowerChar_cases (c : Char) :
    (c.toNat < 0x80 ∧ lowerChar c = [c.toLower]) ∨
    (c.toNat = 0x130 ∧ lowerChar c = ['i', Char.ofNat 0x307]) ∨
    (∃ r ∈ lowerRuns, Run.holds r c.toNat = true ∧
      lowerChar c = [Char.ofNat (Run.form r c.toNat)]) ∨
    ((∀ r ∈ lowerRuns, Run.holds r c.toNat = false) ∧ lowerChar c = [c]) := by
  simp only [lowerChar]
  by_cases hascii : c.toNat < 0x80
  · exact .inl ⟨hascii, if_pos hascii⟩
  · rw [if_neg hascii]
    by_cases hdotted : c.toNat = 0x130
    · exact .inr (.inl ⟨hdotted, if_pos hdotted⟩)
    · rw [if_neg hdotted]
      split
      · rename_i r hfind
        have hholds : Run.holds r c.toNat = true :=
          List.find?_some (p := (Run.holds · c.toNat)) hfind
        exact .inr (.inr (.inl ⟨r, List.mem_of_find?_eq_some hfind, hholds, rfl⟩))
      · rename_i hfind
        refine .inr (.inr (.inr ⟨fun r hr => ?_, rfl⟩))
        exact Bool.eq_false_iff.2 (List.find?_eq_none.1 hfind r hr)

/-- A character that is its own lowercase form. -/
def IsLower (c : Char) : Prop := lowerChar c = [c]

instance : DecidablePred IsLower := fun c => decEq (lowerChar c) [c]

theorem IsLower.ne_sigma {c : Char} (h : IsLower c) : c ≠ 'Σ' := by
  rintro rfl
  revert h
  decide +kernel

/-- The capitals of ASCII are a run of the table too. -/
theorem toLower_of_holds {c : Char} (h : ∀ r ∈ lowerRuns, Run.holds r c.toNat = false) :
    c.toLower = c := by
  have hletter : Run.holds (0x41, 0x5a, 1, 32) c.toNat = false := h _ (List.mem_cons_self ..)
  rw [Bool.eq_false_iff, Ne, Run.holds_iff] at hletter
  unfold Char.toLower
  split
  · rename_i hcapital
    exact absurd ⟨hcapital.1, hcapital.2, Nat.mod_one _⟩ hletter
  · rfl

theorem toNat_ofNat (n : Nat) : (Char.ofNat n).toNat = n ∨ Char.ofNat n = '\x00' := by
  by_cases hn : n.isValidChar
  · left
    rw [Char.ofNat, dif_pos hn]
    rfl
  · right
    rw [Char.ofNat, dif_neg hn]
    rfl

theorem isLower_of_holds {c : Char} (h : ∀ r ∈ changed, Run.holds r c.toNat = false) :
    IsLower c := by
  unfold IsLower
  obtain ⟨-, hlower⟩ | ⟨hdotted, -⟩ | ⟨r, hr, hholds, -⟩ | ⟨-, hlower⟩ := lowerChar_cases c
  · rw [hlower, toLower_of_holds fun r hr => h r (List.mem_cons_of_mem _ hr)]
  · have hnot := h _ (List.mem_cons_self ..)
    rw [hdotted] at hnot
    cases hnot
  · have hnot := h r (List.mem_cons_of_mem _ hr)
    cases hnot.symm.trans hholds
  · exact hlower

theorem isLower_of_all {c : Char} (h : (changed.all fun r => !Run.holds r c.toNat) = true) :
    IsLower c := by
  apply isLower_of_holds
  intro r hr
  simpa using List.all_eq_true.1 h r hr

theorem isLower_of_mem_lowerChar {c d : Char} (h : d ∈ lowerChar c) : IsLower d := by
  obtain ⟨hascii, hlower⟩ | ⟨-, hlower⟩ | ⟨r, hr, hholds, hlower⟩ | ⟨hnone, hlower⟩ :=
    lowerChar_cases c
  · have hall : ∀ n < 0x80, IsLower (Char.ofNat n).toLower := by decide +kernel
    rw [hlower, List.mem_singleton] at h
    rw [h, ← Char.ofNat_toNat c]
    exact hall c.toNat hascii
  · simp only [hlower, List.mem_cons, List.not_mem_nil, or_false] at h
    obtain rfl | rfl := h
    · exact isLower_of_all (by decide +kernel)
    · exact isLower_of_all (by decide +kernel)
  · rw [hlower, List.mem_singleton] at h
    obtain hvalid | hnull := toNat_ofNat (Run.form r c.toNat)
    · apply isLower_of_holds
      intro q hq
      rw [h, hvalid]
      exact holds_form hr hq hholds
    · rw [h, hnull]
      exact isLower_of_all (by decide +kernel)
  · rw [hlower, List.mem_singleton] at h
    subst h
    exact hlower

theorem isLower_of_mem_lowerFrom {before cs : List Char} {d : Char} (h : d ∈ lowerFrom before cs) :
    IsLower d := by
  induction cs generalizing before with
  | nil => simp [lowerFrom] at h
  | cons c cs ih =>
    unfold lowerFrom at h
    split at h
    · obtain rfl | h := List.mem_cons.1 h
      · split
        · exact isLower_of_all (by decide +kernel)
        · exact isLower_of_all (by decide +kernel)
      · exact ih h
    · obtain h | h := List.mem_append.1 h
      · exact isLower_of_mem_lowerChar h
      · exact ih h

theorem lowerFrom_of_isLower {cs : List Char} (h : ∀ c ∈ cs, IsLower c) (before : List Char) :
    lowerFrom before cs = cs := by
  induction cs generalizing before with
  | nil => rfl
  | cons c cs ih =>
    obtain ⟨hc, hcs⟩ := List.forall_mem_cons.1 h
    rw [lowerFrom, if_neg hc.ne_sigma, hc, ih hcs, List.singleton_append]

theorem lowercase_lowercase (s : String) : lowercase (lowercase s) = lowercase s := by
  have hlower : ∀ c ∈ (lowercase s).toList, IsLower c := by
    intro c hc
    rw [lowercase, String.toList_ofList] at hc
    exact isLower_of_mem_lowerFrom hc
  rw [lowercase, lowerFrom_of_isLower hlower, String.ofList_toList]

end Dialogue.Text
