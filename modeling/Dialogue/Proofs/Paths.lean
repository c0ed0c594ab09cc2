import Dialogue.Path
import Dialogue.Proofs.Trimming

namespace Dialogue

namespace Path

structure IsName (cs : List Char) : Prop where
  ne_nil : cs ≠ []
  isNameChar : ∀ c ∈ cs, isNameChar c = true

inductive Steps : List Char → Prop
  | nil : Steps []
  | cons {name rest : List Char} (hname : IsName name) (hrest : Steps rest) :
      Steps ('.' :: (name ++ rest))

inductive Dotted : List Char → Prop
  | mk {name rest : List Char} (hname : IsName name) (hrest : Steps rest) : Dotted (name ++ rest)

theorem IsName.dotted {name : List Char} (h : IsName name) : Dotted name := by
  simpa using Dotted.mk h .nil

theorem isBlank_of_isNameChar {c : Char} (h : isNameChar c = true) : Text.isBlank c = false := by
  have hbounds : 45 ≤ c.toNat ∧ c.toNat ≤ 122 := by
    simp only [isNameChar, Char.isAlphanum, Bool.or_eq_true, decide_eq_true_iff] at h
    rcases h with ((hletter | hdigit) | rfl) | rfl
    · rcases Bool.or_eq_true_iff.1 hletter with hupper | hlower
      · obtain ⟨hlow, hhigh⟩ : 65 ≤ c.toNat ∧ c.toNat ≤ 90 := of_decide_eq_true hupper
        omega
      · obtain ⟨hlow, hhigh⟩ : 97 ≤ c.toNat ∧ c.toNat ≤ 122 :=
          (Bool.and_eq_true_iff.1 hlower).imp of_decide_eq_true of_decide_eq_true
        omega
    · obtain ⟨hlow, hhigh⟩ : 48 ≤ c.toNat ∧ c.toNat ≤ 57 :=
        (Bool.and_eq_true_iff.1 hdigit).imp of_decide_eq_true of_decide_eq_true
      omega
    · decide
    · decide
  simp only [Text.isBlank, Bool.or_eq_false_iff, Bool.and_eq_false_iff, decide_eq_false_iff_not,
    beq_eq_false_iff_ne]
  omega

def EndsBefore (cs : List Char) : Prop := ∀ c ∈ cs.head?, isNameChar c = false ∧ c ≠ '.'

theorem Dotted.head {path : List Char} (h : Dotted path) :
    ∃ c more, path = c :: more ∧ isNameChar c = true := by
  obtain ⟨hname, hrest⟩ := h
  rename_i name rest
  cases name with
  | nil => exact absurd rfl hname.ne_nil
  | cons c name => exact ⟨c, name ++ rest, rfl, hname.isNameChar c (List.mem_cons_self ..)⟩

theorem endsBefore_of_isBlank {c : Char} (h : Text.isBlank c = true) (cs : List Char) :
    EndsBefore (c :: cs) := by
  rintro c ⟨⟩
  constructor
  · by_contra hname
    rw [Bool.not_eq_false] at hname
    rw [isBlank_of_isNameChar hname] at h
    cases h
  · rintro rfl
    cases h

theorem endsBefore_gap {gap rest : List Char} (hgap : Text.Blank gap)
    (hrest : gap = [] → EndsBefore rest) : EndsBefore (gap ++ rest) := by
  cases gap with
  | nil => exact hrest rfl
  | cons c gap => exact endsBefore_of_isBlank (hgap c (List.mem_cons_self ..)) _

theorem exists_name (cs : List Char) : ∃ name rest, takeName cs = (name, rest) ∧ cs = name ++ rest ∧
    ∀ c ∈ name, isNameChar c = true :=
  ⟨_, _, rfl, List.takeWhile_append_dropWhile.symm, List.all_eq_true.1 List.all_takeWhile⟩

theorem takeName_append {name rest : List Char} (hname : ∀ c ∈ name, isNameChar c = true)
    (hrest : ∀ c ∈ rest.head?, isNameChar c = false) : takeName (name ++ rest) = (name, rest) := by
  rw [takeName, List.takeWhile_append_of_pos hname, List.dropWhile_append_of_pos hname]
  cases rest with
  | nil => simp
  | cons c rest => simp [hrest c rfl]

/-- What is taken after the first name is names after dots. -/
theorem takeMore_spec (fuel : Nat) (cs : List Char) :
    Steps (takeMore fuel cs).1 ∧ cs = (takeMore fuel cs).1 ++ (takeMore fuel cs).2 := by
  induction fuel generalizing cs with
  | zero => exact ⟨.nil, rfl⟩
  | succ fuel ih =>
    unfold takeMore
    split
    · rename_i rest
      obtain ⟨name, more, htake, hrest, hname⟩ := exists_name rest
      rw [htake]
      split
      · exact ⟨.nil, rfl⟩
      · rename_i hne heq
        obtain ⟨rfl, rfl⟩ := Prod.mk.inj heq
        obtain ⟨hsteps, hmore⟩ := ih more
        refine ⟨.cons ⟨hne, hname⟩ hsteps, ?_⟩
        rw [hrest]
        simpa using hmore
    · exact ⟨.nil, rfl⟩

theorem Steps.head {cs : List Char} (h : Steps cs) : ∀ c ∈ cs.head?, c = '.' := by
  cases h with
  | nil =>
    rintro c ⟨⟩
  | cons hname hrest =>
    rintro c ⟨⟩
    rfl

theorem Steps.next {cs rest : List Char} (h : Steps cs) (hrest : EndsBefore rest) :
    ∀ c ∈ (cs ++ rest).head?, isNameChar c = false := by
  cases h with
  | nil => exact fun c hc => (hrest c hc).1
  | cons hname hsteps =>
    rintro c ⟨⟩
    rfl

/-- Names after dots are taken to their end. -/
theorem takeMore_append {steps rest : List Char} (hsteps : Steps steps) (hrest : EndsBefore rest)
    {fuel : Nat} (hfuel : steps.length ≤ fuel) : takeMore fuel (steps ++ rest) = (steps, rest) := by
  induction hsteps generalizing fuel with
  | nil =>
    cases fuel with
    | zero => rfl
    | succ fuel =>
      rw [List.nil_append]
      unfold takeMore
      split
      · exact absurd rfl (hrest '.' rfl).2
      · rfl
  | @cons name steps hname hsteps ih =>
    simp only [List.length_cons, List.length_append] at hfuel
    obtain ⟨fuel, rfl⟩ : ∃ n, fuel = n + 1 := ⟨fuel - 1, by omega⟩
    have hle : steps.length ≤ fuel := by omega
    have htail := ih hle
    have htake := takeName_append hname.isNameChar (hsteps.next hrest)
    rw [List.cons_append, List.append_assoc, takeMore, htake]
    split
    · rename_i heq
      exact absurd (Prod.mk.inj heq).1 hname.ne_nil
    · rename_i heq
      obtain ⟨rfl, rfl⟩ := Prod.mk.inj heq
      rw [htail]
      rfl

theorem take?_spec {cs path rest : List Char} (h : take? cs = some (path, rest)) :
    Dotted path ∧ cs = path ++ rest := by
  obtain ⟨name, more, htake, rfl, hname⟩ := exists_name cs
  rw [take?, htake] at h
  split at h
  · cases h
  · rename_i hne heq
    obtain ⟨rfl, rfl⟩ := Prod.mk.inj heq
    obtain ⟨hsteps, hmore⟩ := takeMore_spec more.length more
    cases h
    refine ⟨.mk ⟨hne, hname⟩ hsteps, ?_⟩
    rw [List.append_assoc, ← hmore]

theorem take?_append {path rest : List Char} (hpath : Dotted path) (hrest : EndsBefore rest) :
    take? (path ++ rest) = some (path, rest) := by
  obtain ⟨hname, hsteps⟩ := hpath
  rename_i name steps
  have htake := takeName_append hname.isNameChar (hsteps.next hrest)
  rw [List.append_assoc, take?, htake]
  split
  · rename_i heq
    exact absurd (Prod.mk.inj heq).1 hname.ne_nil
  · rename_i heq
    obtain ⟨rfl, rfl⟩ := Prod.mk.inj heq
    rw [takeMore_append hsteps hrest (by simp)]

/-- The white space, path and rest at the beginning of a text. -/
theorem take?_trimLeft {left path rest : List Char} (hleft : Text.Blank left)
    (hpath : Dotted path) (hrest : EndsBefore rest) :
    take? (Text.trimLeft (left ++ (path ++ rest))) = some (path, rest) := by
  rw [Text.trimLeft_append hleft, take?_append hpath hrest]
  obtain ⟨c, more, rfl, hc⟩ := hpath.head
  rintro c ⟨⟩
  exact isBlank_of_isNameChar hc

theorem take?_trimLeft_spec {cs path rest : List Char}
    (h : take? (Text.trimLeft cs) = some (path, rest)) :
    ∃ left, cs = left ++ (path ++ rest) ∧ Text.Blank left ∧ Dotted path := by
  obtain ⟨left, hcs, hleft, -⟩ := Text.exists_trimLeft cs
  obtain ⟨hpath, hsplit⟩ := take?_spec h
  exact ⟨left, by rw [← hsplit, ← hcs], hleft, hpath⟩

end Path

end Dialogue
