import Dialogue.Proofs.Paths
import Dialogue.Template

namespace Dialogue

namespace Template

/-- A placeholder: its path in double braces, between white space or not. -/
inductive Placeholder : List Char → List Char → Prop
  | mk {left path right : List Char} (hleft : Text.Blank left) (hpath : Path.Dotted path)
      (hright : Text.Blank right) :
      Placeholder path ('\x7b' :: '\x7b' :: (left ++ (path ++ (right ++ ['\x7d', '\x7d']))))

section Placeholders

variable {path path' source source' rest cs : List Char}

theorem Placeholder.dotted (h : Placeholder path source) : Path.Dotted path := by
  cases h with
  | mk hleft hpath hright => exact hpath

theorem Placeholder.bare (h : Placeholder path source) : Text.Bare source := by
  cases h with
  | @mk left path right hleft hpath hright =>
    apply Text.bare_of_all
    · rfl
    · have hlast : ('\x7b' :: '\x7b' :: (left ++ (path ++ (right ++ ['\x7d', '\x7d'])))).getLast? =
          some '\x7d' := by
        simp [List.getLast?_cons, List.getLast?_append]
      rw [hlast]
      rfl

theorem Placeholder.ne_nil (h : Placeholder path source) : source ≠ [] := by
  cases h with
  | mk hleft hpath hright => simp

theorem Placeholder.placeholder?_append (h : Placeholder path source) (rest : List Char) :
    placeholder? (source ++ rest) = some (path, rest) := by
  cases h with
  | @mk left path right hleft hpath hright =>
    have hends : Path.EndsBefore (right ++ '\x7d' :: '\x7d' :: rest) := by
      apply Path.endsBefore_gap hright
      rintro - c ⟨⟩
      exact ⟨by decide, by decide⟩
    have htake := Path.take?_trimLeft hleft hpath hends
    have hclose : Text.trimLeft (right ++ '\x7d' :: '\x7d' :: rest) = '\x7d' :: '\x7d' :: rest := by
      apply Text.trimLeft_append hright
      rintro c ⟨⟩
      rfl
    simp only [List.cons_append, List.append_assoc, List.nil_append, placeholder?, htake, hclose]

theorem placeholder?_spec (h : placeholder? cs = some (path, rest)) :
    ∃ source, Placeholder path source ∧ cs = source ++ rest := by
  unfold placeholder? at h
  split at h
  · split at h
    · rename_i inside path more htake
      split at h
      · rename_i after hclose
        cases h
        obtain ⟨left, rfl, hleft, hpath⟩ := Path.take?_trimLeft_spec htake
        obtain ⟨right, hmore, hright, -⟩ := Text.exists_trimLeft more
        rw [hclose] at hmore
        exact ⟨_, .mk hleft hpath hright, by simp [hmore]⟩
      · cases h
    · cases h
  · cases h

theorem placeholder?_eq_none_iff : placeholder? cs = none ↔
    ∀ path source, Placeholder path source → ¬ source <+: cs := by
  constructor
  · rintro hnone path source h ⟨rest, rfl⟩
    rw [h.placeholder?_append] at hnone
    cases hnone
  · intro hstarts
    cases hcs : placeholder? cs with
    | none => rfl
    | some found =>
      obtain ⟨source, h, rfl⟩ := placeholder?_spec hcs
      exact absurd (List.prefix_append source _) (hstarts _ source h)

theorem Placeholder.unique (h : Placeholder path source) (h' : Placeholder path' source')
    {rest' : List Char} (heq : source ++ rest = source' ++ rest') :
    path = path' ∧ source = source' ∧ rest = rest' := by
  have hread := h.placeholder?_append rest
  rw [heq, h'.placeholder?_append rest'] at hread
  cases hread
  exact ⟨rfl, List.append_cancel_right heq, rfl⟩

/-- A template is a reference exactly when it is one placeholder, but for the white space around
it. -/
theorem parse_eq_reference_iff {raw path : String} :
    parse raw = .reference path ↔ Placeholder path.toList (Text.trimChars raw.toList) := by
  constructor
  · intro h
    unfold parse at h
    split at h
    · rename_i chars rest hfound
      split at h
      · rename_i hrest
        cases h
        obtain ⟨source, hsource, hsplit⟩ := placeholder?_spec hfound
        obtain ⟨left, hraw, hleft, -⟩ := Text.exists_trimLeft raw.toList
        have hblank : Text.Blank rest := List.dropWhile_eq_nil_iff.1 (List.isEmpty_iff.1 hrest)
        rw [hraw, hsplit, Text.trimChars_append hleft hsource.bare hblank, String.toList_ofList]
        exact hsource
      · cases h
    · cases h
  · intro h
    obtain ⟨left, right, hraw, hleft, hbare, hright⟩ := Text.exists_trimChars raw.toList
    -- What trimming leaves begins with a brace, so trimming the left end stops there.
    have hhead : ∀ c ∈ (Text.trimChars raw.toList ++ right).head?, Text.isBlank c = false := by
      intro c hc
      rw [List.head?_append_of_ne_nil _ h.ne_nil] at hc
      exact hbare.head c hc
    have hrest : Text.trimLeft right = [] := List.dropWhile_eq_nil_iff.2 hright
    have htrim : Text.trimLeft raw.toList = Text.trimChars raw.toList ++ right := by
      conv_lhs => rw [hraw]
      exact Text.trimLeft_append hleft hhead
    rw [parse, htrim, h.placeholder?_append]
    simp [hrest]

theorem eq_of_parse_literal {raw text : String} (h : parse raw = .literal text) : text = raw := by
  unfold parse at h
  split at h
  · split at h
    · cases h
    · exact (Template.literal.inj h).symm
  · exact (Template.literal.inj h).symm

end Placeholders

/-- A piece of a text: a character, or a placeholder with its path. -/
inductive Piece where
  | char (c : Char)
  | hole (path : String) (source : List Char)

namespace Piece

def source : Piece → List Char
  | .char c => [c]
  | .hole _ source => source

def path? : Piece → Option String
  | .char _ => none
  | .hole path _ => some path

/-- A piece as it is shown: a character is copied, and a placeholder gives way to the value its path
leads to, or to nothing. -/
def shown (vars : Record) : Piece → List Char
  | .char c => [c]
  | .hole path _ => (vars.lookup? path).elim [] fun v => v.display.toList

end Piece

/-- The pieces of a text, read from left to right: a placeholder wherever one starts, and a
character elsewhere. -/
inductive Reads : List Char → List Piece → Prop
  | nil : Reads [] []
  | hole {path : String} {source rest : List Char} {pieces : List Piece}
      (hsource : Placeholder path.toList source) (hrest : Reads rest pieces) :
      Reads (source ++ rest) (.hole path source :: pieces)
  | char {c : Char} {rest : List Char} {pieces : List Piece}
      (hnone : ∀ path source, Placeholder path source → ¬ source <+: c :: rest)
      (hrest : Reads rest pieces) : Reads (c :: rest) (.char c :: pieces)

section Readings

variable {cs cs' : List Char} {pieces pieces' : List Piece}

theorem exists_reads (cs : List Char) : ∃ pieces, Reads cs pieces := by
  induction hlength : cs.length using Nat.strong_induction_on generalizing cs with
  | _ n ih =>
    subst hlength
    cases hfound : placeholder? cs with
    | some found =>
      obtain ⟨source, hsource, rfl⟩ := placeholder?_spec hfound
      have hshort : found.2.length < (source ++ found.2).length := by
        have := List.length_pos_iff.2 hsource.ne_nil
        rw [List.length_append]
        omega
      obtain ⟨pieces, hpieces⟩ := ih _ hshort _ rfl
      rw [← String.toList_ofList (l := found.1)] at hsource
      exact ⟨_, .hole hsource hpieces⟩
    | none =>
      cases cs with
      | nil => exact ⟨[], .nil⟩
      | cons c rest =>
        obtain ⟨pieces, hpieces⟩ := ih rest.length (Nat.lt_succ_self _) rest rfl
        exact ⟨_, .char (placeholder?_eq_none_iff.1 hfound) hpieces⟩

theorem Reads.unique (h : Reads cs pieces) (h' : Reads cs' pieces') (heq : cs = cs') :
    pieces = pieces' := by
  induction h generalizing cs' pieces' with
  | nil =>
    cases h' with
    | nil => rfl
    | hole hsource hrest => exact absurd (List.append_eq_nil_iff.1 heq.symm).1 hsource.ne_nil
    | char hnone hrest => cases heq
  | hole hsource hrest ih =>
    cases h' with
    | nil => exact absurd (List.append_eq_nil_iff.1 heq).1 hsource.ne_nil
    | hole hsource' hrest' =>
      obtain ⟨hpath, rfl, hmore⟩ := hsource.unique hsource' heq
      rw [String.toList_injective hpath, ih hrest' hmore]
    | char hnone hrest' => exact absurd ⟨_, heq⟩ (hnone _ _ hsource)
  | char hnone hrest ih =>
    cases h' with
    | nil => cases heq
    | hole hsource hrest' => exact absurd ⟨_, heq.symm⟩ (hnone _ _ hsource)
    | char hnone' hrest' =>
      obtain ⟨rfl, hmore⟩ := List.cons.inj heq
      rw [ih hrest' hmore]

theorem Reads.flatMap_source (h : Reads cs pieces) : pieces.flatMap Piece.source = cs := by
  induction h with
  | nil => rfl
  | hole hsource hrest ih => rw [List.flatMap_cons, ih, Piece.source]
  | char hnone hrest ih => rw [List.flatMap_cons, ih, Piece.source, List.singleton_append]

theorem shown_eq (vars : Record) (path : String) (source : List Char) :
    shown vars path.toList = Piece.shown vars (.hole path source) := by
  rw [shown, String.ofList_toList, Piece.shown]
  cases vars.lookup? path with
  | none => rfl
  | some v => rfl

theorem Reads.fill_eq (h : Reads cs pieces) (vars : Record) {fuel : Nat}
    (hfuel : cs.length ≤ fuel) : fill vars fuel cs = pieces.flatMap (Piece.shown vars) := by
  induction h generalizing fuel with
  | nil =>
    cases fuel with
    | zero => rfl
    | succ fuel => rfl
  | @hole path source rest pieces hsource hrest ih =>
    obtain ⟨c, more, rfl⟩ := List.exists_cons_of_ne_nil hsource.ne_nil
    have hfound := hsource.placeholder?_append rest
    rw [List.cons_append, List.length_cons, List.length_append] at hfuel
    obtain ⟨fuel, rfl⟩ : ∃ n, fuel = n + 1 := ⟨fuel - 1, by omega⟩
    have hmore : rest.length ≤ fuel := by omega
    rw [List.cons_append] at hfound ⊢
    rw [fill, hfound, List.flatMap_cons, ← ih hmore, ← shown_eq]
  | @char c rest pieces hnone hrest ih =>
    rw [List.length_cons] at hfuel
    obtain ⟨fuel, rfl⟩ : ∃ n, fuel = n + 1 := ⟨fuel - 1, by omega⟩
    have hmore : rest.length ≤ fuel := by omega
    rw [fill, placeholder?_eq_none_iff.2 hnone, List.flatMap_cons, ← ih hmore, Piece.shown,
      List.singleton_append]

theorem Reads.renderText_eq {text : String} (h : Reads text.toList pieces) (vars : Record) :
    (renderText text vars).toList = pieces.flatMap (Piece.shown vars) := by
  rw [renderText, String.toList_ofList, h.fill_eq vars (Nat.le_refl _)]

/-- Pieces that name paths where two records agree are shown alike. -/
theorem flatMap_shown_congr {vars vars' : Record}
    (h : ∀ path ∈ pieces.filterMap Piece.path?, vars.lookup? path = vars'.lookup? path) :
    pieces.flatMap (Piece.shown vars) = pieces.flatMap (Piece.shown vars') := by
  apply List.flatMap_congr
  intro piece hpiece
  cases piece with
  | char c => rfl
  | hole path source =>
    have hnamed : path ∈ pieces.filterMap Piece.path? := List.mem_filterMap.2 ⟨_, hpiece, rfl⟩
    simp only [Piece.shown, h path hnamed]

end Readings

/-- A text is rendered in a single pass. There is exactly one way to read it, which no variables
have a part in; its pieces make up the text, and rendering shows them one after the other. So two
records that agree on the paths named in the text give the same. -/
theorem renderText_single_pass (text : String) :
    ∃ pieces, (∀ pieces', Reads text.toList pieces' ↔ pieces' = pieces) ∧
      pieces.flatMap Piece.source = text.toList ∧
      (∀ vars, (renderText text vars).toList = pieces.flatMap (Piece.shown vars)) ∧
      ∀ vars vars' : Record,
        (∀ path ∈ pieces.filterMap Piece.path?, vars.lookup? path = vars'.lookup? path) →
          renderText text vars = renderText text vars' := by
  obtain ⟨pieces, hpieces⟩ := exists_reads text.toList
  refine ⟨pieces, fun pieces' => ⟨fun h => h.unique hpieces rfl, ?_⟩, hpieces.flatMap_source,
    hpieces.renderText_eq, ?_⟩
  · rintro rfl
    exact hpieces
  · intro vars vars' hagree
    apply String.toList_injective
    rw [hpieces.renderText_eq vars, hpieces.renderText_eq vars', flatMap_shown_congr hagree]

/-- What looks like a placeholder is none, or a value that is not read again. -/
example : renderText "\x7b\x7b\x7b a \x7d\x7d\x7d \x7b\x7b a" [("a", .text "\x7b\x7b b \x7d\x7d")] =
    "\x7b\x7b\x7b b \x7d\x7d\x7d \x7b\x7b a" := by decide +kernel

/-- A template means the same as a parameter and as a text. It is a reference exactly when it is one
placeholder, but for the white space around it; then the value it stands for is shown as the text
without that white space is rendered. Every other template stands for its rendered text. -/
theorem parse_agrees_with_renderText (raw : String) :
    (∀ path, parse raw = .reference path ↔ Placeholder path.toList (Text.trim raw).toList) ∧
      (∀ path, parse raw = .reference path → ∀ vars,
        ((parse raw).resolve vars).display = renderText (Text.trim raw) vars) ∧
      ∀ text, parse raw = .literal text → ∀ vars,
        (parse raw).resolve vars = .text (renderText raw vars) := by
  have htrim : (Text.trim raw).toList = Text.trimChars raw.toList := String.toList_ofList ..
  refine ⟨?_, ?_, ?_⟩
  · intro path
    rw [htrim]
    exact parse_eq_reference_iff
  · intro path hparse vars
    have hsource := parse_eq_reference_iff.1 hparse
    have hreads : Reads (Text.trim raw).toList [.hole path (Text.trimChars raw.toList)] := by
      simpa [htrim] using Reads.hole hsource .nil
    apply String.toList_injective
    rw [hreads.renderText_eq, hparse, resolve, List.flatMap_singleton, Piece.shown]
    cases vars.lookup? path with
    | none => rfl
    | some v => rfl
  · intro text hparse vars
    rw [hparse, resolve, eq_of_parse_literal hparse]

end Template

end Dialogue
