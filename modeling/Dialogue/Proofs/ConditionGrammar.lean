import Dialogue.Proofs.Admission
import Dialogue.Proofs.Literals
import Dialogue.Proofs.Paths

namespace Dialogue

namespace Operator

def IsComparison (op : Operator) : Prop := op ≠ .present ∧ op ≠ .absent

/-- Characters by which operators are told from white space and from literals other than texts. -/
def IsMark (c : Char) : Prop := c ∈ ['=', '<', '>', 'x']

theorem IsMark.isBlank {c : Char} (h : IsMark c) : Text.isBlank c = false := by
  simp only [IsMark, List.mem_cons, List.not_mem_nil, or_false] at h
  rcases h with rfl | rfl | rfl | rfl <;> rfl

theorem exists_mark (op : Operator) : ∃ c ∈ op.token.toList, IsMark c := by
  cases op with
  | gt => exact ⟨'>', by decide, by simp [IsMark]⟩
  | lt => exact ⟨'<', by decide, by simp [IsMark]⟩
  | present | absent => exact ⟨'x', by decide, by simp [IsMark]⟩
  | _ => exact ⟨'=', by decide, by simp [IsMark]⟩

end Operator

namespace Condition

open Numeral

/-- A question for presence: a path, white space and one of the two words. -/
inductive Asks : List Char → Condition → Prop
  | mk {left path gap right : List Char} {op : Operator} (hleft : Text.Blank left)
      (hpath : Path.Dotted path) (hgap : Text.Blank gap) (hne : gap ≠ [])
      (hop : ¬ op.IsComparison) (hright : Text.Blank right) :
      Asks (left ++ (path ++ (gap ++ (op.token.toList ++ right)))) ⟨String.ofList path, op, .null⟩

/-- A comparison of a path with a literal of some kind. -/
inductive Compares (literal : List Char → Value → Prop) : List Char → Condition → Prop
  | mk {left path gap gap' lit right : List Char} {op : Operator} {v : Value}
      (hleft : Text.Blank left) (hpath : Path.Dotted path) (hgap : Text.Blank gap)
      (hop : op.IsComparison) (hgap' : Text.Blank gap') (hlit : literal lit v)
      (hright : Text.Blank right) :
      Compares literal (left ++ (path ++ (gap ++ (op.token.toList ++ (gap' ++ (lit ++ right))))))
        ⟨String.ofList path, op, v⟩

/-- The documented grammar. -/
def Documented (text : String) (c : Condition) : Prop :=
  Asks text.toList c ∨ Compares Literal text.toList c

/-- The words of operators have no white space at their ends, and no path goes on with one that
compares. -/
theorem bare_token (op : Operator) : Text.Bare op.token.toList := by
  cases op <;> exact Text.bare_of_all (by decide) (by decide)

theorem endsBefore_token {op : Operator} (hop : op.IsComparison) (rest : List Char) :
    Path.EndsBefore (op.token.toList ++ rest) := by
  cases op with
  | present => exact absurd rfl hop.1
  | absent => exact absurd rfl hop.2
  | _ =>
    rintro c ⟨⟩
    exact ⟨by decide, by decide⟩

theorem trimLeft_token {gap : List Char} (hgap : Text.Blank gap) (op : Operator)
    (rest : List Char) : Text.trimLeft (gap ++ (op.token.toList ++ rest)) =
      op.token.toList ++ rest := by
  refine Text.trimLeft_append hgap ?_
  cases op <;> rintro c ⟨⟩ <;> decide

/-- What is said of presence: the word must be apart from the path. -/
theorem presence?_eq {left path rest : List Char} (hleft : Text.Blank left)
    (hpath : Path.Dotted path) (hrest : Path.EndsBefore rest) :
    presence? (left ++ (path ++ rest)) =
      if (Text.trimLeft rest).length = rest.length then none
      else if Text.trimChars rest = Operator.present.token.toList then
        some ⟨String.ofList path, .present, .null⟩
      else if Text.trimChars rest = Operator.absent.token.toList then
        some ⟨String.ofList path, .absent, .null⟩
      else none := by
  rw [presence?, Path.take?_trimLeft hleft hpath hrest]
  rfl

theorem presence?_eq_some_iff {cs : List Char} {c : Condition} :
    presence? cs = some c ↔ Asks cs c := by
  constructor
  · intro h
    unfold presence? at h
    split at h
    · rename_i path rest htake
      obtain ⟨left, rfl, hleft, hpath⟩ := Path.take?_trimLeft_spec htake
      obtain ⟨gap, right, hrest, hgap, -, hright⟩ := Text.exists_trimChars rest
      -- The blanks between path and word are what trimming took away.
      have hword : ∀ op : Operator, ¬ op.IsComparison → Text.trimChars rest = op.token.toList →
          (Text.trimLeft rest).length ≠ rest.length →
          Asks (left ++ (path ++ rest)) ⟨String.ofList path, op, .null⟩ := by
        intro op hop htoken hlength
        rw [htoken] at hrest
        rw [hrest, trimLeft_token hgap] at hlength
        rw [hrest]
        exact .mk hleft hpath hgap (fun h => hlength (by rw [h]; rfl)) hop hright
      simp only at h
      split_ifs at h with hlength hpresent habsent
      · cases h
        exact hword .present (fun h => h.1 rfl) hpresent hlength
      · cases h
        exact hword .absent (fun h => h.2 rfl) habsent hlength
    · cases h
  · rintro ⟨hleft, hpath, hgap, hne, hop, hright⟩
    rename_i left path gap right op
    have hends : Path.EndsBefore (gap ++ (op.token.toList ++ right)) :=
      Path.endsBefore_gap hgap fun h => absurd h hne
    have htrim := Text.trimChars_append hgap (bare_token op) hright
    have hlength : (op.token.toList ++ right).length ≠
        (gap ++ (op.token.toList ++ right)).length := by
      have := List.length_pos_iff.2 hne
      simp only [List.length_append]
      omega
    rw [presence?_eq hleft hpath hends, htrim, trimLeft_token hgap, if_neg hlength]
    cases op with
    | present => rfl
    | absent => rfl
    | _ => exact absurd ⟨by decide, by decide⟩ hop

theorem mem_operators {cs rest : List Char} {op : Operator} (h : (op, rest) ∈ operators cs) :
    op.IsComparison ∧ cs = op.token.toList ++ rest := by
  unfold operators at h
  split at h <;> simp only [List.mem_cons, List.not_mem_nil, or_false, Prod.mk.injEq] at h
  · obtain ⟨rfl, rfl⟩ := h
    exact ⟨⟨by decide, by decide⟩, rfl⟩
  · obtain ⟨rfl, rfl⟩ := h
    exact ⟨⟨by decide, by decide⟩, rfl⟩
  · rcases h with ⟨rfl, rfl⟩ | ⟨rfl, rfl⟩
    · exact ⟨⟨by decide, by decide⟩, rfl⟩
    · exact ⟨⟨by decide, by decide⟩, rfl⟩
  · rcases h with ⟨rfl, rfl⟩ | ⟨rfl, rfl⟩
    · exact ⟨⟨by decide, by decide⟩, rfl⟩
    · exact ⟨⟨by decide, by decide⟩, rfl⟩
  · obtain ⟨rfl, rfl⟩ := h
    exact ⟨⟨by decide, by decide⟩, rfl⟩
  · obtain ⟨rfl, rfl⟩ := h
    exact ⟨⟨by decide, by decide⟩, rfl⟩

/-- A comparison that no equals sign follows is the first one taken. -/
theorem operators_token {op : Operator} (hop : op.IsComparison) {rest : List Char}
    (hrest : ∀ c ∈ rest.head?, c ≠ '=') :
    ∃ more, operators (op.token.toList ++ rest) = (op, rest) :: more := by
  have hbare : ∀ a : Char, a = '>' ∨ a = '<' →
      operators (a :: rest) = [(if a = '>' then .gt else .lt, rest)] := by
    rintro a ha
    cases rest with
    | nil => rcases ha with rfl | rfl <;> rfl
    | cons c rest =>
      have hc := hrest c rfl
      rcases ha with rfl | rfl <;> unfold operators <;> split <;> simp_all
  cases op with
  | present => exact absurd rfl hop.1
  | absent => exact absurd rfl hop.2
  | gt => exact ⟨[], hbare '>' (.inl rfl)⟩
  | lt => exact ⟨[], hbare '<' (.inr rfl)⟩
  | _ => exact ⟨_, rfl⟩

/-- What follows a comparison, without the white space around it. -/
theorem literalPart?_append {gap lit right : List Char} (hgap : Text.Blank gap)
    (hlit : Text.Bare lit) (hne : lit ≠ []) (hline : '\n' ∉ lit) (hright : Text.Blank right) :
    literalPart? (gap ++ (lit ++ right)) = some lit := by
  rw [literalPart?, Text.trimChars_append hgap hlit hright]
  split
  · rename_i h
    exact absurd rfl hne
  · rw [if_neg hline]

/-- What is read as a literal is all that follows, without the white space around it. -/
theorem literalPart?_spec {rest lit : List Char} {v : Value} (h : literalPart? rest = some lit)
    (hread : literal? lit = some v) : ∃ gap right, rest = gap ++ (lit ++ right) ∧
      Text.Blank gap ∧ Text.Bare lit ∧ '\n' ∉ lit ∧ Text.Blank right := by
  obtain ⟨gap, right, hrest, hgap, hbare, hright⟩ := Text.exists_trimChars rest
  unfold literalPart? at h
  split at h
  · -- A single blank is no literal.
    rename_i hnil
    obtain ⟨c, hc, rfl⟩ := Option.map_eq_some_iff.1 h
    rw [hnil, List.nil_append] at hrest
    have hblank : Text.isBlank c = true := by
      have hmem := List.mem_of_find?_eq_some hc
      rw [hrest, List.mem_reverse] at hmem
      exact List.forall_mem_append.2 ⟨hgap, hright⟩ c hmem
    have htrim : Text.trimChars [c] = [] := by
      simp [Text.trimChars, Text.trimRight, Text.trimLeft, hblank]
    have hnone : literal? [c] = none := by
      simp only [literal?, htrim]
      rfl
    rw [hnone] at hread
    cases hread
  · split at h
    · cases h
    · rename_i hline
      cases h
      exact ⟨gap, right, hrest, hgap, hbare, hline, hright⟩

theorem Compares.comparison?_eq {literal : List Char → Value → Prop} {cs : List Char}
    {c : Condition} (h : Compares literal cs c) (hliteral : ∀ cs v, literal cs v → IsLiteral cs) :
    ∃ path lit, comparison? cs = some (path, c.operator, lit) ∧ c.path = String.ofList path ∧
      literal lit c.literal := by
  obtain ⟨hleft, hpath, hgap, hop, hgap', hlit, hright⟩ := h
  rename_i left path gap gap' lit right op v
  obtain ⟨hbare, hne, hline, -⟩ := hliteral lit v hlit
  have hends : Path.EndsBefore (gap ++ (op.token.toList ++ (gap' ++ (lit ++ right)))) :=
    Path.endsBefore_gap hgap fun _ => endsBefore_token hop _
  obtain ⟨more, hmore⟩ := operators_token hop ((hliteral lit v hlit).head_append hgap' right)
  refine ⟨path, lit, ?_, rfl, hlit⟩
  rw [comparison?, Path.take?_trimLeft hleft hpath hends]
  simp only [trimLeft_token hgap, hmore, List.findSome?_cons,
    literalPart?_append hgap' hbare hne hline hright, Option.map_some]

theorem Compares.presence?_eq {literal : List Char → Value → Prop} {cs : List Char}
    {c : Condition} (h : Compares literal cs c) : presence? cs = none := by
  obtain ⟨hleft, hpath, hgap, hop, -, -, -⟩ := h
  rename_i left path gap gap' lit right op v
  have hends : Path.EndsBefore (gap ++ (op.token.toList ++ (gap' ++ (lit ++ right)))) :=
    Path.endsBefore_gap hgap fun _ => endsBefore_token hop _
  have hword : ∀ op' : Operator, ¬ op'.IsComparison →
      Text.trimChars (gap ++ (op.token.toList ++ (gap' ++ (lit ++ right)))) ≠ op'.token.toList := by
    intro op' hop' htrim
    obtain ⟨gap'', right', hsplit, hgap'', -, -⟩ :=
      Text.exists_trimChars (gap ++ (op.token.toList ++ (gap' ++ (lit ++ right))))
    have hleft := congrArg Text.trimLeft hsplit
    rw [htrim, trimLeft_token hgap, trimLeft_token hgap''] at hleft
    cases op' with
    | present => cases op <;> first | exact hop.1 rfl | exact hop.2 rfl | cases hleft
    | absent => cases op <;> first | exact hop.1 rfl | exact hop.2 rfl | cases hleft
    | _ => exact hop' ⟨by decide, by decide⟩
  rw [Condition.presence?_eq hleft hpath hends, if_neg (hword .present fun h => h.1 rfl),
    if_neg (hword .absent fun h => h.2 rfl), ite_self]

/-- A comparison whose literal is read is one of the grammar, or has an overquoted text. -/
theorem compares_of_comparison? {cs path lit : List Char} {op : Operator} {v : Value}
    (h : comparison? cs = some (path, op, lit)) (hread : literal? lit = some v) :
    Compares Literal cs ⟨String.ofList path, op, v⟩ ∨
      Compares Overquoted cs ⟨String.ofList path, op, v⟩ := by
  unfold comparison? at h
  split at h
  · rename_i path' rest htake
    obtain ⟨left, rfl, hleft, hpath⟩ := Path.take?_trimLeft_spec htake
    obtain ⟨⟨op', rest'⟩, hmem, hpart⟩ := List.exists_of_findSome?_eq_some h
    obtain ⟨lit', hlit, heq⟩ := Option.map_eq_some_iff.1 hpart
    cases heq
    obtain ⟨hop, htrim⟩ := mem_operators hmem
    obtain ⟨gap, hgap, hblank, -⟩ := Text.exists_trimLeft rest
    obtain ⟨gap', right, rfl, hgap', hbare, hline, hright⟩ := literalPart?_spec hlit hread
    rw [htrim] at hgap
    rw [hgap]
    rcases literal_or_overquoted hbare hline hread with hliteral | hliteral
    · exact .inl (.mk hleft hpath hblank hop hgap' hliteral hright)
    · exact .inr (.mk hleft hpath hblank hop hgap' hliteral hright)
  · cases h

/-- The one form more that is read: a comparison whose literal is overquoted. -/
def Overread (text : String) (c : Condition) : Prop := Compares Overquoted text.toList c

/-- A text is read exactly when it is of the grammar or overread. -/
theorem parse_eq_ok_iff {text : String} {c : Condition} :
    parse text = .ok c ↔ Documented text c ∨ Overread text c := by
  constructor
  · intro h
    unfold parse at h
    split at h
    · rename_i hpresence
      cases h
      exact .inl (.inl (presence?_eq_some_iff.1 hpresence))
    · split at h
      · cases h
      · rename_i path op lit hcomparison
        split at h
        · rename_i v hread
          cases h
          rcases compares_of_comparison? hcomparison hread with hcompares | hcompares
          · exact .inl (.inr hcompares)
          · exact .inr hcompares
        · cases h
  · -- Both kinds of comparison are taken apart in one way and differ in the literal only.
    have hcompares : ∀ literal : List Char → Value → Prop, Compares literal text.toList c →
        (∀ cs v, literal cs v → IsLiteral cs) → (∀ cs v, literal cs v → literal? cs = some v) →
        parse text = .ok c := by
      intro literal h hliteral hread
      obtain ⟨path, lit, hcomparison, hpath, hlit⟩ := h.comparison?_eq hliteral
      rw [parse, h.presence?_eq, hcomparison]
      simp only [hread lit _ hlit, ← hpath]
    rintro ((hasks | h) | h)
    · rw [parse, presence?_eq_some_iff.2 hasks]
    · exact hcompares Literal h (fun _ _ => Literal.isLiteral) fun _ _ => Literal.literal?_eq
    · exact hcompares Overquoted h (fun _ _ => Overquoted.isLiteral) fun _ _ =>
        Overquoted.literal?_eq

theorem Documented.not_overread {text : String} {c c' : Condition} (h : Documented text c) :
    ¬ Overread text c' := by
  intro hover
  rcases h with hasks | hcompares
  · have hpresence := hover.presence?_eq
    rw [presence?_eq_some_iff.2 hasks] at hpresence
    cases hpresence
  · obtain ⟨path, lit, hread, -, hlit⟩ := hcompares.comparison?_eq fun _ _ => Literal.isLiteral
    obtain ⟨path', lit', hread', -, hlit'⟩ := hover.comparison?_eq fun _ _ => Overquoted.isLiteral
    obtain ⟨rfl, hparts⟩ := Prod.mk.inj (Option.some.inj (hread.symm.trans hread'))
    obtain ⟨-, rfl⟩ := Prod.mk.inj hparts
    generalize c'.literal = v at hlit'
    obtain ⟨hq, hquote, hline⟩ := hlit'
    obtain ⟨body, hbody, hnot⟩ := hlit.of_quote hq
    exact hnot (List.append_cancel_right hbody ▸ hquote)

/-- A text up to an operator, which goes on with `rest`. -/
inductive Begins (op : Operator) (rest : List Char) : List Char → Prop
  | mk {left path gap : List Char} (hleft : Text.Blank left) (hpath : Path.Dotted path)
      (hgap : Text.Blank gap) (hop : op.IsComparison ∨ gap ≠ [])
      (hrest : op.IsComparison → ∀ c ∈ rest.head?, c ≠ '=') :
      Begins op rest (left ++ (path ++ (gap ++ (op.token.toList ++ rest))))

theorem Begins.take? {op : Operator} {rest cs : List Char} (h : Begins op rest cs) :
    ∃ path gap, Path.take? (Text.trimLeft cs) = some (path, gap ++ (op.token.toList ++ rest)) ∧
      Text.Blank gap ∧ (op.IsComparison → ∀ c ∈ rest.head?, c ≠ '=') := by
  obtain ⟨hleft, hpath, hgap, hop, hrest⟩ := h
  refine ⟨_, _, Path.take?_trimLeft hleft hpath (Path.endsBefore_gap hgap fun hnil => ?_), hgap,
    hrest⟩
  exact endsBefore_token (hop.resolve_right (not_not.2 hnil)) rest

/-- No operator goes on as another: the first character tells them apart, and after `>` and `<` the
second. -/
theorem token_append {op op' : Operator} {rest rest' : List Char}
    (heq : op.token.toList ++ rest = op'.token.toList ++ rest')
    (hrest : op.IsComparison → ∀ c ∈ rest.head?, c ≠ '=')
    (hrest' : op'.IsComparison → ∀ c ∈ rest'.head?, c ≠ '=') : op = op' ∧ rest = rest' := by
  cases op <;> cases op' <;> simp_all [Operator.token, Operator.IsComparison]
  case ge.gt => exact hrest' '=' (heq ▸ rfl) rfl
  case le.lt => exact hrest' '=' (heq ▸ rfl) rfl

theorem Begins.unique {op op' : Operator} {rest rest' cs : List Char} (h : Begins op rest cs)
    (h' : Begins op' rest' cs) : op = op' ∧ rest = rest' := by
  obtain ⟨path, gap, htake, hgap, hrest⟩ := h.take?
  obtain ⟨path', gap', htake', hgap', hrest'⟩ := h'.take?
  obtain ⟨-, hafter⟩ := Prod.mk.inj (Option.some.inj (htake.symm.trans htake'))
  have htrim := congrArg Text.trimLeft hafter
  rw [trimLeft_token hgap, trimLeft_token hgap'] at htrim
  exact token_append htrim hrest hrest'

theorem Begins.append {op : Operator} {rest cs : List Char} (h : Begins op rest cs)
    (hne : op.IsComparison → rest ≠ []) (more : List Char) :
    Begins op (rest ++ more) (cs ++ more) := by
  obtain ⟨hleft, hpath, hgap, hop, hrest⟩ := h
  simp only [List.append_assoc]
  refine .mk hleft hpath hgap hop fun hcomparison => ?_
  cases rest with
  | nil => exact absurd rfl (hne hcomparison)
  | cons c rest => simpa using hrest hcomparison

inductive Closes (op : Operator) : List Char → Prop
  | presence {right : List Char} (hop : ¬ op.IsComparison) (hright : Text.Blank right) :
      Closes op right
  | comparison {gap lit right : List Char} {v : Value} (hop : op.IsComparison)
      (hgap : Text.Blank gap) (hlit : Literal lit v) (hright : Text.Blank right) :
      Closes op (gap ++ (lit ++ right))

theorem Documented.begins {text : String} {c : Condition} (h : Documented text c) :
    ∃ rest, Begins c.operator rest text.toList ∧ Closes c.operator rest := by
  rcases h with hasks | hcompares
  · generalize text.toList = cs at hasks
    obtain ⟨hleft, hpath, hgap, hne, hop, hright⟩ := hasks
    exact ⟨_, .mk hleft hpath hgap (.inr hne) fun h => absurd h hop, .presence hop hright⟩
  · generalize text.toList = cs at hcompares
    obtain ⟨hleft, hpath, hgap, hop, hgap', hlit, hright⟩ := hcompares
    exact ⟨_, .mk hleft hpath hgap (.inl hop) fun _ => hlit.isLiteral.head_append hgap' _,
      .comparison hop hgap' hlit hright⟩

theorem Documented.exists_mark {text : String} {c : Condition} (h : Documented text c) :
    ∃ m ∈ text.toList, Operator.IsMark m := by
  obtain ⟨rest, hbegins, -⟩ := h.begins
  obtain ⟨m, hm, hmark⟩ := Operator.exists_mark c.operator
  generalize text.toList = cs at hbegins
  obtain ⟨-, -, -, -, -⟩ := hbegins
  exact ⟨m, by simp [hm], hmark⟩

theorem Closes.ne_nil {op : Operator} {rest : List Char} (h : Closes op rest)
    (hop : op.IsComparison) : rest ≠ [] := by
  cases h with
  | presence hno => exact absurd hop hno
  | comparison _ _ hlit => simp [hlit.isLiteral.ne_nil]

theorem Literal.quoted_or_not_mark {cs : List Char} {v : Value} (h : Literal cs v) :
    (∃ q body, IsQuote q ∧ q ∉ body ∧ cs = q :: (body ++ [q])) ∨
      ∀ c ∈ cs, ¬ Operator.IsMark c := by
  cases h with
  | @text q body hq hquote hline => exact .inl ⟨q, body, hq, hquote, rfl⟩
  | yes => exact .inr (by simp [Operator.IsMark])
  | no => exact .inr (by simp [Operator.IsMark])
  | null => exact .inr (by simp [Operator.IsMark])
  | number hn =>
    refine .inr fun c hc hmark => ?_
    have hchar := hn.isNumberChar.2 c hc
    simp only [Operator.IsMark, List.mem_cons, List.not_mem_nil, or_false] at hmark
    rcases hmark with rfl | rfl | rfl | rfl <;> simp [IsNumberChar] at hchar

/-- Wherever a literal of the grammar ends, no operator follows within another one and the white
space after it. -/
theorem Literal.not_mark_after {lit lit' tail right : List Char} {v v' : Value}
    (h : Literal lit v) (h' : Literal lit' v') (heq : lit ++ tail = lit' ++ right)
    (hright : ∀ c ∈ right, ¬ Operator.IsMark c) : ∀ c ∈ tail, ¬ Operator.IsMark c := by
  rcases h'.quoted_or_not_mark with ⟨q, body', hq, hbody', rfl⟩ | hplain
  · -- The first one starts with the same quote, and both end where it comes again.
    cases lit with
    | nil => exact absurd rfl h.isLiteral.ne_nil
    | cons a rest =>
      obtain ⟨rfl, hrest⟩ := List.cons.inj heq
      obtain ⟨body, rfl, hbody⟩ := h.of_quote hq
      have hrest' : body ++ a :: tail = body' ++ a :: right := by simpa using hrest
      rcases List.append_eq_append_iff.1 hrest' with ⟨more, rfl, hmore⟩ | ⟨more, rfl, hmore⟩
      · cases more with
        | nil => exact (List.cons.inj hmore).2 ▸ hright
        | cons c more => exact absurd (by simp [(List.cons.inj hmore).1]) hbody'
      · cases more with
        | nil => exact (List.cons.inj hmore).2 ▸ hright
        | cons c more => exact absurd (by simp [(List.cons.inj hmore).1]) hbody
  · intro c hc hmark
    have hmem : c ∈ lit' ++ right := heq ▸ List.mem_append_right _ hc
    rcases List.mem_append.1 hmem with hmem | hmem
    · exact hplain c hmem hmark
    · exact hright c hmem hmark

theorem Closes.not_mark_after {op : Operator} {rest more : List Char} (h : Closes op rest)
    (h' : Closes op (rest ++ more)) : ∀ c ∈ more, ¬ Operator.IsMark c := by
  have hblank : ∀ {cs : List Char}, Text.Blank cs → ∀ c ∈ cs, ¬ Operator.IsMark c :=
    fun hcs c hc hmark => absurd (hcs c hc) (by simp [hmark.isBlank])
  generalize hall : rest ++ more = all at h'
  cases h with
  | presence hop =>
    cases h' with
    | presence _ hright => exact fun c hc => hblank hright c (hall ▸ List.mem_append_right _ hc)
    | comparison hop' => exact absurd hop' hop
  | comparison hop hgap hlit hright =>
    cases h' with
    | presence hop' => exact absurd hop hop'
    | comparison _ hgap' hlit' hright' =>
      rw [List.append_assoc, List.append_assoc] at hall
      have htrim := congrArg Text.trimLeft hall
      rw [hlit.isLiteral.trimLeft_eq hgap, hlit'.isLiteral.trimLeft_eq hgap'] at htrim
      intro c hc
      exact hlit.not_mark_after hlit' htrim (hblank hright') c (List.mem_append_right _ hc)

/-- Two texts of the grammar are none of it together, whatever stands between them. -/
theorem not_documented_append {first second : String} {c c' c'' : Condition}
    (h : Documented first c) (h' : Documented second c') (join : String) :
    ¬ Documented (first ++ join ++ second) c'' := by
  intro hdocumented
  obtain ⟨rest, hbegins, hcloses⟩ := h.begins
  obtain ⟨rest'', hbegins'', hcloses''⟩ := hdocumented.begins
  obtain ⟨m, hm, hmark⟩ := h'.exists_mark
  rw [String.toList_append, String.toList_append, List.append_assoc] at hbegins''
  obtain ⟨hop, rfl⟩ := (hbegins.append hcloses.ne_nil _).unique hbegins''
  rw [← hop] at hcloses''
  exact hcloses.not_mark_after hcloses'' m (List.mem_append_right _ hm) hmark

/-- A text is read as a condition exactly when the grammar has it or it is overread, never both, so
that the reader keeps to the grammar on the texts that are not overread. Conditions joined in one
text are read as an overread one only; and every condition of a workflow that is registered is of
the grammar or overread. -/
theorem parse_grammar (text : String) :
    (∀ c, parse text = .ok c ↔ Documented text c ∨ Overread text c) ∧
    (∀ c c', Documented text c → ¬ Overread text c') ∧
    ((∀ c, parse text = .ok c ↔ Documented text c) ↔ ∀ c, ¬ Overread text c) ∧
    (∀ first join second c c', Documented first c → Documented second c' →
      text = first ++ join ++ second → ∀ d, parse text = .ok d ↔ Overread text d) ∧
    ∀ (r r' : Registry) (w : Workflow), r.register w = .ok r' → ∀ s ∈ w.steps, ∀ slot t,
      Slot.of s slot = some t → ∀ b ∈ t.branchList, b.condition = some text →
        ∃ c, Documented text c ∨ Overread text c := by
  refine ⟨fun _ => parse_eq_ok_iff, fun _ _ h => h.not_overread, ⟨?_, ?_⟩, ?_, ?_⟩
  · intro hparse c hover
    exact ((hparse c).1 (parse_eq_ok_iff.2 (.inr hover))).not_overread hover
  · intro hover c
    rw [parse_eq_ok_iff, or_iff_left (hover c)]
  · rintro first join second c c' h h' rfl d
    rw [parse_eq_ok_iff, or_iff_right (not_documented_append h h' join)]
  · intro r r' w h s hs slot t ht b hb htext
    obtain ⟨⟨hvalid, -⟩, -⟩ := Registry.register_eq_ok_iff.1 h
    obtain ⟨c, hc⟩ := ((hvalid.step s hs).transition slot t ht).condition b hb text htext
    exact ⟨c, parse_eq_ok_iff.1 hc⟩

def joined : Workflow where
  id := "triage"
  startStepId := "severity"
  steps := [
    { id := "severity", kind := some .input, promptKey := "triage.severity",
      next := some (.branches [⟨some "severity == 'x' || severity == 'y'", endTarget⟩]) }]

theorem register_joined : Registry.register {} joined = .ok ⟨[joined]⟩ := if_pos (by decide +kernel)

/-- A comparison with one blank on either side of the operator. -/
theorem compares_spaced {literal : List Char → Value → Prop} {path lit : List Char} {op : Operator}
    {v : Value} (hpath : Path.Dotted path) (hop : op.IsComparison) (hlit : literal lit v) :
    Compares literal (path ++ (' ' :: (op.token.toList ++ (' ' :: lit))))
      ⟨String.ofList path, op, v⟩ := by
  simpa using Compares.mk Text.blank_nil hpath Text.blank_space hop Text.blank_space hlit
    Text.blank_nil

/-- Two joined comparisons are each of the grammar, and together read as one that is not. -/
theorem parse_grammar_joined :
    Documented "severity == 'x'" ⟨"severity", .eq, .text "x"⟩ ∧
      (∀ c, parse "severity == 'x'" = .ok c ↔ Documented "severity == 'x'" c) ∧
      parse "severity == 'x' || severity == 'y'" =
        .ok ⟨"severity", .eq, .text "x' || severity == 'y"⟩ ∧
      Overread "severity == 'x' || severity == 'y'"
        ⟨"severity", .eq, .text "x' || severity == 'y"⟩ ∧
      (∀ c, ¬ Documented "severity == 'x' || severity == 'y'" c) ∧
      ∃ c, Documented "severity == 'x' || severity == 'y'" c ∨
        Overread "severity == 'x' || severity == 'y'" c := by
  have hname : Path.Dotted "severity".toList :=
    Path.IsName.dotted ⟨by decide, List.all_eq_true.1 (by decide)⟩
  have hop : Operator.IsComparison .eq := ⟨by decide, by decide⟩
  have hx : Documented "severity == 'x'" ⟨"severity", .eq, .text "x"⟩ :=
    .inr (compares_spaced hname hop
      (@Literal.text '\'' "x".toList (.inr rfl) (by decide) (by decide)))
  have hy : Documented "severity == 'y'" ⟨"severity", .eq, .text "y"⟩ :=
    .inr (compares_spaced hname hop
      (@Literal.text '\'' "y".toList (.inr rfl) (by decide) (by decide)))
  have hparse : parse "severity == 'x' || severity == 'y'" =
      .ok ⟨"severity", .eq, .text "x' || severity == 'y"⟩ := by decide +kernel
  obtain ⟨-, hnever, -, hjoined, hregistered⟩ := parse_grammar "severity == 'x' || severity == 'y'"
  have hover := (hjoined "severity == 'x'" " || " "severity == 'y'" _ _ hx hy rfl _).1 hparse
  obtain ⟨-, hnever', hgrammar, -⟩ := parse_grammar "severity == 'x'"
  exact ⟨hx, hgrammar.2 fun _ => hnever' _ _ hx, hparse, hover, fun c hc => hnever _ _ hc hover,
    hregistered {} _ joined register_joined _ (List.mem_cons_self ..) .next _ rfl _
      (List.mem_cons_self ..) rfl⟩

end Condition

end Dialogue
