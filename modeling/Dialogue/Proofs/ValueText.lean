import Dialogue.Context
import Dialogue.Proofs.Entries
import Dialogue.Proofs.Numerals

namespace Dialogue

def Number.reread (n : Number) : Option Number := (Value.Reader.number n.chars).map Prod.fst

namespace Value

mutual
/-- How deep lists and objects are nested in a value. -/
def depth : Value → Nat
  | .null | .bool _ | .number _ | .text _ => 0
  | .list items => itemsDepth items + 1
  | .object fields => fieldsDepth fields + 1

def itemsDepth : List Value → Nat
  | [] => 0
  | v :: rest => max (depth v) (itemsDepth rest)

def fieldsDepth : List (String × Value) → Nat
  | [] => 0
  | (_, v) :: rest => max (depth v) (fieldsDepth rest)
end

mutual
/-- The value with every number as its own text is read; none if one of them cannot be read. -/
def reread : Value → Option Value
  | .null => some .null
  | .bool b => some (.bool b)
  | .number n => n.reread.map .number
  | .text s => some (.text s)
  | .list items => (rereadItems items).map .list
  | .object fields => (rereadFields fields).map .object

def rereadItems : List Value → Option (List Value)
  | [] => some []
  | v :: rest => do
    let v ← reread v
    let rest ← rereadItems rest
    some (v :: rest)

def rereadFields : List (String × Value) → Option (List (String × Value))
  | [] => some []
  | (k, v) :: rest => do
    let v ← reread v
    let rest ← rereadFields rest
    some ((k, v) :: rest)
end

mutual
/-- Whether the fields of all objects stand in the order of their names, each name once, and all
integers have 64 bits. -/
def Proper : Value → Prop
  | .null | .bool _ | .text _ => True
  | .number (.integer n) => Number.IsIntegerRange n
  | .number (.double _) => True
  | .list items => ProperItems items
  | .object fields => (fields.map Prod.fst).Pairwise (· < ·) ∧ ProperFields fields

def ProperItems : List Value → Prop
  | [] => True
  | v :: rest => Proper v ∧ ProperItems rest

def ProperFields : List (String × Value) → Prop
  | [] => True
  | (_, v) :: rest => Proper v ∧ ProperFields rest
end

namespace Reader

/-- What may follow a value: the end, or the end or the next entry of a list or an object. -/
def Delimited (cs : List Char) : Prop := ∀ c ∈ cs.head?, c = ',' ∨ c = ']' ∨ c = '\x7d'

theorem Delimited.noNumberNext {cs : List Char} (h : Delimited cs) : NoNumberNext cs := by
  intro c hc
  rcases h c hc with rfl | rfl | rfl <;> decide

theorem hex?_hexChar : ∀ n < 16, hex? (hexChar n) = some n := by
  decide

theorem escaped_control {c : Char} (hc : c.toNat < 0x20) (rest : List Char) :
    escaped ('u' :: '0' :: '0' :: hexChar (c.toNat / 16) :: hexChar (c.toNat % 16) :: rest) =
      some (c, rest) := by
  have hhigh := hex?_hexChar (c.toNat / 16) (by omega)
  have hlow := hex?_hexChar (c.toNat % 16) (by omega)
  have hzero : hex? '0' = some 0 := rfl
  have hread : hex4? ('0' :: '0' :: hexChar (c.toNat / 16) :: hexChar (c.toNat % 16) :: rest) =
      some (c.toNat, rest) := by
    simp only [hex4?, hhigh, hlow, hzero, Option.bind_eq_bind, Option.bind_some]
    congr 2
    omega
  simp only [escaped, hread]
  rw [if_neg (by omega), if_neg (by omega), Char.ofNat_toNat]

theorem quoted_escapeChar (c : Char) (fuel : Nat) (acc rest : List Char) :
    quoted (fuel + 1) acc (escapeChar c ++ rest) = quoted fuel (c :: acc) rest := by
  simp only [escapeChar]
  split
  · subst_vars
    rfl
  split
  · subst_vars
    rfl
  split
  · subst_vars
    rfl
  split
  · subst_vars
    rfl
  split
  · subst_vars
    rfl
  split
  · subst_vars
    rfl
  split
  · subst_vars
    rfl
  split
  · rename_i hcontrol
    have hread := escaped_control hcontrol rest
    simp [quoted, hread]
  · rename_i hquote hslash _ _ _ _ _ hcontrol
    simp [quoted, hquote, hslash, hcontrol]

theorem escapeChar_ne_nil (c : Char) : escapeChar c ≠ [] := by
  simp only [escapeChar]
  split_ifs <;> simp

theorem length_le_flatMap_escapeChar (s : List Char) :
    s.length ≤ (s.flatMap escapeChar).length := by
  induction s with
  | nil => simp
  | cons c s ih =>
    have := List.length_pos_iff.2 (escapeChar_ne_nil c)
    simp only [List.flatMap_cons, List.length_append, List.length_cons]
    omega

theorem quoted_escaped (s : List Char) {fuel : Nat} (hfuel : s.length < fuel)
    (acc rest : List Char) : quoted fuel acc (s.flatMap escapeChar ++ '"' :: rest) =
      some (String.ofList (acc.reverse ++ s), rest) := by
  induction s generalizing fuel acc with
  | nil =>
    cases fuel with
    | zero => cases hfuel
    | succ fuel => simp [quoted]
  | cons c s ih =>
    cases fuel with
    | zero => cases hfuel
    | succ fuel =>
      rw [List.flatMap_cons, List.append_assoc, quoted_escapeChar,
        ih (Nat.lt_of_succ_lt_succ hfuel), List.reverse_cons, List.append_assoc]
      rfl

/-- A text between quotes is read as itself. -/
theorem string_escaped (s rest : List Char) :
    string (s.flatMap escapeChar ++ '"' :: rest) = some (String.ofList s, rest) := by
  have hlength := length_le_flatMap_escapeChar s
  rw [string, quoted_escaped s]
  · rfl
  · simp only [List.length_append, List.length_cons]
    omega

theorem noNumberNext_nil : NoNumberNext [] := by
  rintro c ⟨⟩

theorem reread_integer {n : Int} (hn : Number.IsIntegerRange n) :
    Number.reread (.integer n) = some (.integer n) := by
  have hend := number_intChars hn noNumberNext_nil
  rw [List.append_nil] at hend
  rw [Number.reread, Number.chars, hend]
  rfl

theorem reread_double {d : Double} {n : Number} (h : Number.reread (.double d) = some n) :
    ∃ d', n = .double d' := by
  obtain ⟨read, hread⟩ := exists_number d
  have hend := hread [] noNumberNext_nil
  rw [List.append_nil] at hend
  rw [Number.reread, Number.chars, hend] at h
  cases read with
  | none => cases h
  | some d' =>
    cases h
    exact ⟨d', rfl⟩

theorem number_chars {n : Number} (hn : Proper (.number n)) {rest : List Char}
    (hrest : NoNumberNext rest) : number (n.chars ++ rest) = n.reread.map fun n => (n, rest) := by
  cases n with
  | integer n =>
    rw [reread_integer hn, Number.chars, number_intChars hn hrest]
    rfl
  | double d =>
    obtain ⟨read, hread⟩ := exists_number d
    have hend := hread [] noNumberNext_nil
    rw [List.append_nil] at hend
    rw [Number.reread, Number.chars, hend, hread rest hrest, Option.map_map]
    cases read <;> rfl

theorem numeral_eq_cons (n : Number) :
    ∃ c cs, n.chars = c :: cs ∧ (c = '-' ∨ c.isDigit = true) := by
  have hsigned : ∀ negative c cs, c.isDigit = true →
      ∃ c' cs', signChars negative ++ c :: cs = c' :: cs' ∧ (c' = '-' ∨ c'.isDigit = true) := by
    intro negative c cs hc
    cases negative with
    | true => exact ⟨'-', c :: cs, rfl, .inl rfl⟩
    | false => exact ⟨c, cs, rfl, .inr hc⟩
  cases n with
  | integer n =>
    obtain ⟨c, ds, hdigits, -⟩ := Double.digitsOf_eq_cons n.natAbs
    have hc : c.isDigit = true := Double.isDigit_of_mem_digitsOf (hdigits ▸ List.mem_cons_self ..)
    rw [Number.chars, intChars_eq, hdigits]
    exact hsigned _ _ _ hc
  | double d =>
    obtain ⟨c, ds, tail, hchars, hall, -⟩ := layout_chars d
    rw [Number.chars, hchars]
    exact hsigned _ _ _ (hall c (List.mem_cons_self ..))

/-- A value begins neither with a blank nor with a closing bracket. -/
theorem chars_eq_cons (v : Value) : ∃ c cs, v.chars = c :: cs ∧ isSpace c = false ∧ c ≠ ']' := by
  cases v with
  | null => exact ⟨'n', _, rfl, rfl, by decide⟩
  | bool b =>
    cases b with
    | true => exact ⟨'t', _, rfl, rfl, by decide⟩
    | false => exact ⟨'f', _, rfl, rfl, by decide⟩
  | number n =>
    obtain ⟨c, cs, hchars, hc⟩ := numeral_eq_cons n
    refine ⟨c, cs, hchars, ?_, ?_⟩
    · rcases hc with rfl | hc
      · rfl
      · by_contra hspace
        simp only [isSpace, Bool.not_eq_false, Bool.or_eq_true, decide_eq_true_eq] at hspace
        rcases hspace with ((rfl | rfl) | rfl) | rfl <;> cases hc
    · rintro rfl
      rcases hc with hc | hc <;> cases hc
  | text s => exact ⟨'"', _, rfl, rfl, by decide⟩
  | list items => exact ⟨'[', _, rfl, rfl, by decide⟩
  | object fields => exact ⟨'\x7b', _, rfl, rfl, by decide⟩

theorem skip_eq {c : Char} (hc : isSpace c = false) (rest : List Char) :
    skip (c :: rest) = c :: rest := by
  simp [skip, hc]

theorem skip_chars (v : Value) (rest : List Char) : skip (v.chars ++ rest) = v.chars ++ rest := by
  obtain ⟨c, cs, hchars, hc, -⟩ := chars_eq_cons v
  rw [hchars]
  exact skip_eq hc _

theorem value_list (v : Value) (vs : List Value) (limit : Nat) (rest : List Char) :
    value (limit + 1) ((Value.list (v :: vs)).chars ++ rest) =
      (items (value limit) ((listChars (v :: vs) ++ ']' :: rest).length + 1) []
        (listChars (v :: vs) ++ ']' :: rest)).map fun r => (.list r.1, r.2) := by
  obtain ⟨c, cs, hchars, hspace, hbracket⟩ := chars_eq_cons v
  obtain ⟨tail, htail⟩ : ∃ tail, listChars (v :: vs) = c :: tail := by
    cases vs with
    | nil => exact ⟨cs, by rw [listChars, hchars]⟩
    | cons w ws => exact ⟨cs ++ ',' :: listChars (w :: ws), by simp [listChars, hchars]⟩
  have hskip := skip_eq hspace (tail ++ ']' :: rest)
  have hopen : (Value.list (v :: vs)).chars ++ rest = '[' :: c :: (tail ++ ']' :: rest) := by
    simp [chars, htail]
  rw [hopen, htail, value.eq_def]
  simp only [hskip, List.cons_append]
  split
  · rename_i heq
    exact absurd (List.cons.inj heq).1 hbracket
  · rfl

theorem value_object (field : String × Value) (fs : List (String × Value)) (limit : Nat)
    (rest : List Char) :
    value (limit + 1) ((Value.object (field :: fs)).chars ++ rest) =
      (fields (value limit) ((fieldChars (field :: fs) ++ '\x7d' :: rest).length + 1) []
        (fieldChars (field :: fs) ++ '\x7d' :: rest)).map fun r => (.object r.1, r.2) := by
  obtain ⟨k, v⟩ := field
  obtain ⟨tail, htail⟩ : ∃ tail, fieldChars ((k, v) :: fs) = '"' :: tail := by
    cases fs with
    | nil => exact ⟨_, rfl⟩
    | cons field fs => exact ⟨_, rfl⟩
  have hskip := skip_eq (c := '"') rfl (tail ++ '\x7d' :: rest)
  have hopen : (Value.object ((k, v) :: fs)).chars ++ rest =
      '\x7b' :: '"' :: (tail ++ '\x7d' :: rest) := by
    simp [chars, htail]
  rw [hopen, htail, value.eq_def]
  simp only [hskip, List.cons_append]
  rfl

theorem value_eq_number {c : Char} (hc : c = '-' ∨ c.isDigit = true) (cs : List Char)
    (limit : Nat) : value limit (c :: cs) = (number (c :: cs)).map fun r => (.number r.1, r.2) := by
  have hother : ∀ c' ∈ ['n', 't', 'f', '"', '[', '\x7b'], ∀ cs', c :: cs = c' :: cs' → False := by
    rintro c' hc' cs' ⟨⟩
    rcases hc with rfl | hdigit
    · simp at hc'
    · simp only [List.mem_cons, List.not_mem_nil, or_false] at hc'
      rcases hc' with rfl | rfl | rfl | rfl | rfl | rfl <;> cases hdigit
  rw [value.eq_def]
  dsimp only
  split
  · exact (hother 'n' (by simp) _ ‹_›).elim
  · exact (hother 't' (by simp) _ ‹_›).elim
  · exact (hother 'f' (by simp) _ ‹_›).elim
  · exact (hother '"' (by simp) _ ‹_›).elim
  · exact (hother '[' (by simp) _ ‹_›).elim
  · exact (hother '\x7b' (by simp) _ ‹_›).elim
  · rfl

theorem length_le_listChars (items : List Value) : items.length ≤ (listChars items).length + 1 := by
  induction items with
  | nil => simp
  | cons v rest ih =>
    cases rest with
    | nil => simp
    | cons w rest =>
      rw [listChars] <;> simp at ih ⊢
      omega

theorem length_le_fieldChars (fields : List (String × Value)) :
    fields.length ≤ (fieldChars fields).length + 1 := by
  induction fields with
  | nil => simp
  | cons field rest ih =>
    obtain ⟨k, v⟩ := field
    cases rest with
    | nil => simp
    | cons field rest =>
      rw [fieldChars] <;> simp at ih ⊢
      omega

/-- A name after all others is put at the end. -/
theorem insert_eq_append {acc fs : Record} {name : String} {v : Value}
    (h : ((acc ++ (name, v) :: fs).map Prod.fst).Pairwise (· < ·)) (v' : Value) :
    Record.insert name v' acc = acc ++ [(name, v')] := by
  rw [Record.insert_eq_put]
  exact Entries.put_eq_append h

theorem delimited_nil : Delimited [] := by
  rintro c ⟨⟩

theorem delimited_cons {c : Char} (hc : c = ',' ∨ c = ']' ∨ c = '\x7d') (rest : List Char) :
    Delimited (c :: rest) := by
  rintro c' ⟨⟩
  exact hc

def afterField (value : Parse Value) (fuel : Nat) (acc : Record) : Parse Record := fun cs =>
  match skip cs with
  | ',' :: rest => fields value fuel acc rest
  | '\x7d' :: rest => some (acc, rest)
  | _ => none

theorem afterField_comma (value : Parse Value) (fuel : Nat) (acc : Record) (rest : List Char) :
    afterField value fuel acc (',' :: rest) = fields value fuel acc rest := by
  simp only [afterField, skip_eq (c := ',') rfl]

theorem afterField_end (value : Parse Value) (fuel : Nat) (acc : Record) (rest : List Char) :
    afterField value fuel acc ('\x7d' :: rest) = some (acc, rest) := by
  simp only [afterField, skip_eq (c := '\x7d') rfl]

theorem fields_field (k : String) (v : Value) (limit fuel : Nat) (acc : Record)
    (rest : List Char) : fields (value limit) (fuel + 1) acc
      (quote k.toList ++ ':' :: (v.chars ++ rest)) =
      (value limit (v.chars ++ rest)).bind fun read =>
        afterField (value limit) fuel (Record.insert k read.1 acc) read.2 := by
  have hname := string_escaped k.toList (':' :: (v.chars ++ rest))
  have hquote := skip_eq (c := '"') rfl
    (k.toList.flatMap escapeChar ++ '"' :: ':' :: (v.chars ++ rest))
  have hcolon := skip_eq (c := ':') rfl (v.chars ++ rest)
  have hvalue := skip_chars v rest
  have hfield : quote k.toList ++ ':' :: (v.chars ++ rest) =
      '"' :: (k.toList.flatMap escapeChar ++ '"' :: ':' :: (v.chars ++ rest)) := by
    simp [quote]
  rw [hfield, fields]
  simp only [hquote, hname, hcolon, hvalue, String.ofList_toList]
  cases value limit (v.chars ++ rest) <;> rfl

mutual
/-- Where a value ends does not depend on what follows it, and it comes back as it is reread, unless
it nests too deep. -/
theorem value_chars : ∀ (v : Value), v.Proper → ∀ (limit : Nat) (rest : List Char),
    Delimited rest → value limit (v.chars ++ rest) =
      if v.depth ≤ limit then v.reread.map fun v => (v, rest) else none
  | .null, _, limit, rest, _ => by
    rw [depth, if_pos (Nat.zero_le _), value.eq_def]
    simp [chars, reread, word]
  | .bool true, _, limit, rest, _ => by
    rw [depth, if_pos (Nat.zero_le _), value.eq_def]
    simp [chars, reread, word]
  | .bool false, _, limit, rest, _ => by
    rw [depth, if_pos (Nat.zero_le _), value.eq_def]
    simp [chars, reread, word]
  | .number n, hn, limit, rest, hrest => by
    obtain ⟨c, cs, hchars, hc⟩ := numeral_eq_cons n
    have hvalue : value limit (n.chars ++ rest) =
        (number (n.chars ++ rest)).map fun r => (.number r.1, r.2) := by
      rw [hchars]
      exact value_eq_number hc _ _
    rw [chars, hvalue, number_chars hn hrest.noNumberNext, Option.map_map, depth, reread,
      if_pos (Nat.zero_le _), Option.map_map]
    rfl
  | .text s, _, limit, rest, _ => by
    have hstring := string_escaped s.toList rest
    rw [depth, if_pos (Nat.zero_le _), value.eq_def]
    simp [chars, reread, quote, hstring, String.ofList_toList]
  | .list [], _, limit, rest, _ => by
    cases limit with
    | zero => rfl
    | succ limit =>
      have hskip := skip_eq (c := ']') rfl rest
      simp [value, chars, listChars, reread, rereadItems, depth, itemsDepth, hskip]
  | .list (v :: vs), hv, limit, rest, _ => by
    cases limit with
    | zero => rfl
    | succ limit =>
      have hlength := length_le_listChars (v :: vs)
      have hitems := items_chars (v :: vs) (List.cons_ne_nil _ _) hv limit
        ((listChars (v :: vs) ++ ']' :: rest).length + 1) [] rest
        (by simp only [List.length_append, List.length_cons] at hlength ⊢; omega)
      rw [value_list, hitems, depth, reread]
      simp only [Nat.add_le_add_iff_right]
      split
      · simp [Function.comp_def]
      · rfl
  | .object [], _, limit, rest, _ => by
    cases limit with
    | zero => rfl
    | succ limit =>
      have hskip := skip_eq (c := '\x7d') rfl rest
      simp [value, chars, fieldChars, reread, rereadFields, depth, fieldsDepth, hskip]
  | .object ((k, v) :: fs), hv, limit, rest, _ => by
    cases limit with
    | zero => rfl
    | succ limit =>
      have hlength := length_le_fieldChars ((k, v) :: fs)
      have hfields := fields_chars ((k, v) :: fs) (List.cons_ne_nil _ _) hv.2 limit
        ((fieldChars ((k, v) :: fs) ++ '\x7d' :: rest).length + 1) [] rest hv.1
        (by simp only [List.length_append, List.length_cons] at hlength ⊢; omega)
      rw [value_object, hfields, depth, reread]
      simp only [Nat.add_le_add_iff_right]
      split
      · simp [Function.comp_def]
      · rfl

theorem items_chars : ∀ (vs : List Value), vs ≠ [] → ProperItems vs →
    ∀ (limit fuel : Nat) (acc : List Value) (rest : List Char), vs.length ≤ fuel →
      items (value limit) fuel acc (listChars vs ++ ']' :: rest) =
        if itemsDepth vs ≤ limit then
          (rereadItems vs).map fun vs => (acc.reverse ++ vs, rest)
        else none
  | [], hne, _, _, _, _, _, _ => absurd rfl hne
  | [v], _, hv, limit, fuel + 1, acc, rest, _ => by
    have hread := value_chars v hv.1 limit (']' :: rest) (delimited_cons (by simp) rest)
    have hskip := skip_eq (c := ']') rfl rest
    rw [items, listChars, skip_chars, hread]
    by_cases hdepth : v.depth ≤ limit
    · cases hreread : v.reread with
      | none => simp [hdepth, itemsDepth, rereadItems, hreread]
      | some v' => simp [hdepth, itemsDepth, rereadItems, hreread, hskip]
    · simp [hdepth, itemsDepth]
  | v :: w :: ws, _, hv, limit, fuel + 1, acc, rest, hfuel => by
    have hread := value_chars v hv.1 limit (',' :: (listChars (w :: ws) ++ ']' :: rest))
      (delimited_cons (by simp) _)
    have hskip := skip_eq (c := ',') rfl (listChars (w :: ws) ++ ']' :: rest)
    have hmore : ∀ v', items (value limit) fuel (v' :: acc) (listChars (w :: ws) ++ ']' :: rest) =
        if itemsDepth (w :: ws) ≤ limit then
          (rereadItems (w :: ws)).map fun vs => ((v' :: acc).reverse ++ vs, rest)
        else none := fun v' =>
      items_chars (w :: ws) (List.cons_ne_nil _ _) hv.2 limit fuel (v' :: acc) rest
        (Nat.le_of_succ_le_succ hfuel)
    rw [items, listChars, List.append_assoc, List.cons_append, skip_chars, hread]
    · rw [itemsDepth, rereadItems]
      by_cases hdepth : v.depth ≤ limit
      · cases hreread : v.reread with
        | none => simp [hdepth]
        | some v' =>
          simp only [hdepth, if_true, Option.map_some, hskip, hmore, Nat.max_le, true_and]
          cases rereadItems (w :: ws) with
          | none => rfl
          | some vs => simp
      · simp [hdepth]
    · simp

theorem fields_chars : ∀ (fs : List (String × Value)), fs ≠ [] → ProperFields fs →
    ∀ (limit fuel : Nat) (acc : Record) (rest : List Char),
      ((acc ++ fs).map Prod.fst).Pairwise (· < ·) → fs.length ≤ fuel →
      fields (value limit) fuel acc (fieldChars fs ++ '\x7d' :: rest) =
        if fieldsDepth fs ≤ limit then (rereadFields fs).map fun fs => (acc ++ fs, rest)
        else none
  | [], hne, _, _, _, _, _, _, _ => absurd rfl hne
  | [(k, v)], _, hv, limit, fuel + 1, acc, rest, hacc, hfuel => by
    have hread := value_chars v hv.1 limit ('\x7d' :: rest) (delimited_cons (by simp) rest)
    have hinsert := insert_eq_append hacc
    rw [fieldChars, List.append_assoc, List.cons_append, fields_field, hread]
    by_cases hdepth : v.depth ≤ limit
    · cases hreread : v.reread with
      | none => simp [hdepth, fieldsDepth, rereadFields, hreread]
      | some v' => simp [hdepth, fieldsDepth, rereadFields, hreread, afterField_end, hinsert]
    · simp [hdepth, fieldsDepth]
  | (k, v) :: (k', w) :: fs, _, hv, limit, fuel + 1, acc, rest, hacc, hfuel => by
    have hread := value_chars v hv.1 limit (',' :: (fieldChars ((k', w) :: fs) ++ '\x7d' :: rest))
      (delimited_cons (by simp) _)
    have hinsert := insert_eq_append hacc
    have hmore : ∀ v', fields (value limit) fuel (acc ++ [(k, v')])
        (fieldChars ((k', w) :: fs) ++ '\x7d' :: rest) =
        if fieldsDepth ((k', w) :: fs) ≤ limit then
          (rereadFields ((k', w) :: fs)).map fun fs => (acc ++ [(k, v')] ++ fs, rest)
        else none := fun v' =>
      fields_chars ((k', w) :: fs) (List.cons_ne_nil _ _) hv.2 limit fuel (acc ++ [(k, v')]) rest
        (by simpa using hacc) (Nat.le_of_succ_le_succ hfuel)
    rw [fieldChars, List.append_assoc, List.append_assoc, List.cons_append, List.cons_append,
      fields_field, hread]
    · rw [fieldsDepth, rereadFields]
      by_cases hdepth : v.depth ≤ limit
      · cases hreread : v.reread with
        | none => simp [hdepth]
        | some v' =>
          simp only [hdepth, if_true, Option.map_some, Option.bind_some, afterField_comma, hinsert,
            hmore, Nat.max_le, true_and]
          cases rereadFields ((k', w) :: fs) with
          | none => rfl
          | some fs => simp
      · simp [hdepth]
    · simp
end

section Numbers

variable {n : Number} {negative : Bool} {sig dropped : Nat} {cs rest : List Char}

theorem significand_lt {acc : Nat} (hacc : acc < Nat.pow 2 64) :
    (significand acc dropped cs).1 < Nat.pow 2 64 := by
  induction cs generalizing acc dropped with
  | nil => exact hacc
  | cons c cs ih =>
    simp only [significand]
    split
    · split
      · rename_i hfits
        exact ih hfits.2
      · exact ih hacc
    · exact hacc

theorem proper_of_integerEnd (hsig : sig < Nat.pow 2 64)
    (h : afterWhole.integerEnd negative sig dropped cs = some (n, rest)) : Proper (.number n) := by
  simp only [afterWhole.integerEnd] at h
  split at h
  · rename_i hfits
    cases h
    change Number.IsIntegerRange _
    rw [Number.isIntegerRange_iff]
    rw [Nat.pow_eq] at hsig
    cases negative with
    | true =>
      have hnegative : 0 < sig ∧ sig ≤ 2 ^ 63 := by simpa using hfits.2
      simp only [if_true]
      omega
    | false =>
      simp only [Bool.false_eq_true, if_false]
      omega
  · obtain ⟨d, -, hd⟩ := Option.map_eq_some_iff.1 h
    cases hd
    trivial

/-- Whatever is read with a point or an exponent is a binary number. -/
theorem proper_of_map_double {α : Type} {o : Option α} {f : α → Double × List Char}
    (h : (o.map fun r => (Number.double (f r).1, (f r).2)) = some (n, rest)) :
    Proper (.number n) := by
  obtain ⟨r, -, hr⟩ := Option.map_eq_some_iff.1 h
  cases hr
  trivial

theorem proper_of_afterWhole (hsig : sig < Nat.pow 2 64)
    (h : afterWhole negative sig dropped cs = some (n, rest)) : Proper (.number n) := by
  simp only [afterWhole] at h
  split at h
  · split at h
    · cases h
    · split at h
      · split at h
        · exact proper_of_map_double (f := fun r => r) h
        · exact proper_of_map_double (f := fun d => (d, _)) h
      · exact proper_of_map_double (f := fun d => (d, _)) h
  · split at h
    · exact proper_of_map_double (f := fun r => r) h
    · exact proper_of_integerEnd hsig h
  · exact proper_of_integerEnd hsig h

theorem proper_of_number (h : number cs = some (n, rest)) : Proper (.number n) := by
  have hzero : 0 < Nat.pow 2 64 := by decide
  simp only [number] at h
  split at h
  · split at h
    · split at h
      · cases h
      · exact proper_of_afterWhole hzero h
    · exact proper_of_afterWhole hzero h
  · split at h
    · exact proper_of_afterWhole (significand_lt hzero) h
    · cases h
  · cases h

end Numbers

end Reader

theorem names_of_rereadFields {fs fs' : List (String × Value)} (h : rereadFields fs = some fs') :
    fs'.map Prod.fst = fs.map Prod.fst := by
  induction fs generalizing fs' with
  | nil =>
    cases h
    rfl
  | cons field fs ih =>
    obtain ⟨k, v⟩ := field
    simp only [rereadFields, Option.bind_eq_bind, Option.bind_eq_some_iff] at h
    obtain ⟨w, -, ws, hws, heq⟩ := h
    cases heq
    simp [ih hws]

theorem sorted_rereadFields {fs fs' : List (String × Value)} (h : Sorted fs)
    (hreread : rereadFields fs = some fs') : Sorted fs' := by
  rwa [Sorted, names_of_rereadFields hreread]

mutual
theorem Proper.reread : ∀ {v v' : Value}, v.Proper → v.reread = some v' → v'.Proper
  | .null, _, _, h | .bool _, _, _, h | .text _, _, _, h => by
    cases h
    trivial
  | .number n, v', _, h => by
    obtain ⟨n', hn, rfl⟩ := Option.map_eq_some_iff.1 h
    obtain ⟨⟨n', rest⟩, hread, rfl⟩ := Option.map_eq_some_iff.1 hn
    exact Reader.proper_of_number hread
  | .list vs, v', hv, h => by
    obtain ⟨vs', hvs, rfl⟩ := Option.map_eq_some_iff.1 h
    exact properItems_reread hv hvs
  | .object fs, v', hv, h => by
    obtain ⟨fs', hfs, rfl⟩ := Option.map_eq_some_iff.1 h
    exact ⟨sorted_rereadFields hv.1 hfs, properFields_reread hv.2 hfs⟩

theorem properItems_reread : ∀ {vs vs' : List Value}, ProperItems vs → rereadItems vs = some vs' →
    ProperItems vs'
  | [], _, _, h => by
    cases h
    trivial
  | v :: vs, vs', hv, h => by
    simp only [rereadItems, Option.bind_eq_bind, Option.bind_eq_some_iff] at h
    obtain ⟨w, hw, ws, hws, heq⟩ := h
    cases heq
    exact ⟨hv.1.reread hw, properItems_reread hv.2 hws⟩

theorem properFields_reread : ∀ {fs fs' : List (String × Value)}, ProperFields fs →
    rereadFields fs = some fs' → ProperFields fs'
  | [], _, _, h => by
    cases h
    trivial
  | (k, v) :: fs, fs', hv, h => by
    simp only [rereadFields, Option.bind_eq_bind, Option.bind_eq_some_iff] at h
    obtain ⟨w, hw, ws, hws, heq⟩ := h
    cases heq
    exact ⟨hv.1.reread hw, properFields_reread hv.2 hws⟩
end

/-- The text of a value is read as the value with its numbers reread, unless it nests too deep. -/
theorem ofText?_render {v : Value} (hv : v.Proper) :
    ofText? v.render = if v.depth < Reader.depthLimit then v.reread else none := by
  have hvalue := Reader.value_chars v hv (Reader.depthLimit - 1) [] Reader.delimited_nil
  have hskip := Reader.skip_chars v []
  rw [List.append_nil] at hvalue hskip
  rw [ofText?, render, String.toList_ofList, hskip, hvalue]
  by_cases hdepth : v.depth < Reader.depthLimit
  · have hle : v.depth ≤ Reader.depthLimit - 1 := Nat.le_pred_of_lt hdepth
    rw [if_pos hle, if_pos hdepth]
    cases v.reread <;> rfl
  · have hgt : ¬ v.depth ≤ Reader.depthLimit - 1 := fun hle =>
      hdepth (Nat.lt_of_le_pred (by decide) hle)
    rw [if_neg hgt, if_neg hdepth]

mutual
def numbers : Value → List Number
  | .null | .bool _ | .text _ => []
  | .number n => [n]
  | .list items => itemNumbers items
  | .object fields => fieldNumbers fields

def itemNumbers : List Value → List Number
  | [] => []
  | v :: rest => numbers v ++ itemNumbers rest

def fieldNumbers : List (String × Value) → List Number
  | [] => []
  | (_, v) :: rest => numbers v ++ fieldNumbers rest
end

mutual
theorem reread_eq_self_iff : ∀ v : Value,
    v.reread = some v ↔ ∀ n ∈ v.numbers, n.reread = some n
  | .null | .bool _ | .text _ => by simp [reread, numbers]
  | .number n => by simp [reread, numbers]
  | .list vs => by
    have h := rereadItems_eq_self_iff vs
    simp [reread, numbers, h]
  | .object fs => by
    have h := rereadFields_eq_self_iff fs
    simp [reread, numbers, h]

theorem rereadItems_eq_self_iff : ∀ vs : List Value,
    rereadItems vs = some vs ↔ ∀ n ∈ itemNumbers vs, n.reread = some n
  | [] => by simp [rereadItems, itemNumbers]
  | v :: vs => by
    have hv := reread_eq_self_iff v
    have hvs := rereadItems_eq_self_iff vs
    rw [rereadItems, itemNumbers, List.forall_mem_append, ← hv, ← hvs]
    cases v.reread <;> cases rereadItems vs <;> simp

theorem rereadFields_eq_self_iff : ∀ fs : List (String × Value),
    rereadFields fs = some fs ↔ ∀ n ∈ fieldNumbers fs, n.reread = some n
  | [] => by simp [rereadFields, fieldNumbers]
  | (k, v) :: fs => by
    have hv := reread_eq_self_iff v
    have hfs := rereadFields_eq_self_iff fs
    rw [rereadFields, fieldNumbers, List.forall_mem_append, ← hv, ← hfs]
    cases v.reread <;> cases rereadFields fs <;> simp
end

end Value

end Dialogue
