import Dialogue.Value.Reader
import Dialogue.Instant
import Mathlib.Tactic.SplitIfs

namespace Dialogue

open Value Reader

def NoDigitNext (cs : List Char) : Prop := ∀ c ∈ cs.head?, c.isDigit = false

/-- Whether a text does not go on with anything that numbers are written with. -/
def NoNumberNext (cs : List Char) : Prop :=
  ∀ c ∈ cs.head?, c.isDigit = false ∧ c ∉ ['.', 'e', 'E', '+', '-']

theorem NoNumberNext.noDigitNext {cs : List Char} (h : NoNumberNext cs) : NoDigitNext cs :=
  fun c hc => (h c hc).1

variable {ds rest : List Char}

theorem takeWhile_digits (hds : ∀ c ∈ ds, c.isDigit = true) (hrest : NoDigitNext rest) :
    (ds ++ rest).takeWhile Char.isDigit = ds := by
  rw [List.takeWhile_append_of_pos hds]
  cases rest with
  | nil => simp
  | cons c rest => simp [hrest c rfl]

theorem dropWhile_digits (hds : ∀ c ∈ ds, c.isDigit = true) (hrest : NoDigitNext rest) :
    (ds ++ rest).dropWhile Char.isDigit = rest := by
  rw [List.dropWhile_append_of_pos hds]
  cases rest with
  | nil => rfl
  | cons c rest => simp [hrest c rfl]

namespace Numeral

theorem run_eq_ofDigitChars (hds : ∀ c ∈ ds, c.isDigit = true) :
    run ds = Nat.ofDigitChars 10 ds 0 := by
  cases ds with
  | nil => rfl
  | cons c ds =>
    have hall : (c :: ds).all Char.isDigit = true := List.all_eq_true.2 hds
    rw [run, digits?, if_pos hall, Option.getD_some, Nat.ofDigitChars_eq_foldl]
    simp

end Numeral

theorem Number.isIntegerRange_iff {n : Int} :
    Number.IsIntegerRange n ↔ -9223372036854775808 ≤ n ∧ n < 18446744073709551616 := Iff.rfl

namespace Double

theorem isDigit_of_mem_digitsOf {n : Nat} {c : Char} (h : c ∈ digitsOf n) : c.isDigit = true :=
  Nat.isDigit_of_mem_toDigits (by decide) (by decide) h

theorem ofDigitChars_digitsOf (n : Nat) : Nat.ofDigitChars 10 (digitsOf n) 0 = n :=
  Nat.ofDigitChars_ten_toDigits

theorem digitsOf_eq_cons (n : Nat) :
    ∃ c ds, digitsOf n = c :: ds ∧ (c = '0' → n = 0 ∧ ds = []) := by
  induction n using Nat.strongRecOn with
  | _ n ih =>
    by_cases hn : n < 10
    · exact ⟨n.digitChar, [], Nat.toDigits_of_lt_base hn, fun h =>
        ⟨Nat.digitChar_eq_zero.1 h, rfl⟩⟩
    · obtain ⟨c, ds, hds, hzero⟩ := ih (n / 10) (by omega)
      refine ⟨c, ds ++ [(n % 10).digitChar], ?_, fun h => ?_⟩
      · rw [digitsOf, Nat.toDigits_of_base_le (by decide) (by omega), ← digitsOf, hds]
        rfl
      · have := (hzero h).1
        omega

end Double

namespace Value.Reader

open Double

theorem exists_significand (hds : ∀ c ∈ ds, c.isDigit = true) (acc dropped : Nat) :
    ∃ sig extra, ∀ rest, NoDigitNext rest →
      significand acc dropped (ds ++ rest) = (sig, extra, rest) := by
  induction ds generalizing acc dropped with
  | nil =>
    refine ⟨acc, dropped, fun rest hrest => ?_⟩
    cases rest with
    | nil => rfl
    | cons c rest => simp [significand, hrest c rfl]
  | cons d ds ih =>
    obtain ⟨hd, hds⟩ := List.forall_mem_cons.1 hds
    simp only [List.cons_append, significand, hd, if_true]
    split
    · exact ih hds _ _
    · exact ih hds _ _

/-- As long as all digits together fit 64 bits, none is dropped. -/
theorem significand_eq (hds : ∀ c ∈ ds, c.isDigit = true) (hrest : NoDigitNext rest) {acc : Nat}
    (hfits : Nat.ofDigitChars 10 ds acc < Nat.pow 2 64) :
    significand acc 0 (ds ++ rest) = (Nat.ofDigitChars 10 ds acc, 0, rest) := by
  induction ds generalizing acc with
  | nil =>
    cases rest with
    | nil => rfl
    | cons c rest => simp [significand, hrest c rfl]
  | cons d ds ih =>
    obtain ⟨hd, hds⟩ := List.forall_mem_cons.1 hds
    rw [Nat.ofDigitChars_cons] at hfits ⊢
    have hle : 10 * acc + (d.toNat - '0'.toNat) ≤
        Nat.ofDigitChars 10 ds (10 * acc + (d.toNat - '0'.toNat)) := by
      rw [Nat.ofDigitChars_eq_ofDigitChars_zero]
      exact Nat.le_trans (Nat.le_mul_of_pos_left _ (Nat.pow_pos (by decide))) (Nat.le_add_right _ _)
    simp only [List.cons_append, significand, hd, if_true]
    rw [if_pos ⟨trivial, Nat.lt_of_le_of_lt hle hfits⟩]
    exact ih hds hfits

theorem afterWhole_of_noNumberNext (hrest : NoNumberNext rest) (negative : Bool)
    (sig dropped : Nat) :
    afterWhole negative sig dropped rest = afterWhole.integerEnd negative sig dropped rest := by
  cases rest with
  | nil => rfl
  | cons c rest =>
    obtain ⟨-, hc⟩ := hrest c rfl
    simp only [List.mem_cons, List.not_mem_nil, or_false, not_or] at hc
    obtain ⟨hpoint, he, hE, -, -⟩ := hc
    rw [afterWhole.eq_def]
    split
    · rename_i heq
      exact absurd (List.cons.inj heq).1 hpoint
    · rename_i heq
      obtain ⟨rfl, rfl⟩ := List.cons.inj heq
      rw [if_neg (by simp [he, hE])]
    · rename_i heq
      cases heq

def signChars (negative : Bool) : List Char := if negative then ['-'] else []

/-- A number is its sign, its leading digits and what follows them. A zero in front stands alone. -/
theorem number_eq (negative : Bool) {c : Char} (hc : c.isDigit = true)
    (hds : ∀ c ∈ ds, c.isDigit = true) (hrest : NoDigitNext rest) :
    number (signChars negative ++ (c :: ds ++ rest)) =
      if c = '0' then if ds = [] then afterWhole negative 0 0 rest else none
      else
        let read := significand 0 0 (c :: ds ++ rest)
        afterWhole negative read.1 read.2.1 rest := by
  have hminus : c ≠ '-' := by
    rintro rfl
    cases hc
  by_cases hzero : c = '0'
  · subst hzero
    cases ds with
    | nil =>
      cases rest with
      | nil => cases negative <;> rfl
      | cons d rest => cases negative <;> simp [number, signChars, hrest d rfl]
    | cons d ds => cases negative <;> simp [number, signChars, hds d (List.mem_cons_self ..)]
  · obtain ⟨sig, extra, hsig⟩ := exists_significand (List.forall_mem_cons.2 ⟨hc, hds⟩) 0 0
    have hread : significand 0 0 (c :: (ds ++ rest)) = (sig, extra, rest) := hsig rest hrest
    cases negative <;> simp [number, signChars, hzero, hminus, hc, hread]

theorem intChars_eq (n : Int) :
    intChars n = signChars (decide (n < 0)) ++ digitsOf n.natAbs := by
  by_cases hneg : n < 0
  · simp [intChars, signChars, hneg]
  · simp [intChars, signChars, hneg]

theorem number_intChars {n : Int} (hn : Number.IsIntegerRange n) (hrest : NoNumberNext rest) :
    number (intChars n ++ rest) = some (.integer n, rest) := by
  obtain ⟨c, ds, hdigits, hzero⟩ := digitsOf_eq_cons n.natAbs
  have hall : ∀ d ∈ c :: ds, d.isDigit = true := hdigits ▸ fun d => isDigit_of_mem_digitsOf
  obtain ⟨hc, hds⟩ := List.forall_mem_cons.1 hall
  have hread : significand 0 0 (c :: ds ++ rest) = (n.natAbs, 0, rest) := by
    have hvalue : Nat.ofDigitChars 10 (c :: ds) 0 = n.natAbs := by
      rw [← hdigits, ofDigitChars_digitsOf]
    rw [← hvalue]
    refine significand_eq hall hrest.noDigitNext ?_
    rw [hvalue]
    have hrange := Number.isIntegerRange_iff.1 hn
    have hpow : Nat.pow 2 64 = 18446744073709551616 := rfl
    omega
  rw [intChars_eq, hdigits, List.append_assoc, number_eq _ hc hds hrest.noDigitNext, hread]
  have hend : ∀ sig : Nat, sig = n.natAbs →
      afterWhole (decide (n < 0)) sig 0 rest = some (.integer n, rest) := by
    rintro _ rfl
    have hrange := Number.isIntegerRange_iff.1 hn
    have hpow : Nat.pow 2 63 = 9223372036854775808 := rfl
    rw [afterWhole_of_noNumberNext hrest, afterWhole.integerEnd]
    by_cases hneg : n < 0
    · have hmagnitude : -(n.natAbs : Int) = n := by omega
      rw [if_pos ⟨rfl, .inr ⟨by omega, by omega⟩⟩]
      simp only [hneg, decide_true, if_true, hmagnitude]
    · have hmagnitude : (n.natAbs : Int) = n := by omega
      rw [if_pos ⟨rfl, .inl (by simp [hneg])⟩]
      simp [hneg, hmagnitude]
  split
  · rename_i h
    obtain ⟨hn, rfl⟩ := hzero h
    rw [if_pos rfl]
    exact hend 0 hn.symm
  · exact hend _ rfl

/-- What may follow the whole part of a binary number: digits after a point, an exponent or both. -/
inductive NumberTail : List Char → Prop
  | point {ds : List Char} (hds : ∀ c ∈ ds, c.isDigit = true) : NumberTail ('.' :: ds)
  | power {sign ds : List Char} (hsign : sign ∈ [[], ['+'], ['-']])
      (hds : ∀ c ∈ ds, c.isDigit = true) : NumberTail ('e' :: (sign ++ ds))
  | both {ds sign ds' : List Char} (hds : ∀ c ∈ ds, c.isDigit = true)
      (hsign : sign ∈ [[], ['+'], ['-']]) (hds' : ∀ c ∈ ds', c.isDigit = true) :
      NumberTail ('.' :: (ds ++ 'e' :: (sign ++ ds')))

theorem NumberTail.noDigitNext {tail : List Char} (h : NumberTail tail) (rest : List Char) :
    NoDigitNext (tail ++ rest) := by
  cases h with
  | point hds =>
    rintro c ⟨⟩
    rfl
  | power hsign hds =>
    rintro c ⟨⟩
    rfl
  | both hds hsign hds' =>
    rintro c ⟨⟩
    rfl

def exponentOf (negative : Bool) (sig : Nat) (start : Int) (down : Bool) (ds : List Char) :
    Option Double :=
  if ds.isEmpty then none
  else if Nat.pow 2 31 ≤ Numeral.run ds then
    if sig ≠ 0 ∧ !down then none else some (Double.zero negative)
  else ofParts negative sig (if down then start - Numeral.run ds else start + Numeral.run ds)

theorem exponent_eq {sign : List Char} (hsign : sign ∈ [[], ['+'], ['-']])
    (hds : ∀ c ∈ ds, c.isDigit = true) (hrest : NoNumberNext rest) (negative : Bool) (sig : Nat)
    (start : Int) :
    exponent negative sig start (sign ++ (ds ++ rest)) =
      (exponentOf negative sig start (sign = ['-']) ds).map fun d => (d, rest) := by
  have htake := takeWhile_digits hds hrest.noDigitNext
  have hdrop := dropWhile_digits hds hrest.noDigitNext
  have hread : ∀ down : Bool, (if ds.isEmpty then none
      else if Nat.pow 2 31 ≤ Numeral.run ds then
        if sig ≠ 0 ∧ !down then none else some (Double.zero negative, rest)
      else (ofParts negative sig (if down then start - Numeral.run ds
        else start + Numeral.run ds)).map fun d => (d, rest)) =
      (exponentOf negative sig start down ds).map fun d => (d, rest) := by
    intro down
    simp only [exponentOf]
    split_ifs <;> rfl
  rw [← hread]
  simp only [List.mem_cons, List.not_mem_nil, or_false] at hsign
  rcases hsign with rfl | rfl | rfl
  · -- Nothing that begins with a digit, and nothing that may follow, begins with a sign.
    have hbare : ∀ c ∈ (ds ++ rest).head?, c ≠ '-' ∧ c ≠ '+' := by
      intro c hc
      cases ds with
      | nil =>
        obtain ⟨-, hnot⟩ := hrest c hc
        simp only [List.mem_cons, List.not_mem_nil, or_false, not_or] at hnot
        exact ⟨hnot.2.2.2.2, hnot.2.2.2.1⟩
      | cons d ds =>
        obtain rfl : d = c := by simpa using hc
        have hd := hds d (List.mem_cons_self ..)
        constructor
        · rintro rfl
          cases hd
        · rintro rfl
          cases hd
    rw [List.nil_append]
    generalize ds ++ rest = cs at htake hdrop hbare
    simp only [exponent]
    split
    · rename_i more
      exact absurd rfl (hbare '-' rfl).1
    · rename_i more
      exact absurd rfl (hbare '+' rfl).2
    · simp only [htake, hdrop]
      rfl
  · simp only [exponent, List.cons_append, List.nil_append, htake, hdrop]
    rfl
  · simp only [exponent, List.cons_append, List.nil_append, htake, hdrop]
    rfl

def afterPoint (negative : Bool) (sig : Nat) (start : Int) (rest : List Char) :
    Option (Number × List Char) :=
  match rest with
  | c :: tail =>
    if c = 'e' ∨ c = 'E' then
      (exponent negative sig start tail).map fun r => (.double r.1, r.2)
    else (ofParts negative sig start).map fun d => (.double d, rest)
  | [] => (ofParts negative sig start).map fun d => (.double d, rest)

theorem afterPoint_of_noNumberNext (hrest : NoNumberNext rest) (negative : Bool) (sig : Nat)
    (start : Int) : afterPoint negative sig start rest =
      ((ofParts negative sig start).map .double).map fun n => (n, rest) := by
  rw [Option.map_map]
  cases rest with
  | nil => rfl
  | cons c rest =>
    have hc := (hrest c rfl).2
    simp only [List.mem_cons, List.not_mem_nil, or_false, not_or] at hc
    rw [afterPoint, if_neg (by simp [hc])]
    rfl

theorem afterPoint_power {sign : List Char} (hsign : sign ∈ [[], ['+'], ['-']])
    (hds : ∀ c ∈ ds, c.isDigit = true) (hrest : NoNumberNext rest) (negative : Bool) (sig : Nat)
    (start : Int) : afterPoint negative sig start ('e' :: (sign ++ (ds ++ rest))) =
      ((exponentOf negative sig start (sign = ['-']) ds).map .double).map fun n => (n, rest) := by
  rw [afterPoint, if_pos (.inl rfl), exponent_eq hsign hds hrest, Option.map_map, Option.map_map]
  rfl

theorem afterWhole_point (hds : ∀ c ∈ ds, c.isDigit = true) (hrest : NoDigitNext rest)
    (negative : Bool) (sig dropped : Nat) :
    afterWhole negative sig dropped ('.' :: (ds ++ rest)) =
      if ds.isEmpty then none
      else
        afterPoint negative (significand sig 0 ds).1
          ((dropped : Int) - ((ds.length : Int) - (significand sig 0 ds).2.1)) rest := by
  simp only [afterWhole, takeWhile_digits hds hrest, dropWhile_digits hds hrest]
  rfl

theorem exists_afterWhole {tail : List Char} (h : NumberTail tail) (negative : Bool)
    (sig dropped : Nat) : ∃ read : Option Double, ∀ rest, NoNumberNext rest →
      afterWhole negative sig dropped (tail ++ rest) =
        (read.map .double).map fun n => (n, rest) := by
  cases h with
  | @point ds hds =>
    by_cases hnil : ds.isEmpty
    · refine ⟨none, fun rest hrest => ?_⟩
      rw [List.cons_append, afterWhole_point hds hrest.noDigitNext, if_pos hnil]
      rfl
    · let start : Int := (dropped : Int) - ((ds.length : Int) - (significand sig 0 ds).2.1)
      refine ⟨ofParts negative (significand sig 0 ds).1 start, fun rest hrest => ?_⟩
      rw [List.cons_append, afterWhole_point hds hrest.noDigitNext, if_neg hnil]
      exact afterPoint_of_noNumberNext hrest ..
  | @power sign ds hsign hds =>
    refine ⟨exponentOf negative sig dropped (sign = ['-']) ds, fun rest hrest => ?_⟩
    have hpower : afterWhole negative sig dropped ('e' :: (sign ++ ds) ++ rest) =
        (exponent negative sig dropped (sign ++ (ds ++ rest))).map fun r => (.double r.1, r.2) := by
      rw [List.cons_append, List.append_assoc]
      rfl
    rw [hpower, exponent_eq hsign hds hrest, Option.map_map, Option.map_map]
    rfl
  | @both ds sign ds' hds hsign hds' =>
    by_cases hnil : ds.isEmpty
    · refine ⟨none, fun rest hrest => ?_⟩
      have hnext : NoDigitNext ('e' :: (sign ++ ds') ++ rest) := by
        rintro c ⟨⟩
        rfl
      rw [List.cons_append, List.append_assoc, afterWhole_point hds hnext, if_pos hnil]
      rfl
    · let start : Int := (dropped : Int) - ((ds.length : Int) - (significand sig 0 ds).2.1)
      refine ⟨exponentOf negative (significand sig 0 ds).1 start (sign = ['-']) ds',
        fun rest hrest => ?_⟩
      have hnext : NoDigitNext ('e' :: (sign ++ ds') ++ rest) := by
        rintro c ⟨⟩
        rfl
      rw [List.cons_append, List.append_assoc, afterWhole_point hds hnext, if_neg hnil,
        List.cons_append, List.append_assoc]
      exact afterPoint_power hsign hds' hrest ..

theorem exists_sign_intChars (point : Int) : ∃ sign ds,
    (if Value.layout.exponentPlus ∧ 0 < point then ['+'] else []) ++ intChars (point - 1) =
        sign ++ ds ∧
      sign ∈ [[], ['+'], ['-']] ∧ ∀ c ∈ ds, c.isDigit = true := by
  have hall : ∀ c ∈ digitsOf (point - 1).natAbs, c.isDigit = true := fun c =>
    isDigit_of_mem_digitsOf
  by_cases hpoint : 0 < point
  · refine ⟨['+'], digitsOf (point - 1).natAbs, ?_, by simp, hall⟩
    rw [if_pos ⟨rfl, hpoint⟩, intChars, if_neg (by omega)]
  · refine ⟨['-'], digitsOf (point - 1).natAbs, ?_, by simp, hall⟩
    rw [if_neg (by simp [hpoint]), intChars, if_pos (by omega)]
    rfl

theorem layout_decimal (d : Decimal) : ∃ c ds tail,
    Value.layout.decimal d = c :: ds ++ tail ∧ (∀ a ∈ c :: ds, a.isDigit = true) ∧
      NumberTail tail := by
  obtain ⟨c, ds, hdigits, -⟩ := digitsOf_eq_cons d.digits
  have hall : ∀ a ∈ c :: ds, a.isDigit = true := hdigits ▸ fun a => isDigit_of_mem_digitsOf
  obtain ⟨hc, hds⟩ := List.forall_mem_cons.1 hall
  have hzeros : ∀ n, ∀ a ∈ List.replicate n '0', a.isDigit = true := by
    intro n a ha
    rw [List.eq_of_mem_replicate ha]
    rfl
  simp only [Layout.decimal, hdigits]
  split
  · split
    · -- Zeros before the point.
      refine ⟨c, ds ++ List.replicate d.exponent.toNat '0', ['.', '0'], by simp, ?_,
        .point (by simp)⟩
      exact List.forall_mem_append.2 ⟨hall, hzeros _⟩
    · split
      · -- The point is among the digits.
        rename_i hpoint
        obtain ⟨k, hk⟩ : ∃ k, (((c :: ds).length : Int) + d.exponent).toNat = k + 1 :=
          ⟨(((c :: ds).length : Int) + d.exponent).toNat - 1, by omega⟩
        rw [hk]
        refine ⟨c, ds.take k, '.' :: ds.drop k, rfl, ?_, .point fun a ha => ?_⟩
        · exact List.forall_mem_cons.2 ⟨hc, fun a ha => hds a (List.mem_of_mem_take ha)⟩
        · exact hds a (List.mem_of_mem_drop ha)
      · -- Zeros after the point.
        refine ⟨'0', [], _, rfl, by simp, .point ?_⟩
        exact List.forall_mem_append.2 ⟨hzeros _, hall⟩
  · -- One digit, the others after a point if there are any, and an exponent.
    obtain ⟨sign, ds', hexponent, hsign, hds'⟩ :=
      exists_sign_intChars (((c :: ds).length : Int) + d.exponent)
    cases ds with
    | nil =>
      refine ⟨c, [], 'e' :: (sign ++ ds'), ?_, hall, .power hsign hds'⟩
      rw [← hexponent]
      simp
    | cons c' ds =>
      refine ⟨c, [], '.' :: (c' :: ds ++ 'e' :: (sign ++ ds')), ?_, by simpa using hc,
        .both hds hsign hds'⟩
      rw [← hexponent]
      simp

/-- The text of a binary number: a sign, digits and a tail. -/
theorem layout_chars (d : Double) : ∃ c ds tail,
    Value.layout.chars d = signChars d.negative ++ (c :: ds ++ tail) ∧
      (∀ a ∈ c :: ds, a.isDigit = true) ∧ NumberTail tail := by
  have hsigned : ∀ cs : List Char, (if d.negative then '-' :: cs else cs) =
      signChars d.negative ++ cs := by
    intro cs
    cases d.negative <;> rfl
  rw [Layout.chars, hsigned]
  by_cases hzero : d.code = 0
  · rw [if_pos hzero]
    exact ⟨'0', [], ['.', '0'], rfl, by simp, .point (by simp)⟩
  · rw [if_neg hzero]
    obtain ⟨c, ds, tail, hchars, hall, htail⟩ := layout_decimal (shortest d.code)
    exact ⟨c, ds, tail, by rw [hchars], hall, htail⟩

theorem exists_number (d : Double) : ∃ read : Option Double, ∀ rest, NoNumberNext rest →
    number (Value.layout.chars d ++ rest) = (read.map .double).map fun n => (n, rest) := by
  obtain ⟨c, ds, tail, hchars, hall, htail⟩ := layout_chars d
  obtain ⟨hc, hds⟩ := List.forall_mem_cons.1 hall
  obtain ⟨sig, extra, hsig⟩ := exists_significand hall 0 0
  by_cases hzero : c = '0'
  · by_cases hnil : ds = []
    · obtain ⟨read, hread⟩ := exists_afterWhole htail d.negative 0 0
      refine ⟨read, fun rest hrest => ?_⟩
      rw [hchars, List.append_assoc, List.append_assoc, number_eq _ hc hds (htail.noDigitNext rest),
        if_pos hzero, if_pos hnil, hread rest hrest]
    · refine ⟨none, fun rest hrest => ?_⟩
      rw [hchars, List.append_assoc, List.append_assoc, number_eq _ hc hds (htail.noDigitNext rest),
        if_pos hzero, if_neg hnil]
      rfl
  · obtain ⟨read, hread⟩ := exists_afterWhole htail d.negative sig extra
    refine ⟨read, fun rest hrest => ?_⟩
    rw [hchars, List.append_assoc, List.append_assoc, number_eq _ hc hds (htail.noDigitNext rest),
      if_neg hzero, hsig _ (htail.noDigitNext rest)]
    exact hread rest hrest

end Value.Reader

end Dialogue
