import Dialogue.Proofs.Numerals
import Dialogue.Proofs.Shortest

namespace Dialogue.Numeral

open Double

inductive IsSign : List Char → Bool → Prop
  | none : IsSign [] false
  | plus : IsSign ['+'] false
  | minus : IsSign ['-'] true

structure IsDigits (ds : List Char) : Prop where
  ne_nil : ds ≠ []
  isDigit : ∀ c ∈ ds, c.isDigit = true

def valueOf (ds : List Char) : Nat := Nat.ofDigitChars 10 ds 0

def signed (negative : Bool) (n : Nat) : Int := if negative then -(n : Int) else n

inductive SpellsInteger : List Char → Int → Prop
  | mk {sign ds : List Char} {negative : Bool} (hsign : IsSign sign negative) (hds : IsDigits ds) :
      SpellsInteger (sign ++ ds) (signed negative (valueOf ds))

/-- Digits with or without a point among them, as their value and the number of places after it. -/
inductive Mantissa : List Char → Nat → Nat → Prop
  | whole {ds : List Char} (hds : IsDigits ds) : Mantissa ds (valueOf ds) 0
  | point {ds ds' : List Char} (hds : IsDigits (ds ++ ds')) :
      Mantissa (ds ++ '.' :: ds') (valueOf (ds ++ ds')) ds'.length

/-- What may follow the digits: nothing, or an exponent. -/
inductive Power : List Char → Int → Prop
  | unit : Power [] 0
  | exponent {letter : Char} {cs : List Char} {e : Int} (hletter : letter = 'e' ∨ letter = 'E')
      (he : SpellsInteger cs e) : Power (letter :: cs) e

/-- A text spells a sign and a decimal magnitude. -/
inductive Spells : List Char → Bool → Decimal → Prop
  | mk {sign m p : List Char} {negative : Bool} {digits places : Nat} {e : Int}
      (hsign : IsSign sign negative) (hmantissa : Mantissa m digits places) (hpower : Power p e) :
      Spells (sign ++ (m ++ p)) negative ⟨digits, e - places⟩

theorem IsDigits.head {ds : List Char} (h : IsDigits ds) :
    ∃ c rest, ds = c :: rest ∧ c.isDigit = true := by
  cases ds with
  | nil => exact absurd rfl h.ne_nil
  | cons c rest => exact ⟨c, rest, rfl, h.isDigit c (List.mem_cons_self ..)⟩

theorem digits?_eq_some_iff {cs : List Char} {n : Nat} :
    digits? cs = some n ↔ IsDigits cs ∧ n = valueOf cs := by
  have hvalue : ∀ ds : List Char, ds.foldl (fun n c => 10 * n + (c.toNat - '0'.toNat)) 0 =
      valueOf ds := fun ds => (Nat.ofDigitChars_eq_foldl ..).symm
  cases cs with
  | nil => exact ⟨fun h => (nomatch h), fun h => absurd rfl h.1.ne_nil⟩
  | cons c cs =>
    rw [digits?.eq_2 _ (List.cons_ne_nil _ _), hvalue]
    constructor
    · intro h
      split at h
      · rename_i hall
        cases h
        exact ⟨⟨List.cons_ne_nil _ _, List.all_eq_true.1 hall⟩, rfl⟩
      · cases h
    · rintro ⟨hds, rfl⟩
      rw [if_pos (List.all_eq_true.2 hds.isDigit)]

theorem IsDigits.digits? {ds : List Char} (h : IsDigits ds) : digits? ds = some (valueOf ds) :=
  digits?_eq_some_iff.2 ⟨h, rfl⟩

theorem IsDigits.run {ds : List Char} (h : IsDigits ds) : run ds = valueOf ds := by
  rw [Numeral.run, h.digits?, Option.getD_some]

def Signless (cs : List Char) : Prop := ∀ c ∈ cs.head?, c ≠ '+' ∧ c ≠ '-'

theorem IsDigits.signless {ds : List Char} (h : IsDigits ds) : Signless ds := by
  obtain ⟨c, rest, rfl, hc⟩ := h.head
  rintro c ⟨⟩
  constructor
  · rintro rfl
    cases hc
  · rintro rfl
    cases hc

theorem exists_sign (cs : List Char) : ∃ sign negative body, IsSign sign negative ∧
    cs = sign ++ body ∧ (sign = [] → Signless body) := by
  cases cs with
  | nil =>
    refine ⟨[], false, [], .none, rfl, fun _ => ?_⟩
    rintro c ⟨⟩
  | cons c rest =>
    by_cases hplus : c = '+'
    · exact ⟨['+'], false, rest, .plus, by rw [hplus]; rfl, fun h => (nomatch h)⟩
    by_cases hminus : c = '-'
    · exact ⟨['-'], true, rest, .minus, by rw [hminus]; rfl, fun h => (nomatch h)⟩
    · refine ⟨[], false, c :: rest, .none, rfl, fun _ => ?_⟩
      rintro c ⟨⟩
      exact ⟨hplus, hminus⟩

section Sign

variable {sign body : List Char} {negative : Bool}

theorem exponent?_eq (hsign : IsSign sign negative) (hbody : sign = [] → Signless body) :
    exponent? (sign ++ body) = (digits? body).map (signed negative) := by
  cases hsign with
  | none =>
    have hhead := hbody rfl
    rw [List.nil_append]
    unfold exponent?
    split
    · exact absurd rfl (hhead '-' rfl).2
    · exact absurd rfl (hhead '+' rfl).1
    · rfl
  | plus => rfl
  | minus =>
    rw [List.singleton_append, exponent?]
    cases digits? body <;> rfl

theorem integer64?_eq (hsign : IsSign sign negative) (hbody : sign = [] → Signless body) :
    integer64? (sign ++ body) = ((digits? body).filter
      (· ≤ if negative then 2 ^ 63 else 2 ^ 63 - 1)).map (signed negative) := by
  cases hsign with
  | none =>
    have hhead := hbody rfl
    rw [List.nil_append]
    unfold integer64? natural?
    split
    · exact absurd rfl (hhead '-' rfl).2
    · split
      · exact absurd rfl (hhead '+' rfl).1
      · rfl
  | plus => rfl
  | minus =>
    rw [List.singleton_append, integer64?]
    change _ = Option.map (signed true) ((digits? body).filter (· ≤ Nat.pow 2 63))
    cases (digits? body).filter (· ≤ Nat.pow 2 63) <;> rfl

theorem decimal?_eq (hsign : IsSign sign negative) (hbody : sign = [] → Signless body) :
    decimal? (sign ++ body) = (word? negative body).or (unsigned? negative body) := by
  cases hsign with
  | none =>
    have hhead := hbody rfl
    rw [List.nil_append]
    unfold decimal?
    split
    rename_i heq
    split at heq
    · exact absurd rfl (hhead '-' rfl).2
    · exact absurd rfl (hhead '+' rfl).1
    · cases heq
      rfl
  | plus => rfl
  | minus => rfl

end Sign

theorem exponent?_eq_some_iff {cs : List Char} {e : Int} :
    exponent? cs = some e ↔ SpellsInteger cs e := by
  constructor
  · intro h
    obtain ⟨sign, negative, body, hsign, rfl, hbody⟩ := exists_sign cs
    rw [exponent?_eq hsign hbody] at h
    obtain ⟨n, hn, rfl⟩ := Option.map_eq_some_iff.1 h
    obtain ⟨hds, rfl⟩ := digits?_eq_some_iff.1 hn
    exact .mk hsign hds
  · rintro ⟨hsign, hds⟩
    rw [exponent?_eq hsign fun _ => hds.signless, hds.digits?]
    rfl

theorem integer64?_eq_some_iff {cs : List Char} {n : Int} :
    integer64? cs = some n ↔ SpellsInteger cs n ∧ -2 ^ 63 ≤ n ∧ n < 2 ^ 63 := by
  have hrange : ∀ (negative : Bool) (m : Nat),
      m ≤ (if negative then 2 ^ 63 else 2 ^ 63 - 1) ↔
        -2 ^ 63 ≤ signed negative m ∧ signed negative m < 2 ^ 63 := by
    rintro (_ | _) m
    · simp only [signed, Bool.false_eq_true, if_false]
      omega
    · simp only [signed, if_true]
      omega
  constructor
  · intro h
    obtain ⟨sign, negative, body, hsign, rfl, hbody⟩ := exists_sign cs
    rw [integer64?_eq hsign hbody] at h
    obtain ⟨n, hn, rfl⟩ := Option.map_eq_some_iff.1 h
    obtain ⟨hn, hle⟩ := Option.filter_eq_some_iff.1 hn
    obtain ⟨hds, rfl⟩ := digits?_eq_some_iff.1 hn
    exact ⟨.mk hsign hds, (hrange _ _).1 (of_decide_eq_true hle)⟩
  · rintro ⟨⟨hsign, hds⟩, hbounds⟩
    rw [integer64?_eq hsign fun _ => hds.signless, hds.digits?, Option.filter_some,
      if_pos (decide_eq_true ((hrange _ _).2 hbounds))]
    rfl

def power? : List Char → Option Int
  | [] => some 0
  | c :: more => if c = 'e' ∨ c = 'E' then exponent? more else none

theorem power?_eq_some_iff {cs : List Char} {e : Int} : power? cs = some e ↔ Power cs e := by
  cases cs with
  | nil =>
    constructor
    · intro h
      cases h
      exact .unit
    · rintro ⟨⟩
      rfl
  | cons c more =>
    rw [power?]
    constructor
    · intro h
      split at h
      · rename_i hletter
        exact .exponent hletter (exponent?_eq_some_iff.1 h)
      · cases h
    · rintro (_ | ⟨hletter, he⟩)
      rw [if_pos hletter]
      exact exponent?_eq_some_iff.2 he

theorem Power.noDigitNext {p : List Char} {e : Int} (h : Power p e) : NoDigitNext p := by
  cases h with
  | unit =>
    rintro c ⟨⟩
  | exponent hletter he =>
    rintro c ⟨⟩
    rcases hletter with rfl | rfl <;> rfl

theorem Power.not_point {p : List Char} {e : Int} (h : Power p e) : ∀ c ∈ p.head?, c ≠ '.' := by
  cases h with
  | unit =>
    rintro c ⟨⟩
  | exponent hletter he =>
    rintro c ⟨⟩ rfl
    rcases hletter with h | h <;> cases h

section Unsigned

variable {whole fraction rest : List Char} (negative : Bool)

theorem unsigned?_whole (hwhole : ∀ c ∈ whole, c.isDigit = true) (hrest : NoDigitNext rest)
    (hpoint : ∀ c ∈ rest.head?, c ≠ '.') :
    unsigned? negative (whole ++ rest) = if whole.isEmpty then none
      else (power? rest).map fun e =>
        Double.ofDecimal negative (valueOf whole) (e - (0 : Nat)) := by
  unfold unsigned?
  rw [takeWhile_digits hwhole hrest, dropWhile_digits hwhole hrest]
  cases rest with
  | nil => simp [power?, run_eq_ofDigitChars hwhole, valueOf]
  | cons c more =>
    have hc := hpoint c rfl
    simp only [power?]
    split
    · rename_i heq
      exact absurd (List.cons.inj heq).1 hc
    · simp only [List.isEmpty_nil, Bool.and_true, List.append_nil, run_eq_ofDigitChars hwhole]
      split_ifs <;> rfl

theorem unsigned?_point (hwhole : ∀ c ∈ whole, c.isDigit = true)
    (hfraction : ∀ c ∈ fraction, c.isDigit = true) (hrest : NoDigitNext rest) :
    unsigned? negative (whole ++ '.' :: (fraction ++ rest)) =
      if (whole ++ fraction).isEmpty then none
      else (power? rest).map fun e =>
        Double.ofDecimal negative (valueOf (whole ++ fraction)) (e - fraction.length) := by
  have hnext : NoDigitNext ('.' :: (fraction ++ rest)) := by
    rintro c ⟨⟩
    rfl
  have hempty : (whole.isEmpty && fraction.isEmpty) = (whole ++ fraction).isEmpty := by
    cases whole <;> rfl
  unfold unsigned?
  rw [takeWhile_digits hwhole hnext, dropWhile_digits hwhole hnext]
  simp only [takeWhile_digits hfraction hrest, dropWhile_digits hfraction hrest, hempty,
    run_eq_ofDigitChars (List.forall_mem_append.2 ⟨hwhole, hfraction⟩)]
  cases rest with
  | nil => simp [power?, valueOf]
  | cons c more =>
    simp only [power?]
    split_ifs <;> rfl

end Unsigned

theorem exists_digits (cs : List Char) : ∃ ds rest, cs = ds ++ rest ∧
    (∀ c ∈ ds, c.isDigit = true) ∧ NoDigitNext rest := by
  refine ⟨_, _, (List.takeWhile_append_dropWhile (p := Char.isDigit)).symm, ?_, ?_⟩
  · exact List.all_eq_true.1 List.all_takeWhile
  · intro c hc
    have := List.head?_dropWhile_not Char.isDigit cs
    rw [Option.mem_def.1 hc] at this
    simpa using this

/-- A decimal without sign is a mantissa and a power. -/
theorem unsigned?_eq_some_iff {negative : Bool} {cs : List Char} {x : Extended} :
    unsigned? negative cs = some x ↔ ∃ m p digits places e, Mantissa m digits places ∧ Power p e ∧
      cs = m ++ p ∧ x = Double.ofDecimal negative digits (e - (places : Nat)) := by
  constructor
  · intro h
    obtain ⟨whole, rest, rfl, hwhole, hrest⟩ := exists_digits cs
    by_cases hpoint : ∀ c ∈ rest.head?, c ≠ '.'
    · rw [unsigned?_whole negative hwhole hrest hpoint] at h
      split at h
      · cases h
      · rename_i hne
        obtain ⟨e, he, rfl⟩ := Option.map_eq_some_iff.1 h
        exact ⟨whole, rest, _, 0, e, .whole ⟨by simpa using hne, hwhole⟩, power?_eq_some_iff.1 he,
          rfl, rfl⟩
    · obtain ⟨more, rfl⟩ : ∃ more, rest = '.' :: more := by
        cases rest with
        | nil => exact absurd (by rintro c ⟨⟩) hpoint
        | cons c more =>
          have hc : c = '.' := by simpa using hpoint
          exact ⟨more, by rw [hc]⟩
      obtain ⟨fraction, rest, rfl, hfraction, hrest⟩ := exists_digits more
      rw [unsigned?_point negative hwhole hfraction hrest] at h
      split at h
      · cases h
      · rename_i hne
        obtain ⟨e, he, rfl⟩ := Option.map_eq_some_iff.1 h
        have hdigits : IsDigits (whole ++ fraction) :=
          ⟨by simpa using hne, List.forall_mem_append.2 ⟨hwhole, hfraction⟩⟩
        exact ⟨whole ++ '.' :: fraction, rest, _, fraction.length, e, .point hdigits,
          power?_eq_some_iff.1 he, by simp, rfl⟩
  · rintro ⟨m, p, digits, places, e, hm, hp, rfl, rfl⟩
    have he := power?_eq_some_iff.2 hp
    cases hm with
    | whole hds =>
      rw [unsigned?_whole negative hds.isDigit hp.noDigitNext hp.not_point,
        if_neg (by simpa using hds.ne_nil), he]
      rfl
    | @point ds ds' hds =>
      obtain ⟨hwhole, hfraction⟩ := List.forall_mem_append.1 hds.isDigit
      rw [List.append_assoc, List.cons_append,
        unsigned?_point negative hwhole hfraction hp.noDigitNext,
        if_neg (by simpa using hds.ne_nil), he]
      rfl

theorem Mantissa.head {m : List Char} {digits places : Nat} (h : Mantissa m digits places) :
    ∃ c rest, m = c :: rest ∧ (c.isDigit = true ∨ c = '.') := by
  cases h with
  | whole hds =>
    obtain ⟨c, rest, rfl, hc⟩ := hds.head
    exact ⟨c, rest, rfl, .inl hc⟩
  | @point ds ds' hds =>
    cases ds with
    | nil => exact ⟨'.', ds', rfl, .inr rfl⟩
    | cons c ds => exact ⟨c, _, rfl, .inl (hds.isDigit c (by simp))⟩

theorem toLower_eq {c : Char} (hc : c.isDigit = true ∨ c = '.') : c.toLower = c := by
  refine dif_neg ?_
  rintro ⟨hlow, -⟩
  rcases hc with hc | rfl
  · have hhigh : c.val ≤ 57 := by
      rw [Char.isDigit, Bool.and_eq_true, decide_eq_true_iff, decide_eq_true_iff] at hc
      exact hc.2
    exact absurd (UInt32.le_trans hlow hhigh) (by decide)
  · exact absurd hlow (by decide)

theorem word?_eq_none (negative : Bool) {c : Char} (hc : c.isDigit = true ∨ c = '.')
    (cs : List Char) : word? negative (c :: cs) = none := by
  have hletter : c ≠ 'i' ∧ c ≠ 'n' := by
    constructor
    · rintro rfl
      simp at hc
    · rintro rfl
      simp at hc
  have hword : ∀ (a : Char) (w : List Char), c ≠ a →
      String.ofList ((c :: cs).map Char.toLower) ≠ String.ofList (a :: w) := by
    intro a w ha h
    have := String.ofList_injective h
    rw [List.map_cons, toLower_eq hc] at this
    exact ha (List.cons.inj this).1
  have hinf := hword 'i' ['n', 'f'] hletter.1
  have hinfinity := hword 'i' ['n', 'f', 'i', 'n', 'i', 't', 'y'] hletter.1
  have hnan := hword 'n' ['a', 'n'] hletter.2
  simp only [word?]
  rw [if_neg (not_or.2 ⟨hinf, hinfinity⟩), if_neg hnan]

theorem word?_not_finite {negative : Bool} {cs : List Char} {d : Double} :
    word? negative cs ≠ some (.finite d) := by
  intro h
  simp only [word?] at h
  split_ifs at h
  · cases h
  · cases h

/-- Decimals are read as the finite binary number that is nearest to what they spell. -/
theorem finite?_eq_some_iff {cs : List Char} {d : Double} : finite? cs = some d ↔
    ∃ m, Spells cs d.negative m ∧ Nearest (m.value * one) d.code := by
  have hfinite : finite? cs = some d ↔ decimal? cs = some (.finite d) := by
    rw [finite?]
    cases decimal? cs with
    | none => simp
    | some x => cases x <;> simp [Extended.toDouble?]
  rw [hfinite]
  constructor
  · intro h
    obtain ⟨sign, negative, body, hsign, rfl, hbody⟩ := exists_sign cs
    rw [decimal?_eq hsign hbody] at h
    rcases Option.or_eq_some_iff.1 h with hword | ⟨-, hread⟩
    · exact absurd hword word?_not_finite
    · obtain ⟨m, p, digits, places, e, hm, hp, rfl, hx⟩ := unsigned?_eq_some_iff.1 hread
      obtain ⟨rfl, hnearest⟩ := (ofDecimal_eq_finite_iff ..).1 hx.symm
      exact ⟨_, .mk hsign hm hp, hnearest⟩
  · rintro ⟨m, hspells, hnearest⟩
    generalize hnegative : d.negative = negative at hspells
    obtain ⟨hsign, hm, hp⟩ := hspells
    obtain ⟨c, rest, rfl, hc⟩ := hm.head
    have hsignless : ∀ cs, Signless (c :: cs) := by
      rintro cs c ⟨⟩
      constructor
      · rintro rfl
        simp at hc
      · rintro rfl
        simp at hc
    have hvalue := (ofDecimal_eq_finite_iff negative _ _ d).2 ⟨hnegative, hnearest⟩
    rw [List.cons_append, decimal?_eq hsign fun _ => hsignless _, word?_eq_none _ hc,
      Option.none_or]
    exact unsigned?_eq_some_iff.2 ⟨_, _, _, _, _, hm, hp, rfl, hvalue.symm⟩

theorem isDigits_digitsOf (n : Nat) : IsDigits (digitsOf n) := by
  obtain ⟨c, ds, hds, -⟩ := digitsOf_eq_cons n
  exact ⟨by simp [hds], fun c => isDigit_of_mem_digitsOf⟩

theorem valueOf_digitsOf (n : Nat) : valueOf (digitsOf n) = n := ofDigitChars_digitsOf n

theorem isSign_signChars (negative : Bool) : IsSign (Value.Reader.signChars negative) negative := by
  cases negative with
  | false => exact .none
  | true => exact .minus

theorem spellsInteger_intChars (n : Int) : SpellsInteger (intChars n) n := by
  have hvalue : signed (decide (n < 0)) (valueOf (digitsOf n.natAbs)) = n := by
    rw [valueOf_digitsOf, signed]
    split
    · rename_i hneg
      have := of_decide_eq_true hneg
      omega
    · rename_i hneg
      rw [decide_eq_true_iff] at hneg
      omega
  have hspells := SpellsInteger.mk (isSign_signChars (decide (n < 0))) (isDigits_digitsOf n.natAbs)
  rw [hvalue, ← Value.Reader.intChars_eq] at hspells
  exact hspells

theorem spellsInteger_exponent (layout : Layout) (point : Int) :
    SpellsInteger ((if layout.exponentPlus ∧ 0 < point then ['+'] else []) ++ intChars (point - 1))
      (point - 1) := by
  split
  · rename_i h
    have hchars : intChars (point - 1) = digitsOf (point - 1).natAbs := by
      rw [intChars, if_neg (by omega)]
    have hspells := SpellsInteger.mk .plus (isDigits_digitsOf (point - 1).natAbs)
    rw [valueOf_digitsOf, ← hchars] at hspells
    have hvalue : signed false (point - 1).natAbs = point - 1 := by
      simp only [signed, Bool.false_eq_true, if_false]
      omega
    rwa [hvalue] at hspells
  · exact spellsInteger_intChars _

theorem valueOf_append_zeros (ds : List Char) (n : Nat) :
    valueOf (ds ++ List.replicate n '0') = 10 ^ n * valueOf ds := by
  rw [valueOf, Nat.ofDigitChars_append, Nat.ofDigitChars_replicate_zero, valueOf]

theorem valueOf_zeros_append (ds : List Char) (n : Nat) :
    valueOf (List.replicate n '0' ++ ds) = valueOf ds := by
  rw [valueOf, Nat.ofDigitChars_append, Nat.ofDigitChars_replicate_zero, Nat.mul_zero, valueOf]

theorem isDigits_append_zeros {ds : List Char} (h : IsDigits ds) (n : Nat) :
    IsDigits (ds ++ List.replicate n '0') := by
  refine ⟨by simp [h.ne_nil], List.forall_mem_append.2 ⟨h.isDigit, fun c hc => ?_⟩⟩
  rw [List.eq_of_mem_replicate hc]
  rfl

theorem isDigits_zeros_append {ds : List Char} (h : IsDigits ds) (n : Nat) :
    IsDigits (List.replicate n '0' ++ ds) := by
  refine ⟨by simp [h.ne_nil], List.forall_mem_append.2 ⟨fun c hc => ?_, h.isDigit⟩⟩
  rw [List.eq_of_mem_replicate hc]
  rfl

/-- Decimal digits, in any layout, spell the magnitude they are. -/
theorem exists_mantissa_power (layout : Layout) (d : Decimal) : ∃ m p digits places e,
    Mantissa m digits places ∧ Power p e ∧ layout.decimal d = m ++ p ∧
      Decimal.value ⟨digits, e - (places : Nat)⟩ = d.value := by
  have hds := isDigits_digitsOf d.digits
  have hvalue := valueOf_digitsOf d.digits
  simp only [Layout.decimal]
  generalize digitsOf d.digits = ds at *
  split
  · split
    · -- Zeros before the point, and one after it.
      rename_i hpos
      have hzeros : List.replicate d.exponent.toNat '0' ++ ['0'] =
          List.replicate (d.exponent.toNat + 1) '0' := (List.replicate_succ' ..).symm
      have hdigits := isDigits_append_zeros hds (d.exponent.toNat + 1)
      have hsum := valueOf_append_zeros ds (d.exponent.toNat + 1)
      rw [← hzeros, ← List.append_assoc] at hdigits hsum
      refine ⟨_, [], _, _, _, .point hdigits, .unit, by simp, ?_⟩
      obtain ⟨k, hk⟩ := Int.eq_ofNat_of_zero_le hpos
      rw [hsum, hvalue, Decimal.value, Decimal.value, hk, Int.toNat_natCast]
      simp
      ring
    · split
      · -- The point is among the digits.
        rename_i hneg hpoint
        have hdigits : IsDigits (ds.take (ds.length + d.exponent).toNat ++
            ds.drop (ds.length + d.exponent).toNat) := by
          rw [List.take_append_drop]
          exact hds
        refine ⟨_, [], _, _, _, .point hdigits, .unit, by simp, ?_⟩
        rw [List.take_append_drop, hvalue, List.length_drop]
        have hplaces : 0 - ((ds.length - (ds.length + d.exponent).toNat : Nat) : Int) =
            d.exponent := by omega
        rw [hplaces]
      · -- Zeros after the point.
        rename_i hneg hpoint
        have hdigits := isDigits_zeros_append hds ((-(ds.length + d.exponent)).toNat + 1)
        have hsum := valueOf_zeros_append ds ((-(ds.length + d.exponent)).toNat + 1)
        rw [List.replicate_succ, List.cons_append, ← List.singleton_append] at hdigits hsum
        refine ⟨_, [], _, _, _, .point hdigits, .unit, by simp, ?_⟩
        rw [hsum, hvalue, List.length_append, List.length_replicate]
        have hplaces : 0 - (((-(ds.length + d.exponent)).toNat + ds.length : Nat) : Int) =
            d.exponent := by omega
        rw [hplaces]
  · -- One digit, the others after a point, and an exponent.
    have hexponent := spellsInteger_exponent layout (ds.length + d.exponent)
    have hpower := Power.exponent (.inl rfl) hexponent
    obtain ⟨c, rest, rfl, hc⟩ := hds.head
    cases rest with
    | nil =>
      refine ⟨_, _, _, _, _, .whole hds, hpower, by simp, ?_⟩
      rw [hvalue]
      simp
    | cons c' rest =>
      have hmantissa : Mantissa ([c] ++ '.' :: c' :: rest) _ _ := .point hds
      refine ⟨_, _, _, _, _, hmantissa, hpower, by simp, ?_⟩
      have hplaces : ((c :: c' :: rest).length + d.exponent - 1 -
          ((c' :: rest).length : Nat) : Int) = d.exponent := by
        simp only [List.length_cons]
        omega
      rw [List.singleton_append, hvalue, hplaces]

/-- The text of a binary number, in any layout, is read as that number. -/
theorem finite?_chars (layout : Layout) (d : Double) : finite? (layout.chars d) = some d := by
  have hsigned : ∀ cs : List Char, (if d.negative then '-' :: cs else cs) =
      Value.Reader.signChars d.negative ++ cs := by
    intro cs
    cases d.negative <;> rfl
  have hsign := isSign_signChars d.negative
  rw [finite?_eq_some_iff, Layout.chars, hsigned]
  split
  · rename_i hzero
    have hmantissa : Mantissa (['0'] ++ '.' :: ['0']) _ _ := .point ⟨by simp, by simp⟩
    refine ⟨_, .mk (p := []) hsign hmantissa .unit, ?_⟩
    have hvalue : valueOf (['0'] ++ ['0']) = 0 := rfl
    rw [hzero, hvalue]
    exact nearest_zero_digits _
  · obtain ⟨m, p, digits, places, e, hm, hp, hchars, hvalue⟩ :=
      exists_mantissa_power layout (shortest d.code)
    rw [hchars]
    refine ⟨_, .mk hsign hm hp, ?_⟩
    rw [hvalue]
    exact nearest_shortest d.code

theorem SpellsInteger.isDigit_or_sign {cs : List Char} {n : Int} (h : SpellsInteger cs n) {c : Char}
    (hc : c ∈ cs) : c.isDigit = true ∨ c = '+' ∨ c = '-' := by
  obtain ⟨hsign, hds⟩ := h
  rcases List.mem_append.1 hc with hc | hc
  · cases hsign with
    | none => cases hc
    | plus => exact .inr (.inl (List.mem_singleton.1 hc))
    | minus => exact .inr (.inr (List.mem_singleton.1 hc))
  · exact .inl (hds.isDigit c hc)

theorem integer64?_chars (d : Double) : integer64? (Value.layout.chars d) = none := by
  rw [Option.eq_none_iff_forall_ne_some]
  intro n h
  obtain ⟨hspells, -⟩ := integer64?_eq_some_iff.1 h
  obtain ⟨c, ds, tail, hchars, -, htail⟩ := Value.Reader.layout_chars d
  rw [hchars] at hspells
  have hmark : '.' ∈ tail ∨ 'e' ∈ tail := by
    cases htail with
    | point => exact .inl (List.mem_cons_self ..)
    | power => exact .inr (List.mem_cons_self ..)
    | both => exact .inl (List.mem_cons_self ..)
  rcases hmark with hmark | hmark
  · simpa using hspells.isDigit_or_sign (c := '.') (by simp [hmark])
  · simpa using hspells.isDigit_or_sign (c := 'e') (by simp [hmark])

end Dialogue.Numeral
