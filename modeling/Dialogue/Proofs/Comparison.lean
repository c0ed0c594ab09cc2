import Dialogue.Proofs.ConditionText

namespace Dialogue

namespace Double

def nearestCode (n : Int) : Int :=
  if n < 0 then -(roundCode (n.natAbs * one) 1 : Int) else roundCode (n.natAbs * one) 1

theorem nearestCode_le_nearestCode {a b : Int} (hab : a ≤ b) : nearestCode a ≤ nearestCode b := by
  simp only [nearestCode]
  split_ifs with ha hb hb
  · have hcodes := roundCode_mono (m := b.natAbs) (n := a.natAbs) (by omega)
    omega
  · omega
  · omega
  · have hcodes := roundCode_mono (m := a.natAbs) (n := b.natAbs) (by omega)
    omega

theorem roundCode_pos {n : Nat} (hn : 0 < n) : 0 < roundCode (n * one) 1 := by
  refine Nat.pos_of_ne_zero fun hzero => hn.ne' ?_
  have hnone : roundCode (0 * one) 1 = 0 := by
    rw [Nat.zero_mul]
    decide
  exact eq_of_roundCode_eq (hzero.trans hnone.symm) (Nat.two_pow_pos _)

theorem ofInt_eq {n : Int} (hn : n.natAbs < 2 ^ 64) :
    ofInt n =
      .finite ⟨decide (n < 0), roundCode (n.natAbs * one) 1, roundCode_lt_infinityCode hn⟩ := by
  rw [ofInt, ofRatio, ofCode, dif_pos (roundCode_lt_infinityCode hn)]

theorem rank_ofInt {n : Int} (hn : n.natAbs < 2 ^ 64) : (ofInt n).rank = some (nearestCode n) := by
  rw [ofInt_eq hn, Extended.rank, nearestCode]
  by_cases hnegative : n < 0
  · rw [if_pos (decide_eq_true hnegative), if_pos hnegative]
  · rw [if_neg (by simpa using hnegative), if_neg hnegative]

theorem compareBy_ofInt {a b : Int} (ha : a.natAbs < 2 ^ 64) (hb : b.natAbs < 2 ^ 64)
    (test : Int → Int → Bool) :
    Extended.compareBy test (ofInt a) (ofInt b) = test (nearestCode a) (nearestCode b) := by
  rw [Extended.compareBy, rank_ofInt ha, rank_ofInt hb]

/-- Two integers have the same nearest number when its signed code is the same. -/
theorem ofInt_eq_iff {a b : Int} (ha : a.natAbs < 2 ^ 64) (hb : b.natAbs < 2 ^ 64) :
    ofInt a = ofInt b ↔ nearestCode a = nearestCode b := by
  constructor
  · intro h
    have hrank := congrArg Extended.rank h
    rw [rank_ofInt ha, rank_ofInt hb] at hrank
    exact Option.some.inj hrank
  · intro h
    have hpos : ∀ n : Int, n < 0 → 0 < roundCode (n.natAbs * one) 1 :=
      fun n hn => roundCode_pos (by omega)
    have hposa := hpos a
    have hposb := hpos b
    have hsame : decide (a < 0) = decide (b < 0) ∧
        roundCode (a.natAbs * one) 1 = roundCode (b.natAbs * one) 1 := by
      simp only [nearestCode] at h
      rw [decide_eq_decide]
      split_ifs at h with hnega hnegb hnegb <;> omega
    simp only [ofInt_eq ha, ofInt_eq hb, hsame.1, hsame.2]

theorem eq_of_nearestCode_eq {a b : Int} (h : nearestCode a = nearestCode b)
    (hsmall : a.natAbs < 2 ^ 53 ∨ b.natAbs < 2 ^ 53) : a = b := by
  have hnat : ∀ {m n : Nat}, m < 2 ^ 53 ∨ n < 2 ^ 53 →
      roundCode (m * one) 1 = roundCode (n * one) 1 → m = n := by
    rintro m n (hm | hn) hcode
    · exact (eq_of_roundCode_eq hcode.symm hm).symm
    · exact eq_of_roundCode_eq hcode hn
  have hpos : ∀ n : Int, n < 0 → 0 < roundCode (n.natAbs * one) 1 :=
    fun n hn => roundCode_pos (by omega)
  simp only [nearestCode] at h
  split_ifs at h with ha hb hb
  · have := hnat hsmall (by omega)
    omega
  · have := hpos a ha
    omega
  · have := hpos b hb
    omega
  · have := hnat hsmall (by omega)
    omega

end Double

namespace Operator

/-- What a comparison says of two integers. -/
def Orders (op : Operator) (a b : Int) : Prop :=
  match op with
  | .eq => a = b
  | .ne => a ≠ b
  | .gt => b < a
  | .lt => a < b
  | .ge => b ≤ a
  | .le => a ≤ b
  | .present => True
  | .absent => False

/-- Comparing what stands in the same order says the same, but where two become one. -/
theorem orders_of_monotone {f : Int → Int} (hf : ∀ {a b : Int}, a ≤ b → f a ≤ f b)
    (op : Operator) (a b : Int) :
    op.Orders (f a) (f b) ↔ if f a = f b then op.Orders b b else op.Orders a b := by
  have hle : a ≤ b → f a ≤ f b := hf
  have hge : b ≤ a → f b ≤ f a := hf
  split_ifs with hsame
  · cases op <;> simp [Orders, hsame]
  · have hne : a ≠ b := fun h => hsame (congrArg f h)
    cases op <;> simp only [Orders] <;> omega

end Operator

namespace Condition

open Double Numeral

variable {path : String} {op : Operator} {a b : Int} {vars : Record}

theorem ordered_integers (test : Extended → Extended → Bool) (a b : Int) :
    ordered test (some (.number (.integer a))) (.number (.integer b)) =
      test (ofInt a) (ofInt b) := rfl

theorem holds_nearest (hop : op.IsComparison) (ha : a.natAbs < 2 ^ 64) (hb : b.natAbs < 2 ^ 64)
    (hvar : vars.lookup? path = some (.number (.integer a))) :
    holds ⟨path, op, .number (.integer b)⟩ vars = true ↔
      op.Orders (nearestCode a) (nearestCode b) := by
  have htest := compareBy_ofInt ha hb
  have htest' := compareBy_ofInt hb ha
  cases op with
  | present => exact absurd rfl hop.1
  | absent => exact absurd rfl hop.2
  | eq => simp [holds, hvar, sameValue, Number.toExtended, Extended.eq, htest, Operator.Orders]
  | ne => simp [holds, hvar, sameValue, Number.toExtended, Extended.eq, htest, Operator.Orders]
  | gt => simp [holds, hvar, ordered_integers, Extended.lt, htest', Operator.Orders]
  | lt => simp [holds, hvar, ordered_integers, Extended.lt, htest, Operator.Orders]
  | ge => simp [holds, hvar, ordered_integers, Extended.le, htest', Operator.Orders]
  | le => simp [holds, hvar, ordered_integers, Extended.le, htest, Operator.Orders]

theorem parse_integer (hpath : Path.Dotted path.toList) (hop : op.IsComparison)
    (hlow : -2 ^ 63 ≤ b) (hhigh : b < 2 ^ 63) :
    parse (toText ⟨path, op, .number (.integer b)⟩) = .ok ⟨path, op, .number (.integer b)⟩ := by
  have hlit : Literal (Value.chars (.number (.integer b))) (.number (.integer b)) :=
    .number (.integer (spellsInteger_intChars b) hlow hhigh)
  have hcompares := compares_spaced hpath hop hlit
  rw [String.ofList_toList] at hcompares
  rw [parse_eq_ok_iff, Documented, toList_toText_of_isComparison hop]
  exact .inl (.inr hcompares)

/-- How a condition compares an integer with an integer literal. It answers as the integers do,
unless they differ and have the same nearest binary number, both being 2 ^ 53 or larger in
magnitude: then it answers as if the one were the other. So all comparisons of two integers are
right exactly when they are equal or have different nearest numbers. -/
theorem integers_compared (hpath : Path.Dotted path.toList) (ha : Number.IsIntegerRange a)
    (hlow : -2 ^ 63 ≤ b) (hhigh : b < 2 ^ 63)
    (hvar : vars.lookup? path = some (.number (.integer a))) :
    (∀ op : Operator, op.IsComparison →
      parse (toText ⟨path, op, .number (.integer b)⟩) = .ok ⟨path, op, .number (.integer b)⟩ ∧
      (holds ⟨path, op, .number (.integer b)⟩ vars = true ↔
        if ofInt a = ofInt b then op.Orders b b else op.Orders a b)) ∧
    ((∀ op : Operator, op.IsComparison →
      (holds ⟨path, op, .number (.integer b)⟩ vars = true ↔ op.Orders a b)) ↔
        (ofInt a = ofInt b → a = b)) ∧
    (ofInt a = ofInt b → a = b ∨ 2 ^ 53 ≤ a.natAbs ∧ 2 ^ 53 ≤ b.natAbs) := by
  have hrange := Number.isIntegerRange_iff.1 ha
  have ha : a.natAbs < 2 ^ 64 := by omega
  have hb : b.natAbs < 2 ^ 64 := by omega
  have hholds : ∀ op : Operator, op.IsComparison →
      (holds ⟨path, op, .number (.integer b)⟩ vars = true ↔
        if ofInt a = ofInt b then op.Orders b b else op.Orders a b) := by
    intro op hop
    rw [holds_nearest hop ha hb hvar, Operator.orders_of_monotone nearestCode_le_nearestCode]
    simp only [ofInt_eq_iff ha hb]
  refine ⟨fun op hop => ⟨parse_integer hpath hop hlow hhigh, hholds op hop⟩, ⟨?_, ?_⟩, ?_⟩
  · intro hright hsame
    -- Where the nearest numbers are the same, `==` holds.
    have heq : Operator.IsComparison .eq := ⟨nofun, nofun⟩
    have hequal := hholds .eq heq
    rw [if_pos hsame] at hequal
    exact (hright .eq heq).1 (hequal.2 rfl)
  · intro hapart op hop
    rw [hholds op hop]
    split_ifs with hsame
    · rw [hapart hsame]
    · rfl
  · intro hsame
    by_cases hlarge : 2 ^ 53 ≤ a.natAbs ∧ 2 ^ 53 ≤ b.natAbs
    · exact .inr hlarge
    · exact .inl (eq_of_nearestCode_eq ((ofInt_eq_iff ha hb).1 hsame) (by omega))

/-- Two neighbours above 2 ^ 53 are taken for equal, and neither for the larger. -/
theorem integers_compared_neighbours :
    Path.Dotted "id".toList ∧ Number.IsIntegerRange 9007199254740993 ∧
      Record.lookup? [("id", .number (.integer 9007199254740993))] "id" =
        some (.number (.integer 9007199254740993)) ∧
      parse (toText ⟨"id", .eq, .number (.integer 9007199254740992)⟩) =
        .ok ⟨"id", .eq, .number (.integer 9007199254740992)⟩ ∧
      holds ⟨"id", .eq, .number (.integer 9007199254740992)⟩
        [("id", .number (.integer 9007199254740993))] = true ∧
      ¬ holds ⟨"id", .gt, .number (.integer 9007199254740992)⟩
        [("id", .number (.integer 9007199254740993))] = true := by
  have hpath : Path.Dotted "id".toList :=
    Path.IsName.dotted ⟨by decide, List.all_eq_true.1 (by decide)⟩
  have hrange : Number.IsIntegerRange 9007199254740993 := by decide
  have hvar : Record.lookup? [("id", .number (.integer 9007199254740993))] "id" =
      some (.number (.integer 9007199254740993)) := by decide +kernel
  obtain ⟨hholds, -, -⟩ := integers_compared (b := 9007199254740992) hpath hrange (by omega)
    (by omega) hvar
  have hsame : ofInt 9007199254740993 = ofInt 9007199254740992 := by decide +kernel
  obtain ⟨hparse, hequal⟩ := hholds .eq ⟨nofun, nofun⟩
  obtain ⟨-, hlarger⟩ := hholds .gt ⟨nofun, nofun⟩
  rw [if_pos hsame] at hequal hlarger
  exact ⟨hpath, hrange, hvar, hparse, hequal.2 rfl, fun h => Int.lt_irrefl _ (hlarger.1 h)⟩

end Condition

end Dialogue
