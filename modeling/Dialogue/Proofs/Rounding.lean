import Dialogue.Double.Shortest
import Mathlib.Algebra.Order.Field.Rat
import Mathlib.Algebra.Order.Field.Power
import Mathlib.Tactic.FieldSimp
import Mathlib.Tactic.Linarith
import Mathlib.Tactic.NormNum
import Mathlib.Tactic.Positivity
import Mathlib.Tactic.Ring

namespace Dialogue.Double

/-- The codes of one binade, in the steps of it; the end of one is the beginning of the next. -/
theorem units_add {k m : Nat} (hlow : k = 0 ∨ 2 ^ 52 ≤ m) (hhigh : m ≤ 2 ^ 53) :
    units (k * 2 ^ 52 + m) = m * 2 ^ k := by
  simp only [units, Nat.pow_eq, Nat.shiftLeft_eq]
  rcases Nat.lt_or_ge (k * 2 ^ 52 + m) (2 ^ 53) with hsmall | hlarge
  · have hk : k = 0 := by omega
    rw [if_pos hsmall, hk]
    omega
  rw [if_neg (Nat.not_lt.2 hlarge)]
  rcases Nat.lt_or_eq_of_le hhigh with hlt | rfl
  · have hmod : 2 ^ 52 + (k * 2 ^ 52 + m) % 2 ^ 52 = m := by omega
    have hdiv : (k * 2 ^ 52 + m) / 2 ^ 52 - 1 = k := by omega
    rw [hmod, hdiv]
  · have hmod : 2 ^ 52 + (k * 2 ^ 52 + 2 ^ 53) % 2 ^ 52 = 2 ^ 52 := by omega
    have hdiv : (k * 2 ^ 52 + 2 ^ 53) / 2 ^ 52 - 1 = k + 1 := by omega
    rw [hmod, hdiv]
    ring

/-- The step from a code to the next is a fraction of both magnitudes. -/
theorem exists_units_succ (code : Nat) :
    ∃ step, 0 < step ∧ units (code + 1) = units code + step ∧ units (code + 1) ≤ 2 ^ 53 * step := by
  obtain ⟨k, m, rfl, hlow, hhigh⟩ : ∃ k m, code = k * 2 ^ 52 + m ∧ (k = 0 ∨ 2 ^ 52 ≤ m) ∧
      m < 2 ^ 53 :=
    ⟨code / 2 ^ 52 - 1, code - (code / 2 ^ 52 - 1) * 2 ^ 52, by omega, by omega, by omega⟩
  refine ⟨2 ^ k, Nat.two_pow_pos k, ?_, ?_⟩
  · rw [Nat.add_assoc, units_add hlow hhigh.le, units_add (by omega) hhigh, Nat.succ_mul]
  · rw [Nat.add_assoc, units_add (by omega) hhigh]
    exact Nat.mul_le_mul_right _ hhigh

theorem strictMono_units : StrictMono units := by
  refine strictMono_nat_of_lt_succ fun code => ?_
  obtain ⟨step, hstep, hsucc, -⟩ := exists_units_succ code
  omega

/-- Whether a code is the nearest one to a number of units; of two equally near ones the even. -/
structure Nearest (x : ℚ) (code : Nat) : Prop where
  low : (units (code - 1) + units code : ℚ) ≤ 2 * x
  high : 2 * x ≤ units code + units (code + 1)
  tie : code % 2 = 1 → (units (code - 1) + units code : ℚ) ≠ 2 * x ∧
    2 * x ≠ units code + units (code + 1)

theorem Nearest.not_lt {x : ℚ} {a b : Nat} (ha : Nearest x a) (hb : Nearest x b) : ¬ a < b := by
  intro hlt
  have hfirst : (units a : ℚ) ≤ units (b - 1) :=
    Nat.cast_le.2 (strictMono_units.monotone (Nat.le_sub_one_of_lt hlt))
  have hsecond : (units (a + 1) : ℚ) ≤ units b := Nat.cast_le.2 (strictMono_units.monotone hlt)
  have hhigh := ha.high
  have hlow := hb.low
  -- Both bounds are met, so the two are neighbours and the magnitude is halfway between them.
  have htie : (units b : ℚ) = units (a + 1) := by linarith
  obtain rfl : b = a + 1 := strictMono_units.injective (Nat.cast_injective htie)
  rw [Nat.add_sub_cancel] at hlow
  rcases Nat.mod_two_eq_zero_or_one a with heven | hodd
  · exact (hb.tie (by omega)).1 (by rw [Nat.add_sub_cancel]; linarith)
  · exact (ha.tie hodd).2 (by linarith)

theorem Nearest.unique {x : ℚ} {a b : Nat} (ha : Nearest x a) (hb : Nearest x b) : a = b :=
  Nat.le_antisymm (Nat.not_lt.1 (hb.not_lt ha)) (Nat.not_lt.1 (ha.not_lt hb))

theorem Nearest.mono {x y : ℚ} {a b : Nat} (ha : Nearest x a) (hb : Nearest y b) (hxy : x ≤ y) :
    a ≤ b := by
  rcases eq_or_lt_of_le hxy with rfl | hlt
  · exact (ha.unique hb).le
  by_contra hnot
  have hfirst : (units b : ℚ) ≤ units (a - 1) :=
    Nat.cast_le.2 (strictMono_units.monotone (Nat.le_sub_one_of_lt (Nat.not_le.1 hnot)))
  have hsecond : (units (b + 1) : ℚ) ≤ units a :=
    Nat.cast_le.2 (strictMono_units.monotone (Nat.not_le.1 hnot))
  have hlow := ha.low
  have hhigh := hb.high
  linarith

theorem nearest_self (code : Nat) : Nearest (units code) code := by
  have hbefore : (units (code - 1) : ℚ) ≤ units code :=
    Nat.cast_le.2 (strictMono_units.monotone (Nat.sub_le _ _))
  have hafter : (units code : ℚ) < units (code + 1) :=
    Nat.cast_lt.2 (strictMono_units (Nat.lt_succ_self _))
  refine ⟨by linarith, by linarith, fun hodd => ⟨?_, by linarith⟩⟩
  have hlt : (units (code - 1) : ℚ) < units code := Nat.cast_lt.2 (strictMono_units (by omega))
  linarith

/-- Dividing by the step of its binade leaves a quotient of 53 bits. -/
theorem quotient_bounds (n : Nat) :
    (n.log2 - 52 = 0 ∨ 2 ^ 52 ≤ n / 2 ^ (n.log2 - 52)) ∧ n / 2 ^ (n.log2 - 52) < 2 ^ 53 := by
  have hlt : n < 2 ^ (n.log2 + 1) := Nat.lt_log2_self
  rcases Nat.le_total n.log2 52 with hsmall | hlarge
  · have hzero : n.log2 - 52 = 0 := by omega
    have hpow : 2 ^ (n.log2 + 1) ≤ 2 ^ 53 := Nat.pow_le_pow_right (by decide) (by omega)
    rw [hzero]
    exact ⟨.inl rfl, by rw [pow_zero, Nat.div_one]; omega⟩
  · have hn : n ≠ 0 := by
      rintro rfl
      exact absurd hlarge (by decide)
    have hle := Nat.log2_self_le hn
    have hsplit : n.log2 = 52 + (n.log2 - 52) := by omega
    refine ⟨.inr ?_, ?_⟩
    · rw [Nat.le_div_iff_mul_le (Nat.two_pow_pos _), ← pow_add, ← hsplit]
      exact hle
    · rw [Nat.div_lt_iff_lt_mul (Nat.two_pow_pos _), ← pow_add]
      have hsum : 53 + (n.log2 - 52) = n.log2 + 1 := by omega
      rw [hsum]
      exact hlt

/-- Between two neighbouring codes the nearer one is nearest, halfway the even one. -/
theorem nearest_of_units {num den code q step r : Nat} (hden : 0 < den)
    (hhere : units code = q * step) (hnext : units (code + 1) = (q + 1) * step)
    (hnum : den * step * q + r = num) (hr : r < den * step) :
    Nearest (num / den)
      (if 2 * r < den * step ∨ 2 * r = den * step ∧ code % 2 = 0 then code else code + 1) := by
  have hdenQ : (0 : ℚ) < den := Nat.cast_pos.2 hden
  -- The magnitude is `q` steps and a rest below one step, and the middle is half a step.
  have hx : (num : ℚ) / den = q * step + r / den := by
    rw [← hnum]
    push_cast
    field_simp
  have hscale : ((2 * r : Nat) : ℚ) = 2 * (r / den) * den := by
    push_cast
    field_simp
  have hhereQ : (units code : ℚ) = q * step := by
    rw [hhere, Nat.cast_mul]
  have hnextQ : (units (code + 1) : ℚ) = q * step + step := by
    rw [hnext]
    push_cast
    ring
  have hrest : (0 : ℚ) ≤ r / den := by positivity
  have hbelow : (units (code - 1) : ℚ) ≤ units code :=
    Nat.cast_le.2 (strictMono_units.monotone (Nat.sub_le _ 1))
  have habove : (units (code + 1) : ℚ) < units (code + 1 + 1) :=
    Nat.cast_lt.2 (strictMono_units (Nat.lt_succ_self _))
  rw [hx]
  split_ifs with hdown
  · have hle : 2 * ((r : ℚ) / den) ≤ step := by
      have hle : ((2 * r : Nat) : ℚ) ≤ ((den * step : Nat) : ℚ) := Nat.cast_le.2 (by omega)
      rw [hscale, Nat.cast_mul, mul_comm (den : ℚ)] at hle
      exact le_of_mul_le_mul_right hle hdenQ
    refine ⟨by linarith, by linarith, fun hodd => ⟨?_, ?_⟩⟩
    · have hlt : (units (code - 1) : ℚ) < units code :=
        Nat.cast_lt.2 (strictMono_units (by omega))
      linarith
    · have hlt : ((2 * r : Nat) : ℚ) < ((den * step : Nat) : ℚ) := Nat.cast_lt.2 (by omega)
      rw [hscale, Nat.cast_mul, mul_comm (den : ℚ)] at hlt
      have hlt := lt_of_mul_lt_mul_right hlt hdenQ.le
      linarith
  · have hle : (step : ℚ) ≤ 2 * (r / den) := by
      have hle : ((den * step : Nat) : ℚ) ≤ ((2 * r : Nat) : ℚ) := Nat.cast_le.2 (by omega)
      rw [hscale, Nat.cast_mul, mul_comm (den : ℚ)] at hle
      exact le_of_mul_le_mul_right hle hdenQ
    have hlast : (r : ℚ) / den < step := by
      rw [div_lt_iff₀ hdenQ, mul_comm, ← Nat.cast_mul]
      exact Nat.cast_lt.2 hr
    refine ⟨?_, by linarith, fun hodd => ⟨?_, by linarith⟩⟩
    · rw [Nat.add_sub_cancel]
      linarith
    · have hlt : ((den * step : Nat) : ℚ) < ((2 * r : Nat) : ℚ) := Nat.cast_lt.2 (by omega)
      rw [hscale, Nat.cast_mul, mul_comm (den : ℚ)] at hlt
      have hlt := lt_of_mul_lt_mul_right hlt hdenQ.le
      rw [Nat.add_sub_cancel]
      linarith

theorem nearest_roundCode (num : Nat) {den : Nat} (hden : 0 < den) :
    Nearest (num / den) (roundCode num den) := by
  obtain ⟨hlow, hhigh⟩ := quotient_bounds (num / den)
  rw [Nat.div_div_eq_div_mul] at hlow hhigh
  simp only [roundCode, nearest, Nat.pow_eq]
  generalize (num / den).log2 - 52 = k at *
  have hpos := Nat.mul_pos hden (Nat.two_pow_pos k)
  have hparity : (k * 2 ^ 52 + num / (den * 2 ^ k)) % 2 = num / (den * 2 ^ k) % 2 := by omega
  have hnearest := nearest_of_units hden (units_add hlow hhigh.le)
    (by rw [Nat.add_assoc, units_add (by omega) hhigh]) (Nat.div_add_mod num (den * 2 ^ k))
    (Nat.mod_lt num hpos)
  rw [hparity] at hnearest
  split_ifs at hnearest ⊢ with hdown
  · exact hnearest
  · rw [← Nat.add_assoc]
    exact hnearest

theorem nearest_zero {x : ℚ} (hlow : 0 ≤ x) (hhigh : 2 * x ≤ 1) : Nearest x 0 := by
  refine ⟨?_, ?_, fun h => absurd h (by decide)⟩
  · rw [Nat.zero_sub, show units 0 = 0 from rfl]
    simpa using hlow
  · rw [show units 0 = 0 from rfl, show units (0 + 1) = 1 from rfl]
    simpa using hhigh

/-- The magnitudes nearest to a finite code are below the infinite one. -/
theorem Nearest.lt_infinity {x : ℚ} {code : Nat} (h : Nearest x code)
    (hcode : code < infinityCode) : x < units infinityCode := by
  have hhere : (units code : ℚ) < units infinityCode := Nat.cast_lt.2 (strictMono_units hcode)
  have hnext : (units (code + 1) : ℚ) ≤ units infinityCode :=
    Nat.cast_le.2 (strictMono_units.monotone hcode)
  have hhigh := h.high
  linarith

/-- A magnitude below half the infinite one is nearest to a finite code. -/
theorem Nearest.lt_infinityCode {x : ℚ} {code : Nat} (h : Nearest x code)
    (hx : 2 * x < units infinityCode) : code < infinityCode := by
  by_contra hge
  have hcode : (units infinityCode : ℚ) ≤ units code :=
    Nat.cast_le.2 (strictMono_units.monotone (Nat.not_lt.1 hge))
  have hbefore : (0 : ℚ) ≤ units (code - 1) := Nat.cast_nonneg _
  have hlow := h.low
  linarith

theorem ofCode_eq_finite_iff {x : ℚ} {code : Nat} (hcode : Nearest x code) (negative : Bool)
    (d : Double) : ofCode negative code = .finite d ↔ d.negative = negative ∧ Nearest x d.code := by
  rw [ofCode]
  constructor
  · intro h
    split at h
    · cases h
      exact ⟨rfl, hcode⟩
    · cases h
  · rintro ⟨rfl, hd⟩
    obtain rfl := hcode.unique hd
    rw [dif_pos d.finite]

theorem one_pos : 0 < one := by decide +kernel

theorem decimal_nonneg (digits : Nat) (exponent : Int) : (0 : ℚ) ≤ digits * 10 ^ exponent * one :=
  mul_nonneg (mul_nonneg (Nat.cast_nonneg _) (zpow_nonneg (by norm_num) _)) (Nat.cast_nonneg _)

/-- More than 400 places before the point are beyond every finite number. -/
theorem units_infinityCode_lt {digits : Nat} {exponent : Int} (hdigits : digits ≠ 0)
    (hexponent : 400 < exponent) :
    (units infinityCode : ℚ) < digits * 10 ^ exponent * one := by
  have hpow : units infinityCode < 10 ^ 400 * one := by decide +kernel
  have hpow : (units infinityCode : ℚ) < 10 ^ (400 : Int) * one := by exact_mod_cast hpow
  have hone : (0 : ℚ) < one := Nat.cast_pos.2 one_pos
  have hdigits : (1 : ℚ) ≤ digits := Nat.one_le_cast.2 (Nat.pos_of_ne_zero hdigits)
  have hmono : (10 : ℚ) ^ (400 : Int) ≤ 10 ^ exponent :=
    zpow_le_zpow_right₀ (by norm_num) hexponent.le
  calc (units infinityCode : ℚ) < 10 ^ (400 : Int) * one := hpow
    _ ≤ 10 ^ exponent * one := mul_le_mul_of_nonneg_right hmono hone.le
    _ ≤ digits * 10 ^ exponent * one := by
      refine mul_le_mul_of_nonneg_right ?_ hone.le
      exact le_mul_of_one_le_left (by positivity) hdigits

/-- More than 400 zeros after the point are less than half a unit. -/
theorem two_mul_decimal_le {digits : Nat} {exponent : Int}
    (hexponent : exponent < -(400 + digits.log2 : Int)) :
    2 * (digits * 10 ^ exponent * one : ℚ) ≤ 1 := by
  have hlog : digits ≤ 10 ^ (digits.log2 + 1) :=
    Nat.lt_log2_self.le.trans (Nat.pow_le_pow_left (by decide) _)
  have hdigits : (digits : ℚ) ≤ 10 ^ (digits.log2 + 1) := by exact_mod_cast hlog
  have hone : 2 * one ≤ 10 ^ 400 := by decide +kernel
  have hone : (2 * one : ℚ) ≤ 10 ^ 400 := by exact_mod_cast hone
  have hmono : (10 : ℚ) ^ exponent ≤ 10 ^ (-(digits.log2 + 1 + 400 : Nat) : Int) :=
    zpow_le_zpow_right₀ (by norm_num) (by push_cast; omega)
  rw [zpow_neg, zpow_natCast, pow_add] at hmono
  have hten : (0 : ℚ) < 10 ^ (digits.log2 + 1) * 10 ^ 400 := by positivity
  calc 2 * (digits * 10 ^ exponent * one : ℚ)
      = digits * 10 ^ exponent * (2 * one) := by ring
    _ ≤ 10 ^ (digits.log2 + 1) * (10 ^ (digits.log2 + 1) * 10 ^ 400)⁻¹ * 10 ^ 400 := by
      refine mul_le_mul (mul_le_mul hdigits hmono ?_ ?_) hone ?_ ?_
      · positivity
      · positivity
      · exact mul_nonneg zero_le_two (Nat.cast_nonneg _)
      · positivity
    _ = 1 := by rw [mul_right_comm, mul_inv_cancel₀ hten.ne']

theorem nearest_zero_digits (exponent : Int) :
    Nearest ((0 : Nat) * 10 ^ exponent * one) 0 := by
  rw [Nat.cast_zero, zero_mul, zero_mul]
  exact nearest_zero le_rfl (by rw [mul_zero]; exact zero_le_one)

/-- Digits at a power of ten are read as the finite number nearest to them. -/
theorem ofDecimal_eq_finite_iff (negative : Bool) (digits : Nat) (exponent : Int) (d : Double) :
    ofDecimal negative digits exponent = .finite d ↔
      d.negative = negative ∧ Nearest (digits * 10 ^ exponent * one) d.code := by
  unfold ofDecimal
  split_ifs with hzero hlarge hsmall hpos
  · rw [hzero]
    exact ofCode_eq_finite_iff (nearest_zero_digits exponent) negative d
  · constructor
    · intro h
      cases h
    · rintro ⟨-, hd⟩
      exact absurd (hd.lt_infinity d.finite) (units_infinityCode_lt hzero hlarge).not_gt
  · exact ofCode_eq_finite_iff (nearest_zero (decimal_nonneg _ _) (two_mul_decimal_le hsmall))
      negative d
  · have hvalue : (digits * 10 ^ exponent * one : ℚ) =
        (digits * Nat.pow 10 exponent.toNat * one : Nat) / (1 : Nat) := by
      obtain ⟨n, rfl⟩ := Int.eq_ofNat_of_zero_le hpos
      generalize one = o
      simp [Nat.pow_eq]
    rw [ofRatio, hvalue]
    exact ofCode_eq_finite_iff (nearest_roundCode _ Nat.one_pos) negative d
  · have hvalue : (digits * 10 ^ exponent * one : ℚ) =
        (digits * one : Nat) / (Nat.pow 10 (-exponent).toNat : Nat) := by
      obtain ⟨n, hn⟩ := Int.eq_ofNat_of_zero_le (a := -exponent) (by omega)
      obtain rfl : exponent = -(n : Int) := by omega
      generalize one = o
      simp [Nat.pow_eq]
      ring
    rw [ofRatio, hvalue]
    exact ofCode_eq_finite_iff (nearest_roundCode _ (Nat.pow_pos (by decide))) negative d

/-- Integers of 64 bits are far below the infinite magnitude. -/
theorem roundCode_lt_infinityCode {n : Nat} (hn : n < 2 ^ 64) :
    roundCode (n * one) 1 < infinityCode := by
  have hbound : 2 * (n * one) < units infinityCode := by
    have hlarge : 2 * (2 ^ 64 * one) ≤ units infinityCode := by decide +kernel
    have hone := Nat.mul_lt_mul_of_pos_right hn one_pos
    generalize one = o at hlarge hone ⊢
    omega
  refine (nearest_roundCode (n * one) Nat.one_pos).lt_infinityCode ?_
  generalize units infinityCode = bound at hbound ⊢
  generalize n * one = units at hbound ⊢
  rw [Nat.cast_one, div_one]
  exact_mod_cast hbound

/-- The number nearest to an integer of 64 bits is finite. -/
theorem exists_ofInt {n : Int} (hn : n.natAbs < 2 ^ 64) : ∃ d, ofInt n = .finite d := by
  rw [ofInt, ofRatio, ofCode, dif_pos (roundCode_lt_infinityCode hn)]
  exact ⟨_, rfl⟩

theorem roundCode_mono {m n : Nat} (h : m ≤ n) : roundCode (m * one) 1 ≤ roundCode (n * one) 1 := by
  refine (nearest_roundCode (m * one) Nat.one_pos).mono (nearest_roundCode (n * one) Nat.one_pos) ?_
  have hle := Nat.mul_le_mul_right one h
  generalize m * one = x at hle ⊢
  generalize n * one = y at hle ⊢
  rw [Nat.cast_one, div_one, div_one]
  exact Nat.cast_le.2 hle

theorem one_eq_pow : one = 2 ^ 1074 := by decide +kernel

theorem exists_units_eq {n : Nat} (h : n ≤ 2 ^ 53) : ∃ code, units code = n * one := by
  rcases Nat.eq_zero_or_pos n with rfl | hpos
  · exact ⟨0, by rw [Nat.zero_mul]; rfl⟩
  -- Shifted to 53 bits, `n` is the significand of its code.
  have hlow := Nat.log2_self_le hpos.ne'
  have hhigh : n < 2 ^ (n.log2 + 1) := Nat.lt_log2_self
  obtain ⟨shift, hshift, hfirst, hlast⟩ : ∃ shift, shift ≤ 52 ∧ 2 ^ 52 ≤ n * 2 ^ shift ∧
      n * 2 ^ shift ≤ 2 ^ 53 := by
    rcases Nat.le_total n.log2 52 with hsmall | hlarge
    · refine ⟨52 - n.log2, Nat.sub_le _ _, ?_, ?_⟩
      · calc 2 ^ 52 = 2 ^ n.log2 * 2 ^ (52 - n.log2) := by rw [← pow_add]; congr 1; omega
          _ ≤ n * 2 ^ (52 - n.log2) := Nat.mul_le_mul_right _ hlow
      · calc n * 2 ^ (52 - n.log2) ≤ 2 ^ (n.log2 + 1) * 2 ^ (52 - n.log2) :=
              Nat.mul_le_mul_right _ hhigh.le
          _ = 2 ^ 53 := by rw [← pow_add]; congr 1; omega
    · refine ⟨0, Nat.zero_le _, ?_, by simpa using h⟩
      have hpow : 2 ^ 52 ≤ 2 ^ n.log2 := Nat.pow_le_pow_right (by decide) hlarge
      omega
  refine ⟨(1074 - shift) * 2 ^ 52 + n * 2 ^ shift, ?_⟩
  rw [units_add (.inr hfirst) hlast, Nat.mul_assoc, ← pow_add, Nat.add_sub_cancel' (by omega),
    one_eq_pow]

theorem units_roundCode {n : Nat} (h : n ≤ 2 ^ 53) : units (roundCode (n * one) 1) = n * one := by
  obtain ⟨code, hcode⟩ := exists_units_eq h
  have hnearest := nearest_roundCode (n * one) Nat.one_pos
  rw [← hcode, Nat.cast_one, div_one] at hnearest
  rw [← hcode, hnearest.unique (nearest_self code)]

theorem eq_of_roundCode_eq {m n : Nat} (h : roundCode (m * one) 1 = roundCode (n * one) 1)
    (hn : n < 2 ^ 53) : m = n := by
  have hexact : ∀ k ≤ 2 ^ 53, roundCode (k * one) 1 = roundCode (n * one) 1 → k = n := by
    intro k hk hcode
    have hunits := congrArg units hcode
    rw [units_roundCode hk, units_roundCode hn.le] at hunits
    exact Nat.eq_of_mul_eq_mul_right one_pos hunits
  rcases Nat.lt_or_ge n m with hlt | hle
  · -- The next integer would have the code too, being between the two.
    have hbetween := roundCode_mono (m := n + 1) hlt
    have hnext := roundCode_mono (n := n + 1) n.le_succ
    have := hexact (n + 1) hn (by omega)
    omega
  · exact hexact m (by omega) h

end Dialogue.Double
