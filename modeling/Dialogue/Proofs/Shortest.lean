import Dialogue.Proofs.Rounding
import Mathlib.Data.Nat.Cast.Order.Field

namespace Dialogue.Double

def Decimal.value (d : Decimal) : ℚ := d.digits * 10 ^ d.exponent

theorem Decimal.value_strip (fuel : Nat) (d : Decimal) : (d.strip fuel).value = d.value := by
  induction fuel generalizing d with
  | zero => rfl
  | succ fuel ih =>
    rw [strip]
    split
    · rename_i h
      obtain ⟨n, hn⟩ : ∃ n, d.digits = n * 10 := ⟨d.digits / 10, by omega⟩
      rw [ih, value, value, hn, Nat.mul_div_cancel _ (by decide), zpow_add_one₀ (by norm_num)]
      push_cast
      ring
    · rfl

theorem scaled_spec (num : Nat) {den : Nat} (hden : 0 < den) (exponent : Int) :
    0 < (scaled num den exponent).2 ∧
      ((scaled num den exponent).1 / (scaled num den exponent).2 : ℚ) =
        num / den * 10 ^ exponent := by
  rw [scaled]
  split
  · rename_i h
    obtain ⟨n, rfl⟩ := Int.eq_ofNat_of_zero_le h
    refine ⟨hden, ?_⟩
    rw [Int.toNat_natCast, zpow_natCast, Nat.pow_eq]
    push_cast
    ring
  · obtain ⟨n, hn⟩ := Int.eq_ofNat_of_zero_le (a := -exponent) (by omega)
    obtain rfl : exponent = -(n : Int) := by omega
    refine ⟨Nat.mul_pos hden (Nat.pow_pos (by decide)), ?_⟩
    rw [neg_neg, Int.toNat_natCast, zpow_neg, zpow_natCast, Nat.pow_eq]
    push_cast
    field_simp

theorem cast_mul_le_iff {a n d : Nat} (hd : 0 < d) : a * d ≤ n ↔ (a : ℚ) ≤ n / d := by
  rw [le_div_iff₀ (Nat.cast_pos.2 hd), ← Nat.cast_mul, Nat.cast_le]

theorem le_cast_mul_iff {a n d : Nat} (hd : 0 < d) : n ≤ a * d ↔ (n / d : ℚ) ≤ a := by
  rw [div_le_iff₀ (Nat.cast_pos.2 hd), ← Nat.cast_mul, Nat.cast_le]

theorem roundsTo_iff (code q : Nat) (exponent : Int) :
    roundsTo code q exponent = true ↔ Nearest (Decimal.value ⟨q, exponent⟩ * one) code := by
  obtain ⟨hden, hvalue⟩ := scaled_spec (2 * q * one) Nat.one_pos exponent
  have htwice : ((2 * q * one : Nat) : ℚ) / (1 : Nat) * 10 ^ exponent =
      2 * (Decimal.value ⟨q, exponent⟩ * one) := by
    rw [Decimal.value]
    push_cast
    ring
  rw [htwice] at hvalue
  simp only [roundsTo]
  generalize (scaled (2 * q * one) 1 exponent).1 = n at *
  generalize (scaled (2 * q * one) 1 exponent).2 = d at *
  have hlow := cast_mul_le_iff (a := units (code - 1) + units code) (n := n) hden
  have hhigh := le_cast_mul_iff (a := units code + units (code + 1)) (n := n) hden
  have hlow' := not_congr (le_cast_mul_iff (a := units (code - 1) + units code) (n := n) hden)
  have hhigh' := not_congr (cast_mul_le_iff (a := units code + units (code + 1)) (n := n) hden)
  rw [hvalue, Nat.cast_add] at hlow hhigh hlow' hhigh'
  rw [not_le, not_le] at hlow' hhigh'
  split
  · rename_i heven
    rw [Bool.and_eq_true, decide_eq_true_iff, decide_eq_true_iff, hlow, hhigh]
    exact ⟨fun h => ⟨h.1, h.2, fun hodd => by omega⟩, fun h => ⟨h.low, h.high⟩⟩
  · rename_i hodd
    rw [Bool.and_eq_true, decide_eq_true_iff, decide_eq_true_iff, hlow', hhigh']
    refine ⟨fun h => ⟨h.1.le, h.2.le, fun _ => ⟨h.1.ne, h.2.ne⟩⟩, fun h => ?_⟩
    have htie := h.tie (by omega)
    exact ⟨lt_of_le_of_ne h.low htie.1, lt_of_le_of_ne h.high htie.2⟩

theorem nearest_gridPoint {code q : Nat} {exponent : Int} (h : gridPoint code exponent = some q) :
    Nearest (Decimal.value ⟨q, exponent⟩ * one) code := by
  rw [← roundsTo_iff]
  simp only [gridPoint, nearest] at h
  split at h
  · rename_i hfirst hsecond
    cases h
    split
    · exact hfirst
    · exact hsecond
  · rename_i hfirst _
    cases h
    exact hfirst
  · rename_i _ hsecond
    cases h
    exact hsecond
  · cases h

/-- A magnitude below a code's by less than half the gap to the code before rounds to it. -/
theorem nearest_of_close {x : ℚ} {code : Nat} (hcode : 0 < code) (hle : x ≤ units code)
    (hclose : 2 ^ 54 * (units code - x) < units code) : Nearest x code := by
  obtain ⟨code, rfl⟩ : ∃ n, code = n + 1 := ⟨code - 1, by omega⟩
  obtain ⟨step, hstep, hsucc, hbound⟩ := exists_units_succ code
  have hbefore : (units (code + 1) : ℚ) = units code + step := by rw [hsucc, Nat.cast_add]
  have hbound : (units (code + 1) : ℚ) ≤ 2 ^ 53 * step := by exact_mod_cast hbound
  have hafter : (units (code + 1) : ℚ) < units (code + 1 + 1) :=
    Nat.cast_lt.2 (strictMono_units (Nat.lt_succ_self _))
  have hlow : (units code + units (code + 1) : ℚ) < 2 * x := by
    norm_num at hclose hbound
    linarith
  have hhigh : 2 * x < units (code + 1) + units (code + 1 + 1) := by linarith
  exact ⟨by simpa using hlow.le, hhigh.le, fun _ => ⟨by simpa using hlow.ne, hhigh.ne⟩⟩

/-- A grid with steps far shorter than a code's magnitude has a point that rounds to the code. -/
theorem exists_gridPoint {code : Nat} {exponent : Int} (hcode : 0 < code)
    (hshort : 2 ^ 54 * (10 ^ exponent * one : ℚ) < units code) :
    ∃ q, gridPoint code exponent = some q := by
  have hone : (0 : ℚ) < one := Nat.cast_pos.2 one_pos
  have hten : (0 : ℚ) < 10 ^ exponent := zpow_pos (by norm_num) _
  obtain ⟨hden, hvalue⟩ := scaled_spec (units code) one_pos (-exponent)
  have hfirst : roundsTo code ((scaled (units code) one (-exponent)).1 /
      (scaled (units code) one (-exponent)).2) exponent = true := by
    rw [roundsTo_iff, Decimal.value]
    generalize (scaled (units code) one (-exponent)).1 = n at *
    generalize (scaled (units code) one (-exponent)).2 = d at *
    -- The magnitude is between the point below it and the next one.
    have hgrid : (n / d : ℚ) * 10 ^ exponent * one = units code := by
      rw [hvalue, zpow_neg]
      field_simp
    have hbelow : ((n / d : Nat) : ℚ) ≤ n / d := Nat.cast_div_le
    have habove : (n / d : ℚ) < (n / d : Nat) + 1 := by
      rw [div_lt_iff₀ (Nat.cast_pos.2 hden), mul_comm]
      exact_mod_cast Nat.lt_mul_div_succ n hden
    have hstep : (0 : ℚ) < 10 ^ exponent * one := mul_pos hten hone
    rw [mul_assoc] at hgrid ⊢
    refine nearest_of_close hcode ?_ ?_
    · rw [← hgrid]
      exact mul_le_mul_of_nonneg_right hbelow hstep.le
    · refine lt_of_le_of_lt (mul_le_mul_of_nonneg_left ?_ (by positivity)) hshort
      rw [← hgrid, ← sub_mul]
      exact mul_le_of_le_one_left hstep.le (by linarith)
  simp only [gridPoint, hfirst]
  split
  · exact ⟨_, rfl⟩
  · exact ⟨_, rfl⟩
  · rename_i h _
    cases h
  · rename_i h _
    cases h

/-- The digits found are those of a decimal that rounds to the code. -/
theorem nearest_shortestFrom {code fuel : Nat} {exponent : Int}
    (h : ∃ q, gridPoint code (exponent - fuel) = some q) :
    Nearest ((shortestFrom code fuel exponent).value * one) code := by
  induction fuel generalizing exponent with
  | zero =>
    obtain ⟨q, hq⟩ := h
    rw [Int.natCast_zero, Int.sub_zero] at hq
    rw [shortestFrom, hq]
    exact nearest_gridPoint hq
  | succ fuel ih =>
    rw [shortestFrom]
    split
    · rename_i q hq
      exact nearest_gridPoint hq
    · refine ih ?_
      rw [Int.sub_sub, Int.add_comm]
      exact h

theorem le_leadingZeros {den fuel num : Nat} (h : den ≤ num * 10 ^ fuel) :
    den ≤ num * 10 ^ leadingZeros den fuel num := by
  induction fuel generalizing num with
  | zero => exact h
  | succ fuel ih =>
    rw [leadingZeros]
    split
    · rename_i hle
      simpa using hle
    · have hfuel : den ≤ 10 * num * 10 ^ fuel := by
        rw [Nat.pow_succ] at h
        linarith
      have hstep := ih hfuel
      rw [Nat.pow_succ]
      linarith

theorem pow_length_digits_le {n : Nat} (h : 0 < n) : 10 ^ ((Nat.toDigits 10 n).length - 1) ≤ n := by
  rcases Nat.eq_zero_or_pos ((Nat.toDigits 10 n).length - 1) with hone | hmore
  · rw [hone]
    exact h
  · refine Nat.le_of_not_lt fun hlt => ?_
    have := (Nat.length_toDigits_le_iff (by decide) hmore).2 hlt
    omega

/-- The leading digit stands at a power of ten that the magnitude reaches. -/
theorem leadingExponent_le {code : Nat} (hcode : 0 < code) :
    (10 ^ leadingExponent (units code) one * one : ℚ) ≤ units code := by
  have hunits : 0 < units code := strictMono_units hcode
  rw [leadingExponent]
  split
  · rename_i hle
    have hdigits := pow_length_digits_le (Nat.div_pos hle one_pos)
    have hpos : 0 < (Nat.toDigits 10 (units code / one)).length := Nat.length_toDigits_pos
    obtain ⟨k, hk⟩ : ∃ k, (Nat.toDigits 10 (units code / one)).length = k + 1 :=
      ⟨_, (Nat.succ_pred_eq_of_pos hpos).symm⟩
    rw [hk, Nat.add_sub_cancel, Nat.le_div_iff_mul_le one_pos] at hdigits
    rw [hk, Nat.cast_succ, add_sub_cancel_right, zpow_natCast]
    exact_mod_cast hdigits
  · have hfuel : one ≤ units code * 10 ^ 400 := by
      have hone : one ≤ 10 ^ 400 := by decide +kernel
      exact hone.trans (Nat.le_mul_of_pos_left _ hunits)
    have hle : (one : ℚ) ≤ units code * 10 ^ leadingZeros one 400 (units code) := by
      exact_mod_cast le_leadingZeros hfuel
    rw [zpow_neg, zpow_natCast, inv_mul_le_iff₀ (by positivity), mul_comm]
    exact hle

theorem nearest_shortest (code : Nat) : Nearest ((shortest code).value * one) code := by
  rw [shortest]
  split
  · rename_i h
    subst h
    exact nearest_zero_digits _
  · rename_i h
    have hcode := Nat.pos_of_ne_zero h
    have hunits : (0 : ℚ) < units code := Nat.cast_pos.2 (strictMono_units hcode)
    have hlead := leadingExponent_le hcode
    rw [Decimal.value_strip]
    refine nearest_shortestFrom (exists_gridPoint hcode ?_)
    have hshift : (10 ^ (leadingExponent (units code) one - (17 : Nat)) * one : ℚ) =
        10 ^ leadingExponent (units code) one * one / 10 ^ 17 := by
      rw [zpow_sub₀ (by norm_num), zpow_natCast]
      ring
    rw [hshift]
    generalize (10 ^ leadingExponent (units code) one * one : ℚ) = x at *
    norm_num
    linarith

end Dialogue.Double
