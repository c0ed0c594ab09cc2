import Dialogue.Proofs.Numerals
import Mathlib.Tactic.SplitIfs

namespace Dialogue.Instant

open Double

theorem yearOfEra_bounds {e y : Int} (hfirst : 0 ≤ e) (hlast : e ≤ 146096)
    (hy : y = (e - e / 1460 + e / 36524 - e / 146096) / 365) :
    (0 ≤ y ∧ y ≤ 399) ∧
      (0 ≤ e - (365 * y + y / 4 - y / 100) ∧ e - (365 * y + y / 4 - y / 100) ≤ 365) ∧
      (e - (365 * y + y / 4 - y / 100) = 365 →
        (y + 1) % 4 = 0 ∧ ((y + 1) % 100 ≠ 0 ∨ (y + 1) % 400 = 0)) := by
  by_cases hend : e = 146096
  · subst hend
    obtain rfl : y = 399 := hy
    decide
  · -- Of the days of a century `c` of the era, the day is number `r`.
    obtain ⟨c, r, he, hc, hr⟩ : ∃ c r : Int, e = 36524 * c + r ∧ (0 ≤ c ∧ c ≤ 3) ∧
        (0 ≤ r ∧ r < 36524) := ⟨e / 36524, e % 36524, by omega, by omega, by omega⟩
    obtain ⟨k, hk⟩ : ∃ k, k = (24 * c + r) / 1460 := ⟨_, rfl⟩
    obtain ⟨j, hj⟩ : ∃ j, j = (r - k) / 365 := ⟨_, rfl⟩
    have hcentury : e / 36524 = c := by omega
    have hlater : e / 146096 = 0 := by omega
    have hfours : e / 1460 = 25 * c + k := by omega
    have hyear : y = 100 * c + j := by
      rw [hlater, hcentury, hfours] at hy
      omega
    have hj' : 0 ≤ j ∧ j ≤ 99 := by omega
    have hfour : y / 4 = 25 * c + j / 4 := by omega
    have hhundred : y / 100 = c := by omega
    rw [hfour, hhundred]
    -- The leap days before the year are those that `k` counts, up to one.
    have hleapDays : k = j / 4 ∨ k = j / 4 + 1 := by omega
    refine ⟨by omega, by omega, fun h => ?_⟩
    have hthird : j % 4 = 3 := by omega
    have hcenturial : j ≠ 99 := by omega
    omega

def fromMarch (m : Int) : Int := if m < 10 then m + 3 else m - 9

theorem dayNumber_fromMarch {era y m day : Int} (hy : 0 ≤ y ∧ y ≤ 399) (hm : 0 ≤ m ∧ m ≤ 11)
    (hday : 1 ≤ day) :
    dayNumber (y + era * 400 + if fromMarch m ≤ 2 then 1 else 0) (fromMarch m).toNat day.toNat =
      era * 146097 + (y * 365 + y / 4 - y / 100 + ((153 * m + 2) / 5 + day - 1)) - 719468 := by
  have hyear : (if (fromMarch m).toNat ≤ 2 then
      (y + era * 400 + if fromMarch m ≤ 2 then 1 else 0) - 1
      else y + era * 400 + if fromMarch m ≤ 2 then 1 else 0) = y + era * 400 := by
    simp only [fromMarch]
    split_ifs <;> omega
  have hmonth : ((((fromMarch m).toNat + 9) % 12 : Nat) : Int) = m := by
    simp only [fromMarch]
    split_ifs <;> omega
  have hera : (y + era * 400).fdiv 400 = era := by
    rw [Int.fdiv_eq_ediv_of_nonneg _ (by decide)]
    omega
  have hday' : (day.toNat : Int) = day := by omega
  simp only [dayNumber, hyear, hmonth, hera, hday', Int.add_sub_cancel]

/-- A month has the days up to the next one; the last one ends with the year. -/
theorem le_monthLength {m day year : Int} (hm : 0 ≤ m ∧ m ≤ 11)
    (hnext : day ≤ (153 * (m + 1) + 2) / 5 - (153 * m + 2) / 5)
    (hlast : m = 11 → day ≤ 28 ∨ day = 29 ∧ isLeap year = true) :
    day.toNat ≤ monthLength year (fromMarch m).toNat := by
  by_cases hfebruary : m = 11
  · subst hfebruary
    rw [monthLength, if_pos (by rfl)]
    rcases hlast rfl with hshort | ⟨rfl, hleap⟩
    · split <;> omega
    · rw [if_pos hleap]
      decide
  · rw [monthLength, if_neg (by simp only [fromMarch]; split_ifs <;> omega)]
    split
    · rename_i hshort
      simp only [fromMarch] at hshort
      split_ifs at hshort <;> omega
    · omega

theorem exists_date (n : Int) : ∃ year month day, date n = (year, month, day) ∧
    dayNumber year month day = n ∧ (1 ≤ month ∧ month ≤ 12) ∧ 1 ≤ day ∧
      day ≤ monthLength year month := by
  obtain ⟨era, hera⟩ : ∃ era, era = (n + 719468) / 146097 := ⟨_, rfl⟩
  obtain ⟨e, he⟩ : ∃ e, e = n + 719468 - era * 146097 := ⟨_, rfl⟩
  obtain ⟨y, hy⟩ : ∃ y, y = (e - e / 1460 + e / 36524 - e / 146096) / 365 := ⟨_, rfl⟩
  obtain ⟨doy, hdoy⟩ : ∃ doy, doy = e - (365 * y + y / 4 - y / 100) := ⟨_, rfl⟩
  obtain ⟨m, hm⟩ : ∃ m, m = (5 * doy + 2) / 153 := ⟨_, rfl⟩
  obtain ⟨day, hday⟩ : ∃ day, day = doy - (153 * m + 2) / 5 + 1 := ⟨_, rfl⟩
  have hfdiv : (n + 719468).fdiv 146097 = era := by
    rw [Int.fdiv_eq_ediv_of_nonneg _ (by decide), hera]
  obtain ⟨hyears, hdays, hleap⟩ := yearOfEra_bounds (by omega) (by omega) hy
  rw [← hdoy] at hdays hleap
  have hdate : date n = (y + era * 400 + if fromMarch m ≤ 2 then 1 else 0,
      (fromMarch m).toNat, day.toNat) := by
    simp only [date, hfdiv, ← he, ← hy, ← hdoy, ← hm, ← hday]
    rfl
  clear hy
  have hmonths : 0 ≤ m ∧ m ≤ 11 := by omega
  have hfirst : 1 ≤ day := by omega
  refine ⟨y + era * 400 + if fromMarch m ≤ 2 then 1 else 0, (fromMarch m).toNat, day.toNat,
    hdate, ?_, ?_, by omega, ?_⟩
  · rw [dayNumber_fromMarch hyears hmonths hfirst]
    omega
  · simp only [fromMarch]
    split_ifs <;> omega
  · refine le_monthLength hmonths (by omega) fun hfebruary => ?_
    by_cases hshort : day ≤ 28
    · exact .inl hshort
    · -- The day after the 28th is the last one of 366.
      obtain ⟨hfour, hcentury⟩ := hleap (by omega)
      have hfebruary' : fromMarch m ≤ 2 := by simp [fromMarch, hfebruary]
      refine .inr ⟨by omega, ?_⟩
      rw [if_pos hfebruary', isLeap, Bool.and_eq_true, Bool.or_eq_true, decide_eq_true_eq,
        decide_eq_true_eq, decide_eq_true_eq]
      omega

section Text

variable {ds rest : List Char} {n : Nat}

theorem isBlank_of_isDigit {c : Char} (h : c.isDigit = true) : Text.isBlank c = false := by
  have hbounds : 48 ≤ c.toNat ∧ c.toNat ≤ 57 := by
    simpa [Char.isDigit, UInt32.le_iff_toNat_le] using h
  simp only [Text.isBlank, Bool.or_eq_false_iff, Bool.and_eq_false_iff, decide_eq_false_iff_not,
    beq_eq_false_iff_ne]
  omega

theorem trimLeft_cons {c : Char} (hc : Text.isBlank c = false) (rest : List Char) :
    Text.trimLeft (c :: rest) = c :: rest := by
  simp [Text.trimLeft, hc]

theorem number?_digits {width : Nat} (hds : ∀ c ∈ ds, c.isDigit = true) (hne : ds ≠ [])
    (hwidth : ds.length ≤ width) (hrest : NoDigitNext rest) :
    number? width (ds ++ rest) = some (Nat.ofDigitChars 10 ds 0, rest) := by
  obtain ⟨c, cs, rfl⟩ := List.exists_cons_of_ne_nil hne
  have hc := isBlank_of_isDigit (hds c (List.mem_cons_self ..))
  have htrim : Text.trimLeft (c :: cs ++ rest) = c :: cs ++ rest := trimLeft_cons hc _
  simp only [number?, htrim, takeWhile_digits hds hrest, List.take_of_length_le hwidth]
  rw [if_neg (by simp), Numeral.run_eq_ofDigitChars hds, List.drop_left]

theorem isDigit_of_mem_padded {width : Nat} {c : Char} (h : c ∈ padded width n) :
    c.isDigit = true := by
  rcases List.mem_append.1 h with hzero | hdigit
  · rw [List.eq_of_mem_replicate hzero]
    rfl
  · exact isDigit_of_mem_digitsOf hdigit

theorem ofDigitChars_padded (width n : Nat) : Nat.ofDigitChars 10 (padded width n) 0 = n := by
  rw [padded, Nat.ofDigitChars_append, Nat.ofDigitChars_replicate_zero, Nat.mul_zero,
    ofDigitChars_digitsOf]

theorem padded_ne_nil (width n : Nat) : padded width n ≠ [] := by
  simp [padded, digitsOf, Nat.toDigits_ne_nil]

theorem length_padded {width : Nat} (hwidth : 0 < width) (hn : n < Nat.pow 10 width) :
    (padded width n).length = width := by
  have hlength : (digitsOf n).length ≤ width := (Nat.length_toDigits_le_iff (by decide) hwidth).2 hn
  simp only [padded, List.length_append, List.length_replicate]
  omega

theorem number?_padded {width : Nat} (hwidth : 0 < width) (hn : n < Nat.pow 10 width)
    (hrest : NoDigitNext rest) : number? width (padded width n ++ rest) = some (n, rest) := by
  rw [number?_digits (fun c => isDigit_of_mem_padded) (padded_ne_nil width n)
    (Nat.le_of_eq (length_padded hwidth hn)) hrest, ofDigitChars_padded]

theorem year?_yearChars (year : Int) (hrest : NoDigitNext rest) :
    year? (yearChars year ++ rest) = some (year, rest) := by
  have hdigits : ∀ n, ∃ c cs, padded 4 n = c :: cs ∧ c.isDigit = true := by
    intro n
    obtain ⟨c, cs, hpadded⟩ := List.exists_cons_of_ne_nil (padded_ne_nil 4 n)
    exact ⟨c, cs, hpadded, isDigit_of_mem_padded (hpadded ▸ List.mem_cons_self ..)⟩
  simp only [yearChars]
  split
  · rename_i hyear
    obtain ⟨c, cs, hpadded, hc⟩ := hdigits year.toNat
    have hfour : Nat.pow 10 4 = 10000 := rfl
    have hread : number? 4 (padded 4 year.toNat ++ rest) = some (year.toNat, rest) :=
      number?_padded (by decide) (by omega) hrest
    have hvalue : (year.toNat : Int) = year := by omega
    rw [hpadded] at hread ⊢
    have htrim : Text.trimLeft (c :: cs ++ rest) = c :: cs ++ rest :=
      trimLeft_cons (isBlank_of_isDigit hc) _
    simp only [year?, htrim]
    split
    · rename_i heq
      obtain ⟨rfl, -⟩ := List.cons.inj heq
      cases hc
    · rename_i heq
      obtain ⟨rfl, -⟩ := List.cons.inj heq
      cases hc
    · rw [hread, Option.map_some, hvalue]
  · rename_i hyear
    -- More digits than four may follow a sign.
    obtain ⟨c, cs, hpadded, hc⟩ := hdigits year.natAbs
    have hread : number? (padded 4 year.natAbs ++ rest).length (padded 4 year.natAbs ++ rest) =
        some (Nat.ofDigitChars 10 (padded 4 year.natAbs) 0, rest) :=
      number?_digits (fun c => isDigit_of_mem_padded) (padded_ne_nil 4 year.natAbs) (by simp) hrest
    rw [ofDigitChars_padded] at hread
    rw [hpadded] at hread ⊢
    split
    · rename_i hneg
      have htrim : Text.trimLeft ('-' :: (c :: cs ++ rest)) = '-' :: (c :: cs ++ rest) :=
        trimLeft_cons rfl _
      have hvalue : -1 * (year.natAbs : Int) = year := by omega
      rw [List.cons_append, year?, htrim]
      simp only [List.cons_append, hc, if_true] at hread ⊢
      rw [hread, Option.map_some, hvalue]
    · rename_i hneg
      have htrim : Text.trimLeft ('+' :: (c :: cs ++ rest)) = '+' :: (c :: cs ++ rest) :=
        trimLeft_cons rfl _
      have hvalue : 1 * (year.natAbs : Int) = year := by omega
      rw [List.cons_append, year?, htrim]
      simp only [List.cons_append, hc, if_true] at hread ⊢
      rw [hread, Option.map_some, hvalue]

theorem fraction?_fractionChars (hn : n < 1000000000) (hrest : NoNumberNext rest) :
    fraction? (fractionChars n ++ rest) = some (n, rest) := by
  have hpart : ∀ width m, 0 < width → width ≤ 9 → m < Nat.pow 10 width →
      fraction? ('.' :: padded width m ++ rest) = some (m * 10 ^ (9 - width), rest) := by
    intro width m hwidth hnine hm
    have hall : ∀ c ∈ padded width m, c.isDigit = true := fun c => isDigit_of_mem_padded
    have hlength := length_padded hwidth hm
    have htake : (padded width m).take 9 = padded width m :=
      List.take_of_length_le (by omega)
    rw [List.cons_append, fraction?]
    simp only [takeWhile_digits hall hrest.noDigitNext, dropWhile_digits hall hrest.noDigitNext,
      htake, hlength]
    rw [if_neg (by simp [padded_ne_nil]), Numeral.run_eq_ofDigitChars hall, ofDigitChars_padded]
    rfl
  have hthree : Nat.pow 10 3 = 1000 := rfl
  have hsix : Nat.pow 10 6 = 1000000 := rfl
  have hnine : Nat.pow 10 9 = 1000000000 := rfl
  simp only [fractionChars]
  split
  · rename_i hzero
    subst hzero
    cases rest with
    | nil => rfl
    | cons c rest =>
      obtain ⟨-, hc⟩ := hrest c rfl
      have hpoint : c ≠ '.' := by
        rintro rfl
        exact hc (List.mem_cons_self ..)
      rw [List.nil_append, fraction?.eq_def]
      split
      · rename_i heq
        exact absurd (List.cons.inj heq).1 hpoint
      · rfl
  · split
    · rw [hpart 3 (n / 1000000) (by decide) (by decide) (by omega)]
      congr 2
      omega
    · split
      · rw [hpart 6 (n / 1000) (by decide) (by decide) (by omega)]
        congr 2
        omega
      · rw [hpart 9 n (by decide) (by decide) (by omega)]
        simp

theorem noDigitNext_cons {c : Char} (hc : c.isDigit = false) (rest : List Char) :
    NoDigitNext (c :: rest) := by
  rintro c' ⟨⟩
  exact hc

theorem number?_after {α : Type} {c : Char} (hc : Text.isBlank c = false) (hn : n < 100)
    (hrest : NoDigitNext rest) (k : Nat × List Char → Option α) :
    ((after? c (Text.trimLeft (c :: (padded 2 n ++ rest)))).bind fun rest =>
      (number? 2 rest).bind k) = k (n, rest) := by
  rw [trimLeft_cons hc, after?, if_pos rfl, Option.bind_some,
    number?_padded (by decide) hn hrest, Option.bind_some]

theorem bind_guard {α : Type} {p : Prop} [Decidable p] (hp : p) (k : Unit → Option α) :
    (guard p : Option Unit).bind k = k () := by
  have hguard : (guard p : Option Unit) = if p then some () else none := rfl
  rw [hguard, if_pos hp, Option.bind_some]

theorem noDigitNext_fractionChars : NoDigitNext (fractionChars n ++ ['Z']) := by
  simp only [fractionChars]
  split
  · exact noDigitNext_cons rfl _
  · split
    · exact noDigitNext_cons rfl _
    · split
      · exact noDigitNext_cons rfl _
      · exact noDigitNext_cons rfl _

end Text

/-- Whether a clock can show an instant: its year is in range, and a leap second is the last one of
its minute. -/
structure Proper (t : Instant) : Prop where
  nanos_lt : t.nanos < 2000000000
  leap : 1000000000 ≤ t.nanos → t.seconds % 60 = 59
  first_le : -(lastYear + 1) ≤ (date (t.seconds.fdiv 86400)).1
  le_last : (date (t.seconds.fdiv 86400)).1 ≤ lastYear

theorem ofText?_toText {t : Instant} (ht : t.Proper) : ofText? t.toText = some t := by
  obtain ⟨hnanos, hleap, hfirst, hlast⟩ := ht
  obtain ⟨year, month, day, hdate, hnumber, hmonth, hday, hlength⟩ :=
    exists_date (t.seconds.fdiv 86400)
  rw [hdate] at hfirst hlast
  obtain ⟨time, htime⟩ : ∃ time, time = (t.seconds - t.seconds.fdiv 86400 * 86400).toNat :=
    ⟨_, rfl⟩
  obtain ⟨second, hsecond⟩ : ∃ second,
    second = time % 60 + if Nat.pow 10 9 ≤ t.nanos then 1 else 0 := ⟨_, rfl⟩
  obtain ⟨nanos, hnanos'⟩ : ∃ nanos,
    nanos = if Nat.pow 10 9 ≤ t.nanos then t.nanos - Nat.pow 10 9 else t.nanos := ⟨_, rfl⟩
  have hhundred : Nat.pow 10 2 = 100 := rfl
  have hbillion : Nat.pow 10 9 = 1000000000 := rfl
  have hdivision : t.seconds.fdiv 86400 = t.seconds / 86400 :=
    Int.fdiv_eq_ediv_of_nonneg _ (by decide)
  have hseconds : t.seconds.fdiv 86400 * 86400 + time = t.seconds ∧ time < 86400 := by omega
  -- Only a leap second is written as the sixtieth.
  have hclock : (if second = 60 then (59, nanos + Nat.pow 10 9) else (second, nanos)) =
      (time % 60, t.nanos) ∧ second ≤ 60 ∧ nanos < 1000000000 := by
    by_cases hleapSecond : Nat.pow 10 9 ≤ t.nanos
    · rw [if_pos hleapSecond] at hsecond hnanos'
      have hminute : time % 60 = 59 := by omega
      have hback : nanos + Nat.pow 10 9 = t.nanos := by omega
      rw [if_pos (by omega), hback, hminute]
      exact ⟨rfl, by omega, by omega⟩
    · rw [if_neg hleapSecond] at hsecond hnanos'
      rw [if_neg (by omega), hsecond, hnanos']
      exact ⟨rfl, by omega, by omega⟩
  obtain ⟨hclock, hsixty, hfraction⟩ := hclock
  have hthirty : monthLength year month ≤ 31 := by
    simp only [monthLength]
    split_ifs <;> decide
  have hwritten : dayNumber year month day * 86400 +
      (((time / 3600 * 60 + time / 60 % 60) * 60 + time % 60 : Nat) : Int) - 0 = t.seconds := by
    rw [hnumber]
    omega
  have hz : NoNumberNext ['Z'] := by
    rintro c ⟨⟩
    decide
  have htext : t.toText.toList = yearChars year ++ '-' :: (padded 2 month ++ '-' ::
      (padded 2 day ++ 'T' :: (padded 2 (time / 3600) ++ ':' :: (padded 2 (time / 60 % 60) ++
        ':' :: (padded 2 second ++ (fractionChars nanos ++ ['Z'])))))) := by
    simp only [toText, hdate, ← htime, ← hsecond, ← hnanos', String.toList_ofList,
      List.append_assoc, List.cons_append]
  rw [ofText?, htext]
  dsimp only [Option.bind_eq_bind]
  rw [year?_yearChars _ (noDigitNext_cons rfl _), Option.bind_some,
    number?_after rfl (by omega) (noDigitNext_cons rfl _),
    number?_after rfl (by omega) (noDigitNext_cons rfl _)]
  dsimp only
  rw [if_pos (.inl rfl), Option.bind_some,
    number?_padded (by decide) (by omega) (noDigitNext_cons rfl _), Option.bind_some,
    number?_after rfl (by omega) (noDigitNext_cons rfl _),
    number?_after rfl (by omega) noDigitNext_fractionChars,
    fraction?_fractionChars hfraction hz, Option.bind_some]
  have hoffset : offset? (Text.trimLeft ['Z']) = some (0, []) := rfl
  have hend : (Text.trimLeft []).isEmpty = true := rfl
  have hdateRange : -(lastYear + 1) ≤ year ∧ year ≤ lastYear ∧ 1 ≤ month ∧ month ≤ 12 :=
    ⟨hfirst, hlast, hmonth⟩
  have htimeRange : 1 ≤ day ∧ day ≤ monthLength year month ∧ time / 3600 ≤ 23 ∧
      time / 60 % 60 ≤ 59 ∧ second ≤ 60 := ⟨hday, hlength, by omega, by omega, hsixty⟩
  rw [hoffset, Option.bind_some, bind_guard hend, bind_guard hdateRange, bind_guard htimeRange,
    hclock]
  dsimp only
  rw [hwritten, hdate, bind_guard ⟨hfirst, hlast⟩]

end Dialogue.Instant
