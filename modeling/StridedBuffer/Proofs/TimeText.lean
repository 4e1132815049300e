import Mathlib
import StridedBuffer.Clock.Time

/-! # Reading back RFC 3339 text

The text of an instant is read back as the same instant. Three facts carry it: a number
written in its width is read back by a reader of that width, the fraction loses only its
trailing zeros, and the civil date the calendar shows for a day counts back to that day.
The last is the era arithmetic of the civil calendar, split at the eras, centuries and
four-year blocks so that each step is linear.
-/

namespace StridedBuffer.Clock

/-! ## Digits -/

theorem digitsValue_eq_ofDigitChars (cs : List Char) :
    digitsValue cs = Nat.ofDigitChars 10 cs 0 := by
  simp only [digitsValue, Nat.ofDigitChars, Nat.mul_comm]
  rfl

theorem isDigit_eq (c : Char) : isDigit c = c.isDigit := by
  simp [isDigit, Char.isDigit, Char.le_def]

theorem padded_toList (w n : Nat) : (padded w n).toList =
    List.replicate (w - (Nat.toDigits 10 n).length) '0' ++ Nat.toDigits 10 n := by
  simp [padded, Nat.repr_eq_ofList_toDigits]

theorem padded_length {w n : Nat} (hw : 0 < w) (h : n < 10 ^ w) :
    (padded w n).toList.length = w := by
  have hle := (Nat.length_toDigits_le_iff (by decide) hw).mpr h
  simp only [padded_toList, List.length_append, List.length_replicate]
  omega

theorem digitsValue_padded (w n : Nat) : digitsValue (padded w n).toList = n := by
  rw [digitsValue_eq_ofDigitChars, padded_toList, Nat.ofDigitChars_append,
    Nat.ofDigitChars_replicate_zero, Nat.mul_zero, Nat.ofDigitChars_ten_toDigits]

theorem isDigit_of_mem_padded {w n : Nat} {c : Char} (h : c ∈ (padded w n).toList) :
    isDigit c = true := by
  rw [padded_toList, List.mem_append] at h
  rw [isDigit_eq]
  rcases h with h | h
  · rw [List.eq_of_mem_replicate h]
    rfl
  · exact Nat.isDigit_of_mem_toDigits (by decide) (by decide) h

theorem fixedDigits_padded {w n : Nat} (hw : 0 < w) (h : n < 10 ^ w) (rest : List Char) :
    fixedDigits w ((padded w n).toList ++ rest) = some (n, rest) := by
  have hl := padded_length hw h
  have htake : ((padded w n).toList ++ rest).take w = (padded w n).toList := by
    simp [hl]
  have hdrop : ((padded w n).toList ++ rest).drop w = rest := by
    simp [hl]
  simp only [fixedDigits, htake, hdrop, hl, digitsValue_padded, List.all_eq_true, true_and]
  rw [if_pos fun _ hc => isDigit_of_mem_padded hc]

theorem shortDigits_padded {n : Nat} (h : n < 100) (rest : List Char) :
    shortDigits ((padded 2 n).toList ++ rest) = some (n, rest) := by
  obtain ⟨a, b, hab⟩ := List.length_eq_two.mp (padded_length (by decide) h)
  have ha : isDigit a = true := isDigit_of_mem_padded (by rw [hab]; simp)
  have hb : isDigit b = true := isDigit_of_mem_padded (by rw [hab]; simp)
  have hv : digitsValue [a, b] = n := hab ▸ digitsValue_padded 2 n
  rw [hab]
  simp [shortDigits, ha, hb, hv]

theorem reverse_dropWhile_zeros (ds : List Char) :
    ds = (ds.reverse.dropWhile (· == '0')).reverse ++
      List.replicate (ds.reverse.takeWhile (· == '0')).length '0' := by
  have hz : (ds.reverse.takeWhile (· == '0')).reverse =
      List.replicate (ds.reverse.takeWhile (· == '0')).length '0' := by
    rw [List.eq_replicate_iff]
    refine ⟨by simp, fun c hc => ?_⟩
    simpa using List.mem_takeWhile_imp (List.mem_reverse.mp hc)
  conv_lhs => rw [← List.reverse_reverse ds,
    ← List.takeWhile_append_dropWhile (p := (· == '0')) (l := ds.reverse)]
  rw [List.reverse_append, hz]

theorem fraction_fractionText {nanos : Nat} (h : nanos < 10 ^ 9) :
    fraction ((fractionText nanos).toList ++ ['Z']) = (nanos, ['Z']) := by
  by_cases h0 : nanos = 0
  · subst h0
    rfl
  obtain ⟨ds, hds⟩ : ∃ ds, ds = (padded 9 nanos).toList := ⟨_, rfl⟩
  obtain ⟨s, hs⟩ : ∃ s, s = (ds.reverse.dropWhile (· == '0')).reverse := ⟨_, rfl⟩
  have htext : (fractionText nanos).toList = '.' :: s := by
    simp [fractionText, h0, hs, hds]
  have hsub : List.Sublist s ds := by
    simpa [hs] using (List.dropWhile_sublist (· == '0') (l := ds.reverse)).reverse
  have hdig : ∀ c ∈ s, isDigit c = true :=
    fun c hc => isDigit_of_mem_padded (hds ▸ hsub.subset hc)
  have hds9 : ds.length = 9 := hds ▸ padded_length (by decide) h
  have hval : digitsValue s * 10 ^ (9 - s.length) = nanos := by
    have hsplit := reverse_dropWhile_zeros ds
    rw [← hs] at hsplit
    have hk : (ds.reverse.takeWhile (· == '0')).length = 9 - s.length := by
      have := congrArg List.length hsplit
      simp only [List.length_append, List.length_replicate] at this
      omega
    have hv := digitsValue_padded 9 nanos
    rw [← hds, hsplit, hk, digitsValue_eq_ofDigitChars, Nat.ofDigitChars_append,
      Nat.ofDigitChars_replicate_zero, ← digitsValue_eq_ofDigitChars] at hv
    rw [← hv, Nat.mul_comm]
  obtain ⟨d, s', rfl⟩ : ∃ d s', s = d :: s' := by
    cases s with
    | nil =>
      rw [show digitsValue [] = 0 from rfl, Nat.zero_mul] at hval
      exact absurd hval.symm h0
    | cons d s' => exact ⟨d, s', rfl⟩
  have hd : isDigit d = true := hdig d (by simp)
  have hs' : ∀ c ∈ s', isDigit c = true := fun c hc => hdig c (by simp [hc])
  have hlen : (d :: s').length ≤ 9 := hds9 ▸ hsub.length_le
  have hZ : isDigit 'Z' = false := by decide
  rw [htext]
  simp only [List.cons_append, fraction, hd, List.takeWhile_append_of_pos hs',
    List.dropWhile_append_of_pos hs', List.takeWhile_cons, List.dropWhile_cons, hZ,
    List.takeWhile_nil, Bool.false_eq_true, if_false, List.append_nil, true_or, and_self,
    if_true, List.take_of_length_le hlen]
  simpa [Nat.pow_eq] using hval

/-! ## The civil calendar -/

theorem era_parts (doe : Int) (h0 : 0 ≤ doe) (h1 : doe ≤ 146096) : doe = 146096 ∨
    ∃ c k j, 0 ≤ c ∧ c ≤ 3 ∧ 0 ≤ k ∧ k ≤ 24 ∧ 0 ≤ j ∧ j ≤ 1460 ∧ (k = 24 → j ≤ 1459) ∧
      doe = 36524 * c + 1461 * k + j := by
  by_cases h : doe = 146096
  · exact .inl h
  · refine .inr ⟨doe / 36524, doe % 36524 / 1461, doe % 36524 % 1461, ?_⟩
    omega

theorem yearOfEra_parts (c k j : Int) (hc0 : 0 ≤ c) (hc : c ≤ 3) (hk0 : 0 ≤ k) (hk : k ≤ 24)
    (hj0 : 0 ≤ j) (hj : j ≤ 1460) (hkj : k = 24 → j ≤ 1459) :
    let doe := 36524 * c + 1461 * k + j
    (doe - doe / 1460 + doe / 36524 - doe / 146096) / 365 =
      100 * c + 4 * k + (j - (24 * c + k + j) / 1460) / 365 := by
  intro doe
  have hq : doe / 1460 = 25 * c + k + (24 * c + k + j) / 1460 := by omega
  have hcent : doe / 36524 = c := by omega
  have hera : doe / 146096 = 0 := by omega
  rw [hq, hcent, hera]
  omega

theorem yearOfEra_bounds (doe yoe doy : Int) (h0 : 0 ≤ doe) (h1 : doe ≤ 146096)
    (hy : yoe = (doe - doe / 1460 + doe / 36524 - doe / 146096) / 365)
    (hd : doy = doe - (365 * yoe + yoe / 4 - yoe / 100)) :
    0 ≤ yoe ∧ yoe ≤ 399 ∧ 0 ≤ doy ∧ doy ≤ 365 ∧
      (doy = 365 → (yoe + 1) % 4 = 0 ∧ ((yoe + 1) % 100 ≠ 0 ∨ (yoe + 1) % 400 = 0)) := by
  rcases era_parts doe h0 h1 with rfl | ⟨c, k, j, hc0, hc, hk0, hk, hj0, hj, hkj, rfl⟩
  · subst hy hd
    decide
  · rw [yearOfEra_parts c k j hc0 hc hk0 hk hj0 hj hkj] at hy
    obtain ⟨b, hb⟩ : ∃ b, b = (24 * c + k + j) / 1460 := ⟨_, rfl⟩
    obtain ⟨t, ht⟩ : ∃ t, t = (j - b) / 365 := ⟨_, rfl⟩
    rw [← hb, ← ht] at hy
    have hb1 : 0 ≤ b ∧ b ≤ 1 ∧ (b = 1 ↔ 1460 ≤ 24 * c + k + j) := by omega
    have ht3 : 0 ≤ t ∧ t ≤ 3 ∧ 0 ≤ j - b - 365 * t ∧ j - b - 365 * t ≤ 364 := by omega
    have h4 : yoe / 4 = 25 * c + k := by omega
    have h100 : yoe / 100 = c := by omega
    rw [h4, h100] at hd
    subst hy
    have hdoy : doy = j - 365 * t := by omega
    subst hdoy
    refine ⟨by omega, by omega, by omega, by omega, fun h365 => ?_⟩
    have hlast : j = 1460 ∧ t = 3 ∧ k ≤ 23 := by omega
    omega

theorem civilFromDays_eq (z : Int) : ∃ era yoe doy mp : Int,
    0 ≤ yoe ∧ yoe ≤ 399 ∧ 0 ≤ doy ∧ doy ≤ 365 ∧
    (doy = 365 → (yoe + 1) % 4 = 0 ∧ ((yoe + 1) % 100 ≠ 0 ∨ (yoe + 1) % 400 = 0)) ∧
    mp = (5 * doy + 2) / 153 ∧
    z = era * 146097 + (365 * yoe + yoe / 4 - yoe / 100 + doy) - 719468 ∧
    civilFromDays z =
      (if (if mp < 10 then mp + 3 else mp - 9) ≤ 2 then yoe + era * 400 + 1 else yoe + era * 400,
        if mp < 10 then mp + 3 else mp - 9, doy - (153 * mp + 2) / 5 + 1) := by
  obtain ⟨era, hera⟩ : ∃ era, era = (z + 719468) / 146097 := ⟨_, rfl⟩
  obtain ⟨doe, hdoe⟩ : ∃ doe, doe = z + 719468 - era * 146097 := ⟨_, rfl⟩
  obtain ⟨yoe, hyoe⟩ : ∃ yoe, yoe = (doe - doe / 1460 + doe / 36524 - doe / 146096) / 365 :=
    ⟨_, rfl⟩
  obtain ⟨doy, hdoy⟩ : ∃ doy, doy = doe - (365 * yoe + yoe / 4 - yoe / 100) := ⟨_, rfl⟩
  obtain ⟨hy0, hy399, hd0, hd365, hleap⟩ :=
    yearOfEra_bounds doe yoe doy (by omega) (by omega) hyoe hdoy
  refine ⟨era, yoe, doy, _, hy0, hy399, hd0, hd365, hleap, rfl, by omega, ?_⟩
  simp only [civilFromDays]
  rw [← hera, ← hdoe, ← hyoe, ← hdoy]

/-- The civil date of a day count is a valid date that counts back to the same day. -/
theorem civilFromDays_valid (z : Int) :
    daysFromCivil (civilFromDays z).1 (civilFromDays z).2.1 (civilFromDays z).2.2 = z ∧
      1 ≤ (civilFromDays z).2.1 ∧ (civilFromDays z).2.1 ≤ 12 ∧ 1 ≤ (civilFromDays z).2.2 ∧
      (civilFromDays z).2.2 ≤ daysIn (civilFromDays z).2.1 (civilFromDays z).1 := by
  obtain ⟨era, yoe, doy, mp, hy0, hy399, hd0, hd365, hleap, hmp, hz, hc⟩ := civilFromDays_eq z
  rw [hc]
  dsimp only
  have hmp11 : 0 ≤ mp ∧ mp ≤ 11 := by omega
  have hy400 : (yoe + era * 400) / 400 = era := by omega
  refine ⟨?_, by split_ifs <;> omega, by split_ifs <;> omega, by omega, ?_⟩
  · simp only [daysFromCivil]
    by_cases h10 : mp < 10
    · have hm : ¬ mp + 3 ≤ 2 := by omega
      simp only [h10, hm, if_true, if_false, hy400, add_sub_cancel_right]
      omega
    · have hm : mp - 9 ≤ 2 := by omega
      simp only [h10, hm, if_true, if_false, add_sub_cancel_right, hy400]
      omega
  · simp only [daysIn, isLeap]
    by_cases h11 : mp = 11
    · subst h11
      by_cases h365 : doy = 365
      · obtain ⟨h4, h100⟩ := hleap h365
        simp only [show ¬ (11 : Int) < 10 by decide, if_false]
        norm_num
        omega
      · simp
        split_ifs <;> omega
    · split_ifs <;> omega

/-- Day zero is the epoch, 1 January 1970. -/
example : civilFromDays 0 = (1970, 1, 1) ∧ daysFromCivil 1970 1 1 = 0 := by decide

/-- The days from 0000-01-01 to 9999-12-31 have years of four digits. -/
theorem civilFromDays_year {z : Int} (hlo : -719528 ≤ z) (hhi : z ≤ 2932896) :
    0 ≤ (civilFromDays z).1 ∧ (civilFromDays z).1 ≤ 9999 := by
  obtain ⟨era, yoe, doy, mp, hy0, hy399, hd0, hd365, hleap, hmp, hz, hc⟩ := civilFromDays_eq z
  rw [hc]
  dsimp only
  have hcap : 365 * yoe + yoe / 4 - yoe / 100 ≤ 145731 := by omega
  rcases (by omega : era = -1 ∨ (0 ≤ era ∧ era ≤ 23) ∨ era = 24) with h | h | h
  all_goals split_ifs <;> omega

theorem daysIn_le (m y : Int) : daysIn m y ≤ 31 := by
  simp only [daysIn]
  split_ifs <;> omega

/-! ## Text -/

theorem calendarSeconds_of_range {wall : Int} (hlo : -62167219200 ≤ wall)
    (hhi : wall < 253402300800) : calendarSeconds wall = wall := by
  have h64 : ((Nat.pow 2 64 : Nat) : Int) = 18446744073709551616 := by decide
  rw [calendarSeconds, h64, calendarStart, Int.emod_eq_of_lt (by omega) (by omega)]
  omega

/-- An instant of a year of four digits, written as RFC 3339 text in UTC with its
fraction, reads back as the same instant in UTC. -/
theorem parse_text_utc (t : Instant) (hlo : -62167219200 ≤ t.seconds)
    (hhi : t.seconds < 253402300800) (hn : t.nanos < 1000000000) :
    parse (t.utc.text true) = some t.utc := by
  obtain ⟨y, m, d, hcivil⟩ : ∃ y m d, civilFromDays (t.seconds / 86400) = (y, m, d) :=
    ⟨_, _, _, rfl⟩
  have hvalid := civilFromDays_valid (t.seconds / 86400)
  have hyear := civilFromDays_year (z := t.seconds / 86400) (by omega) (by omega)
  rw [hcivil] at hvalid hyear
  dsimp only at hvalid hyear
  obtain ⟨hround, hm1, hm12, hd1, hdmax⟩ := hvalid
  have hsecs : 0 ≤ t.seconds % 86400 ∧ t.seconds % 86400 < 86400 := by omega
  have htext : (t.utc.text true).toList = (padded 4 y.natAbs).toList ++ '-' ::
      (padded 2 m.toNat).toList ++ '-' :: (padded 2 d.toNat).toList ++ 'T' ::
      (padded 2 ((t.seconds % 86400).toNat / 3600)).toList ++ ':' ::
      (padded 2 ((t.seconds % 86400).toNat / 60 % 60)).toList ++ ':' ::
      (padded 2 ((t.seconds % 86400).toNat % 60)).toList ++ (fractionText t.nanos).toList ++
      ['Z'] := by
    simp [Instant.text, Instant.wallText, Instant.utc, calendarSeconds_of_range hlo hhi, hcivil,
      paddedInt, zoneText, show ¬ y < 0 by omega]
  have hy4 : y.natAbs < 10 ^ 4 := by omega
  have hm2 : m.toNat < 10 ^ 2 := by omega
  have hd2 : d.toNat < 10 ^ 2 := by have := daysIn_le m y; omega
  have hh2 : (t.seconds % 86400).toNat / 3600 < 100 := by omega
  have hmin2 : (t.seconds % 86400).toNat / 60 % 60 < 10 ^ 2 := by omega
  have hs2 : (t.seconds % 86400).toNat % 60 < 10 ^ 2 := by omega
  simp only [parse, htext, List.append_assoc, List.cons_append, fixedDigits_padded (by decide) hy4,
    fixedDigits_padded (by decide) hm2, fixedDigits_padded (by decide) hd2, shortDigits_padded hh2,
    fixedDigits_padded (by decide) hmin2, fixedDigits_padded (by decide) hs2,
    fraction_fractionText (show t.nanos < 10 ^ 9 by omega), literal, Option.bind_eq_bind,
    Option.bind_some, if_true]
  have hz : zone ['Z'] = some 0 := rfl
  rw [hz, Option.bind_some, Int.natAbs_of_nonneg hyear.1, Int.toNat_of_nonneg (by omega : 0 ≤ m),
    Int.toNat_of_nonneg (by omega : 0 ≤ d), hround, if_neg (by omega), if_neg (by omega)]
  simp only [Instant.utc, Option.some.injEq, Instant.mk.injEq, and_true]
  omega

end StridedBuffer.Clock
