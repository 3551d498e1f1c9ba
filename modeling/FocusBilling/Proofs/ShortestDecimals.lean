import Mathlib.Data.Nat.Cast.Order.Field
import FocusBilling.Proofs.Rounding

/-!
# Shortest decimals of doubles

The search for the shortest decimal of a double ends, and where it ends tells whether the double is
a whole number.

* `Interval.has_onGrid`, `Interval.has_of_wholeIn` : what is found on a grid lies in the interval;
* `Shortest.search_eq` : the search ends at the first grid on which something is found;
* `Shortest.exists_wholeIn_double` : the last grid of the search for a double has a point in its
  interval;
* `Shortest.dvd_iff_exists_eq`, `Shortest.eq_of_has_whole` : the doubles that are whole numbers, and
  the whole numbers in the interval of a double;
* `Shortest.digits_double` : **the shortest decimal of a double.**

The search tries 24 grids, the first of them above the leading digit, so the last one is finer than
half a unit of the last bit: `exponentBound` is above 0.30103 times the place of the leading bit,
and ten lies between the powers 83 / 25 and 10 / 3 of two.
-/

namespace FocusBilling

namespace Interval

variable {i : Interval} {d n : ℕ} {k : ℤ}

/-! ### Grids -/

theorem den_onGrid_pos (hden : 0 < i.den) : 0 < (i.onGrid k).den := by
  unfold onGrid
  split
  · positivity
  · exact hden

theorem closed_onGrid : (i.onGrid k).closed = i.closed := by
  unfold onGrid
  split <;> rfl

/-- Whatever is counted in steps of a grid is so many times fewer. -/
theorem onGrid_eq (i : Interval) (k : ℤ) :
    (i.onGrid k).lower = i.lower / 10 ^ k ∧ (i.onGrid k).upper = i.upper / 10 ^ k ∧
      ((i.onGrid k).value / (i.onGrid k).den : ℚ) = i.value / i.den / 10 ^ k := by
  unfold onGrid lower upper
  split
  next hk =>
    obtain ⟨k, rfl⟩ := Int.eq_ofNat_of_zero_le hk
    simp [div_div]
  next hk =>
    obtain ⟨n, hn⟩ := Int.eq_ofNat_of_zero_le (show 0 ≤ -k by omega)
    rw [hn, ← neg_neg k, hn]
    simp [zpow_neg, mul_div_right_comm]

theorem has_onGrid {x : ℚ} : (i.onGrid k).Has x ↔ i.Has (x * 10 ^ k) := by
  have hstep : (0 : ℚ) < 10 ^ k := by positivity
  obtain ⟨hlower, hupper, -⟩ := onGrid_eq i k
  simp only [Has, hlower, hupper, closed_onGrid, div_le_iff₀ hstep, le_div_iff₀ hstep,
    div_lt_iff₀ hstep, lt_div_iff₀ hstep]

/-! ### Whole numbers -/

/-- A whole number that is found lies in the interval and is not zero. -/
theorem has_of_wholeIn (hden : 0 < i.den) (h : i.wholeIn = some d) : d ≠ 0 ∧ i.Has d := by
  have hpos : (i.den : ℚ) ≠ 0 := by exact_mod_cast hden.ne'
  have hmem : d ≠ 0 ∧ i.contains (d * i.den) = true := by
    simp only [wholeIn] at h
    generalize i.value / i.den = q at h
    split_ifs at h <;> simp_all <;> obtain rfl := h <;> simp_all
  refine ⟨hmem.1, ?_⟩
  have hhas := (contains_iff hden).1 hmem.2
  rwa [Nat.cast_mul, mul_div_cancel_right₀ _ hpos] at hhas

/-- A whole number is found where one of those beside the value lies in the interval. -/
theorem exists_wholeIn (h : (i.value / i.den ≠ 0 ∧ i.contains (i.value / i.den * i.den) = true) ∨
    i.contains ((i.value / i.den + 1) * i.den) = true) : ∃ d, i.wholeIn = some d := by
  rw [← Option.isSome_iff_exists]
  simp only [wholeIn]
  generalize i.value / i.den = q at h ⊢
  rcases h with ⟨hq, hdown⟩ | hup
  · have hne : (q != 0) = true := bne_iff_ne.2 hq
    simp only [hne, hdown, Bool.and_self, Bool.true_and, if_true]
    split_ifs <;> rfl
  · simp only [hup, Bool.and_true]
    split_ifs <;> rfl

theorem exists_wholeIn_of_lt (hden : 0 < i.den) (hlow : i.lower < i.value / i.den)
    (hhigh : (i.value / i.den : ℚ) + 1 < i.upper) : ∃ d, i.wholeIn = some d := by
  have hpos : (0 : ℚ) < i.den := by exact_mod_cast hden
  refine exists_wholeIn (.inr ?_)
  rw [contains_iff hden, Nat.cast_mul, mul_div_cancel_right₀ _ hpos.ne']
  have habove : (i.value / i.den : ℚ) < (i.value / i.den + 1 : ℕ) := by
    rw [div_lt_iff₀ hpos]
    exact_mod_cast Nat.lt_mul_of_div_lt (Nat.lt_succ_self _) hden
  have hnext : ((i.value / i.den + 1 : ℕ) : ℚ) < i.upper := by
    refine lt_of_le_of_lt ?_ hhigh
    rw [Nat.cast_succ]
    gcongr
    exact Nat.cast_div_le
  have hbetween := hlow.trans habove
  exact ⟨hbetween.le, hnext.le, fun _ => ⟨hbetween, hnext⟩⟩

/-- A value that is a whole number is found itself, or one beside it. -/
theorem exists_wholeIn_of_eq (hden : 0 < i.den) (hn : n ≠ 0) (hvalue : (i.value / i.den : ℚ) = n)
    (hlow : i.lower < n) (hhigh : (n : ℚ) < i.upper) : ∃ d, i.wholeIn = some d := by
  have hpos : (0 : ℚ) < i.den := by exact_mod_cast hden
  have hquotient : i.value / i.den = n := by
    rw [div_eq_iff hpos.ne'] at hvalue
    have hproduct : i.value = n * i.den := by exact_mod_cast hvalue
    rw [hproduct, Nat.mul_div_cancel _ hden]
  refine exists_wholeIn (.inl ?_)
  rw [hquotient, contains_iff hden, Nat.cast_mul, mul_div_cancel_right₀ _ hpos.ne']
  exact ⟨hn, hlow.le, hhigh.le, fun _ => ⟨hlow, hhigh⟩⟩

end Interval

namespace Shortest

/-- The search ends at the first grid that has a point in the interval. -/
theorem search_eq {i : Interval} {d : ℕ} {j : ℤ} : ∀ {n : ℕ} {k : ℤ}, k - n < j → j ≤ k →
    (i.onGrid j).wholeIn = some d →
      ∃ d' k', search i n k = (d', k') ∧ j ≤ k' ∧ k' ≤ k ∧ (i.onGrid k').wholeIn = some d' := by
  intro n
  induction n with
  | zero => intro k hlow hhigh _; omega
  | succ n ih =>
    intro k hlow hhigh hj
    rw [search]
    cases hk : (i.onGrid k).wholeIn with
    | some d' => exact ⟨d', k, rfl, hhigh, le_refl k, hk⟩
    | none =>
      have hne : j ≠ k := by
        rintro rfl
        rw [hk] at hj
        cases hj
      obtain ⟨d', k', hsearch, hjk, hkk, hfound⟩ := @ih (k - 1) (by omega) (by omega) hj
      exact ⟨d', k', hsearch, hjk, by omega, hfound⟩

/-- Powers of ten and of two: a thousand is less than the tenth power of two, and the 25th power of
ten is more than the 83rd power of two. -/
theorem ten_zpow_le {k j : ℤ} (hup : 10 * k ≤ 3 * j) (hdown : 83 * k ≤ 25 * j) :
    (10 : ℚ) ^ k ≤ 2 ^ j := by
  have hroot : ∀ n : ℕ, n ≠ 0 → (10 : ℚ) ^ ((n : ℤ) * k) ≤ 2 ^ ((n : ℤ) * j) →
      (10 : ℚ) ^ k ≤ 2 ^ j := by
    intro n hn h
    rw [mul_comm, zpow_mul, mul_comm, zpow_mul, zpow_natCast, zpow_natCast] at h
    exact le_of_pow_le_pow_left₀ hn (by positivity) h
  rcases le_total 0 k with hk | hk
  · refine hroot 3 (by decide) ?_
    calc (10 : ℚ) ^ ((3 : ℕ) * k : ℤ) = (10 ^ 3) ^ k := by rw [zpow_mul]; rfl
      _ ≤ (2 ^ 10) ^ k := zpow_le_zpow_left₀ hk (by norm_num) (by norm_num)
      _ = 2 ^ (10 * k) := by rw [zpow_mul]; rfl
      _ ≤ 2 ^ ((3 : ℕ) * j : ℤ) := zpow_le_zpow_right₀ one_le_two (by push_cast; exact hup)
  · refine hroot 25 (by decide) ?_
    calc (10 : ℚ) ^ ((25 : ℕ) * k : ℤ) = (10 ^ 25) ^ k := by rw [zpow_mul]; rfl
      _ ≤ (2 ^ 83) ^ k := by
        obtain ⟨n, rfl⟩ := Int.exists_eq_neg_ofNat hk
        rw [zpow_neg, zpow_neg, inv_le_inv₀ (by positivity) (by positivity)]
        exact zpow_le_zpow_left₀ (Int.natCast_nonneg n) (by norm_num) (by norm_num)
      _ = 2 ^ (83 * k) := by rw [zpow_mul]; rfl
      _ ≤ 2 ^ ((25 : ℕ) * j : ℤ) := zpow_le_zpow_right₀ one_le_two (by push_cast; exact hdown)

section Double

variable {m : ℕ} {e : ℤ}

/-- A number is whole where it has no bits behind the point. -/
theorem dvd_iff_exists_eq : 2 ^ (-e).toNat ∣ m ↔ ∃ n : ℕ, (m * 2 ^ e : ℚ) = n := by
  rcases le_total 0 e with he | he
  · obtain ⟨k, rfl⟩ := Int.eq_ofNat_of_zero_le he
    simp only [Int.toNat_neg_natCast, pow_zero, one_dvd, zpow_natCast, true_iff]
    exact ⟨m * 2 ^ k, by push_cast; rfl⟩
  · obtain ⟨k, rfl⟩ := Int.exists_eq_neg_ofNat he
    have hpos : (2 : ℚ) ^ k ≠ 0 := by positivity
    simp only [neg_neg, Int.toNat_natCast, zpow_neg, zpow_natCast, ← div_eq_mul_inv,
      div_eq_iff hpos]
    constructor
    · rintro ⟨n, rfl⟩
      exact ⟨n, by push_cast; ring⟩
    · rintro ⟨n, hn⟩
      exact ⟨n, by rw [Nat.mul_comm]; exact_mod_cast hn⟩

/-- Where the last bit is behind the point, the interval of a number has no whole number but the
number itself: every other one is further away than half a unit of that bit. -/
theorem eq_of_has_whole {fmt : BinaryFormat} {n : ℕ} (hm : 0 < m) (he : e < 0)
    (h : (Interval.ofBinary fmt m e).Has n) : (m * 2 ^ e : ℚ) = n := by
  obtain ⟨hlower, hupper, -⟩ := @Interval.ends_ofBinary fmt m e hm
  obtain ⟨hlow, hhigh, -⟩ := h
  rw [hlower] at hlow
  rw [hupper] at hhigh
  obtain ⟨k, rfl⟩ := Int.exists_eq_neg_ofNat he.le
  have hunit : (0 : ℚ) < 2 ^ k := by positivity
  rw [zpow_neg, zpow_natCast, ← div_eq_mul_inv, div_le_iff₀ hunit] at hlow
  rw [zpow_neg, zpow_natCast, ← div_eq_mul_inv, le_div_iff₀ hunit] at hhigh
  have hle : (m : ℚ) < n * 2 ^ k + 1 := by
    split at hlow <;> linarith
  have hge : (n : ℚ) * 2 ^ k < m + 1 := by linarith
  rw [zpow_neg, zpow_natCast, ← div_eq_mul_inv, div_eq_iff hunit.ne']
  have h₁ : m < n * 2 ^ k + 1 := by exact_mod_cast hle
  have h₂ : n * 2 ^ k < m + 1 := by exact_mod_cast hge
  have h₃ : m = n * 2 ^ k := by omega
  exact_mod_cast h₃

/-- Where the search for the digits of a double begins. -/
theorem exponentBound_bounds (hk : BinaryFormat.double.Keeps m e) (hm : 0 < m) :
    (m.log2 + e + 1) * 30103 < 100000 * exponentBound m e ∧
      100000 * exponentBound m e ≤ (m.log2 + e + 1) * 30103 + 100000 ∧ m.log2 < 53 := by
  have hlog : m.log2 < 53 := (Nat.log2_lt hm.ne').2 hk.bits
  unfold exponentBound
  omega

/-- The last grid of the search for the digits of a double is finer than half a unit of its last
bit. -/
theorem exists_wholeIn_double (hk : BinaryFormat.double.Keeps m e) (hm : 0 < m) :
    ∃ d, ((Interval.ofBinary .double m e).onGrid (exponentBound m e - 23)).wholeIn = some d := by
  obtain ⟨hlow, hhigh, hlog⟩ := exponentBound_bounds hk hm
  have hleast : -1074 ≤ e := hk.least
  have hmost : e ≤ 971 := hk.most
  obtain ⟨k, hgrid⟩ : ∃ k, k = exponentBound m e - 23 := ⟨_, rfl⟩
  rw [← hgrid]
  obtain ⟨hlower, hupper, hvalue⟩ := @Interval.ends_ofBinary .double m e hm
  obtain ⟨hlower', hupper', hvalue'⟩ := Interval.onGrid_eq (.ofBinary .double m e) k
  rw [hlower] at hlower'
  rw [hupper] at hupper'
  rw [hvalue] at hvalue'
  have hstep : (0 : ℚ) < 10 ^ k := by positivity
  have hunit : (0 : ℚ) < 2 ^ e := by positivity
  have hfine : (10 : ℚ) ^ k < 2 ^ e / 2 := by
    have hquarter : (2 : ℚ) ^ (e - 2) = 2 ^ e / 4 := by
      rw [zpow_sub₀ two_ne_zero]
      norm_num
    have := ten_zpow_le (k := k) (j := e - 2) (by omega) (by omega)
    linarith
  refine Interval.exists_wholeIn_of_lt (Interval.den_onGrid_pos Interval.den_ofBinary_pos) ?_ ?_
  · rw [hvalue', hlower']
    gcongr
    split <;> linarith
  · rw [hvalue', hupper', div_add_one hstep.ne']
    gcongr
    linarith

/-- The search passes the grid of whole numbers if the number is one. -/
theorem exists_wholeIn_of_dvd (hm : 0 < m) (h : 2 ^ (-e).toNat ∣ m) :
    ∃ d, ((Interval.ofBinary .double m e).onGrid 0).wholeIn = some d := by
  obtain ⟨n, hn⟩ := dvd_iff_exists_eq.1 h
  obtain ⟨hlower, hupper, hvalue⟩ := @Interval.ends_ofBinary .double m e hm
  obtain ⟨hlower', hupper', hvalue'⟩ := Interval.onGrid_eq (.ofBinary .double m e) 0
  rw [hlower, zpow_zero, div_one] at hlower'
  rw [hupper, zpow_zero, div_one] at hupper'
  rw [hvalue, zpow_zero, div_one, hn] at hvalue'
  have hunit : (0 : ℚ) < 2 ^ e := by positivity
  refine Interval.exists_wholeIn_of_eq (Interval.den_onGrid_pos Interval.den_ofBinary_pos) ?_
    hvalue' ?_ ?_
  · rintro rfl
    have : (0 : ℚ) < m * 2 ^ e := by positivity
    rw [hn] at this
    exact absurd this (by simp)
  · rw [hlower', ← hn]
    gcongr
    split <;> linarith
  · rw [hupper', ← hn]
    gcongr
    linarith

/-- **The shortest decimal of a double** lies in its interval; it has digits behind the point if the
double has bits there. -/
theorem digits_double (hk : BinaryFormat.double.Keeps m e) (hm : 0 < m) :
    ∃ d k, digits .double m e = (d, k) ∧ d ≠ 0 ∧ -400 < k ∧
      (Interval.ofBinary .double m e).Has (d * 10 ^ k) ∧ (0 ≤ k ↔ 2 ^ (-e).toNat ∣ m) := by
  obtain ⟨hlow, hhigh, hlog⟩ := exponentBound_bounds hk hm
  have hleast : -1074 ≤ e := hk.least
  -- where the number is whole, the search ends no later than at whole numbers
  obtain ⟨j, ⟨hj, hjk⟩, hwhole, d₀, hd₀⟩ : ∃ j,
      (exponentBound m e - 24 < j ∧ j ≤ exponentBound m e) ∧ (2 ^ (-e).toNat ∣ m → 0 ≤ j) ∧
      ∃ d, ((Interval.ofBinary .double m e).onGrid j).wholeIn = some d := by
    by_cases hcase : 2 ^ (-e).toNat ∣ m ∧ exponentBound m e < 23
    · refine ⟨0, ⟨by omega, ?_⟩, fun _ => le_refl 0, exists_wholeIn_of_dvd hm hcase.1⟩
      have hbits := (Nat.le_log2 hm.ne').2 (Nat.le_of_dvd hm hcase.1)
      omega
    · refine ⟨exponentBound m e - 23, by omega, fun h => ?_, exists_wholeIn_double hk hm⟩
      have := not_lt.1 fun hlt => hcase ⟨h, hlt⟩
      omega
  obtain ⟨d, k, hdigits, hle, -, hfound⟩ := search_eq hj hjk hd₀
  obtain ⟨hd, hhas⟩ :=
    Interval.has_of_wholeIn (Interval.den_onGrid_pos Interval.den_ofBinary_pos) hfound
  rw [Interval.has_onGrid] at hhas
  refine ⟨d, k, hdigits, hd, by omega, hhas, fun hk₀ => ?_, fun h => (hwhole h).trans hle⟩
  rcases lt_or_ge e 0 with he | he
  · obtain ⟨n, rfl⟩ := Int.eq_ofNat_of_zero_le hk₀
    exact dvd_iff_exists_eq.2
      ⟨d * 10 ^ n, eq_of_has_whole hm he (by push_cast; exact_mod_cast hhas)⟩
  · rw [Int.toNat_of_nonpos (by omega)]
    exact one_dvd m

end Double

end Shortest

end FocusBilling
