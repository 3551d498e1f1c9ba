import Mathlib.Algebra.Order.Field.Power
import Mathlib.Data.Rat.Cast.Order
import Mathlib.Tactic.FieldSimp
import Mathlib.Tactic.Linarith
import Mathlib.Tactic.Positivity
import Mathlib.Tactic.Ring
import FocusBilling.Number.Shortest

/-!
# Rounding to a format

The numbers that a format keeps, and the fractions that it rounds to one of them.

* `BinaryFormat.Keeps` : a number with as many bits as its format has, or with fewer at its smallest
  exponent;
* `Interval.Has` : the fractions between the ends of an interval;
* `BinaryFormat.round_cases` : rounding gives a number that the format keeps, or an infinity;
* `BinaryFormat.round_of_has` : **whatever lies in the interval of a number is rounded to it**;
* `BinaryFormat.Holds` : the numbers that a format holds; `BinaryFormat.holds_roundDecimal` :
  reading a decimal gives one of them.

A fraction in the interval of a number has its leading bit where the number has its own, except just
below a power of two: there it lies in the binade below, is rounded up to the end of that one, and
meets the number from the other side.
-/

namespace FocusBilling

namespace BinaryFormat

variable {fmt : BinaryFormat} {num den m : ℕ} {e : ℤ}

/-- A positive number, or zero, as a format keeps it: with as many bits as the format has, or with
fewer at its smallest exponent. -/
structure Keeps (fmt : BinaryFormat) (m : ℕ) (e : ℤ) : Prop where
  /-- There are no more bits than the format has. -/
  bits : m < 2 ^ fmt.precision
  /-- The exponent is not below the smallest one. -/
  least : fmt.minExp ≤ e
  /-- The exponent is not above the largest one. -/
  most : e ≤ fmt.maxExp
  /-- There are fewer bits at the smallest exponent only. -/
  full : fmt.minExp < e → 2 ^ (fmt.precision - 1) ≤ m

/-! ### Fractions -/

theorem scaled_pos (hden : 0 < den) : 0 < (scaled num den e).2 := by
  unfold scaled
  split
  · positivity
  · exact hden

theorem scaled_eq (num den : ℕ) (e : ℤ) :
    ((scaled num den e).1 / (scaled num den e).2 : ℚ) = num / den * 2 ^ (-e) := by
  unfold scaled
  split
  next he =>
    obtain ⟨k, rfl⟩ := Int.eq_ofNat_of_zero_le he
    simp [zpow_neg, div_eq_mul_inv, mul_comm, mul_assoc]
  next he =>
    obtain ⟨k, hk⟩ := Int.eq_ofNat_of_zero_le (show 0 ≤ -e by omega)
    rw [hk]
    simp [div_eq_mul_inv, mul_right_comm]

/-- The exponent of the leading bit of a fraction. -/
theorem leading_spec (hnum : 0 < num) (hden : 0 < den) :
    (2 : ℚ) ^ leading num den ≤ num / den ∧ (num / den : ℚ) < 2 ^ (leading num den + 1) := by
  have hden' : (0 : ℚ) < den := by exact_mod_cast hden
  have hlog : ∀ {n : ℕ}, 0 < n →
      (2 : ℚ) ^ (Nat.log2 n : ℤ) ≤ n ∧ (n : ℚ) < 2 ^ (Nat.log2 n + 1 : ℤ) := by
    intro n hn
    exact ⟨by exact_mod_cast Nat.log2_self_le hn.ne', by exact_mod_cast Nat.lt_log2_self⟩
  obtain ⟨hn, hn'⟩ := hlog hnum
  obtain ⟨hd, hd'⟩ := hlog hden
  generalize hk : (Nat.log2 num : ℤ) - Nat.log2 den = k
  -- the lengths of both leave two exponents only
  have hlow : (2 : ℚ) ^ (k - 1) ≤ num / den := by
    rw [le_div_iff₀ hden']
    calc (2 : ℚ) ^ (k - 1) * den ≤ 2 ^ (k - 1) * 2 ^ (Nat.log2 den + 1 : ℤ) := by gcongr
      _ = 2 ^ (Nat.log2 num : ℤ) := by
        rw [← zpow_add₀ two_ne_zero]
        congr 1
        omega
      _ ≤ num := hn
  have hhigh : (num / den : ℚ) < 2 ^ (k + 1) := by
    rw [div_lt_iff₀ hden']
    calc (num : ℚ) < 2 ^ (Nat.log2 num + 1 : ℤ) := hn'
      _ = 2 ^ (k + 1) * 2 ^ (Nat.log2 den : ℤ) := by
        rw [← zpow_add₀ two_ne_zero]
        congr 1
        omega
      _ ≤ 2 ^ (k + 1) * den := by gcongr
  have hcompare : (scaled num den k).1 < (scaled num den k).2 ↔ (num / den : ℚ) < 2 ^ k := by
    have hpos : (0 : ℚ) < (scaled num den k).2 := by exact_mod_cast scaled_pos hden
    rw [← Nat.cast_lt (α := ℚ), ← div_lt_one hpos, scaled_eq, zpow_neg, ← div_eq_mul_inv,
      div_lt_one (by positivity)]
  rw [leading, hk]
  by_cases hlt : (scaled num den k).1 < (scaled num den k).2
  · simp only [hlt, if_true, sub_add_cancel]
    exact ⟨hlow, hcompare.1 hlt⟩
  · simp only [hlt, if_false]
    exact ⟨not_lt.1 fun h => hlt (hcompare.2 h), hhigh⟩

/-- A whole number that is at most a half away from a fraction, and even where it is a half away, is
the nearest one. -/
theorem nearest_eq (hden : 0 < den) (hlow : (m : ℚ) - 1 / 2 ≤ num / den)
    (hhigh : (num / den : ℚ) ≤ m + 1 / 2)
    (hodd : m % 2 ≠ 0 → (m : ℚ) - 1 / 2 < num / den ∧ (num / den : ℚ) < m + 1 / 2) :
    nearest num den = m := by
  have hpos : (0 : ℚ) < den := by exact_mod_cast hden
  have hlow' : 2 * (den * m) ≤ 2 * num + den := by
    rw [le_div_iff₀ hpos] at hlow
    have h : (2 * (den * m) : ℚ) ≤ 2 * num + den := by linarith
    exact_mod_cast h
  have hhigh' : 2 * num ≤ 2 * (den * m) + den := by
    rw [div_le_iff₀ hpos] at hhigh
    have h : (2 * num : ℚ) ≤ 2 * (den * m) + den := by linarith
    exact_mod_cast h
  have hodd' : m % 2 ≠ 0 → 2 * (den * m) < 2 * num + den ∧ 2 * num < 2 * (den * m) + den := by
    intro h
    obtain ⟨hl, hh⟩ := hodd h
    rw [lt_div_iff₀ hpos] at hl
    rw [div_lt_iff₀ hpos] at hh
    have h₁ : (2 * (den * m) : ℚ) < 2 * num + den := by linarith
    have h₂ : (2 * num : ℚ) < 2 * (den * m) + den := by linarith
    exact ⟨by exact_mod_cast h₁, by exact_mod_cast h₂⟩
  have hnum := Nat.div_add_mod num den
  have hmod := Nat.mod_lt num hden
  simp only [nearest]
  generalize num / den = q at hnum ⊢
  generalize num % den = r at hnum hmod ⊢
  -- the number is the quotient or the one behind it
  have hm : m = q ∨ m = q + 1 := by
    have hle : m < q + 2 := by
      by_contra hge
      have := Nat.mul_le_mul_left den (not_lt.1 hge)
      rw [Nat.mul_add] at this
      omega
    have hge : q ≤ m := by
      by_contra hlt
      have := Nat.mul_le_mul_left den (not_le.1 hlt)
      rw [Nat.succ_eq_add_one, Nat.mul_add] at this
      omega
    omega
  rcases hm with rfl | rfl
  · generalize den * m = a at *
    split_ifs <;> omega
  · rw [Nat.mul_add] at hlow' hhigh' hodd'
    generalize den * q = a at *
    split_ifs <;> omega

theorem nearest_eq_or (num den : ℕ) :
    nearest num den = num / den ∨ nearest num den = num / den + 1 := by
  simp only [nearest]
  split_ifs <;> simp

/-! ### Rounding -/

/-- A fraction rounded, by the exponent of its last bit and the nearest number of so many units. -/
theorem round_of_nearest (hnum : 0 < num)
    (he : max fmt.minExp (leading num den - (fmt.precision - 1)) = e)
    (hm : nearest (scaled num den e).1 (scaled num den e).2 = m) (negative : Bool) :
    fmt.round negative num den =
      if m = 2 ^ fmt.precision then
        if e + 1 > fmt.maxExp then .infinite negative
        else .finite negative (2 ^ (fmt.precision - 1)) (e + 1)
      else if e > fmt.maxExp then .infinite negative else .finite negative m e := by
  unfold round
  simp only [hnum.ne', if_false, he, hm]
  split <;> rfl

end BinaryFormat

namespace Interval

/-- The lower end. -/
def lower (i : Interval) : ℚ := i.low / i.den

/-- The upper end. -/
def upper (i : Interval) : ℚ := i.high / i.den

/-- A number lies between the ends, or is one of them where they belong to the interval. -/
def Has (i : Interval) (x : ℚ) : Prop :=
  i.lower ≤ x ∧ x ≤ i.upper ∧ (i.closed = false → i.lower < x ∧ x < i.upper)

theorem contains_iff {i : Interval} (hden : 0 < i.den) {n : ℕ} :
    i.contains n = true ↔ i.Has (n / i.den) := by
  have hpos : (0 : ℚ) < i.den := by exact_mod_cast hden
  simp only [Has, lower, upper, div_le_div_iff_of_pos_right hpos, div_lt_div_iff_of_pos_right hpos,
    Nat.cast_le, Nat.cast_lt, contains]
  cases i.closed with
  | true => simp
  | false =>
    simp only [Bool.false_eq_true, if_false, Bool.and_eq_true, decide_eq_true_eq, forall_const]
    omega

variable {fmt : BinaryFormat} {m : ℕ} {e : ℤ}

/-- The interval of a number, in quarters of a unit of its last bit. -/
theorem exists_ofBinary (fmt : BinaryFormat) (m : ℕ) (e : ℤ) : ∃ up den : ℕ, 0 < den ∧
    (up / den : ℚ) = 2 ^ e / 4 ∧
    ofBinary fmt m e =
      ⟨(4 * m - if m = 2 ^ (fmt.precision - 1) ∧ e > fmt.minExp then 1 else 2) * up, 4 * m * up,
        (4 * m + 2) * up, den, m % 2 == 0⟩ := by
  have hquarter : (2 : ℚ) ^ e / 4 = 2 ^ (e - 2) := by
    rw [zpow_sub₀ two_ne_zero]
    norm_num
  unfold ofBinary
  by_cases he : e - 2 ≥ 0
  · refine ⟨2 ^ (e - 2).toNat, 1, Nat.one_pos, ?_, by simp only [if_pos he]⟩
    obtain ⟨k, hk⟩ := Int.eq_ofNat_of_zero_le he
    rw [hquarter, hk]
    simp
  · refine ⟨1, 2 ^ (-(e - 2)).toNat, by positivity, ?_, by simp only [if_neg he]⟩
    obtain ⟨k, hk⟩ := Int.eq_ofNat_of_zero_le (show 0 ≤ -(e - 2) by omega)
    rw [hquarter, hk, ← neg_neg (e - 2), hk]
    simp

theorem den_ofBinary_pos : 0 < (ofBinary fmt m e).den := by
  obtain ⟨up, den, hden, _, h⟩ := exists_ofBinary fmt m e
  rw [h]
  exact hden

/-- The ends of the interval of a number, and the number itself. -/
theorem ends_ofBinary (hm : 0 < m) :
    (ofBinary fmt m e).lower =
        (m - if m = 2 ^ (fmt.precision - 1) ∧ e > fmt.minExp then 1 / 4 else 1 / 2) * 2 ^ e ∧
      (ofBinary fmt m e).upper = (m + 1 / 2) * 2 ^ e ∧
      ((ofBinary fmt m e).value / (ofBinary fmt m e).den : ℚ) = m * 2 ^ e := by
  obtain ⟨up, den, hden, hunit, h⟩ := exists_ofBinary fmt m e
  have hscale : ∀ n : ℕ, ((n * up : ℕ) / den : ℚ) = n / 4 * 2 ^ e := by
    intro n
    rw [Nat.cast_mul, mul_div_assoc, hunit]
    ring
  rw [h]
  refine ⟨?_, ?_, ?_⟩
  · rw [lower, hscale, Nat.cast_sub (by split <;> omega)]
    split
    · push_cast
      ring
    · push_cast
      ring
  · rw [upper, hscale]
    push_cast
    ring
  · rw [hscale]
    push_cast
    ring

end Interval

namespace BinaryFormat

variable {fmt : BinaryFormat} {num den m : ℕ} {e : ℤ}

section Fraction

variable (hnum : 0 < num) (hden : 0 < den)

include hnum hden

theorem zpow_le_iff {k : ℤ} : (2 : ℚ) ^ k ≤ num / den ↔ k ≤ leading num den := by
  obtain ⟨hlow, hhigh⟩ := leading_spec hnum hden
  constructor
  · intro h
    have := (zpow_lt_zpow_iff_right₀ (one_lt_two (α := ℚ))).1 (h.trans_lt hhigh)
    omega
  · intro h
    exact (zpow_le_zpow_right₀ one_le_two h).trans hlow

/-- The leading bit of a fraction tells how many units of some exponent it has. -/
theorem pow_mul_le_scaled {k : ℕ} :
    2 ^ k * (scaled num den e).2 ≤ (scaled num den e).1 ↔ k + e ≤ leading num den := by
  have hpos : (0 : ℚ) < (scaled num den e).2 := by exact_mod_cast scaled_pos hden
  rw [← zpow_le_iff hnum hden, ← Nat.cast_le (α := ℚ), Nat.cast_mul, ← le_div_iff₀ hpos, scaled_eq,
    zpow_neg, ← div_eq_mul_inv, le_div_iff₀ (by positivity), zpow_add₀ two_ne_zero, zpow_natCast,
    Nat.cast_pow, Nat.cast_ofNat]

/-- Rounding gives a number that the format keeps, or for what is too large an infinity. -/
theorem round_cases (hprecision : 0 < fmt.precision) (hexp : fmt.minExp < fmt.maxExp)
    (negative : Bool) :
    (∃ m e, fmt.round negative num den = .finite negative m e ∧ fmt.Keeps m e) ∨
      fmt.round negative num den = .infinite negative ∧
        (2 : ℚ) ^ (fmt.maxExp + fmt.precision - 1) ≤ num / den := by
  obtain ⟨p, hp⟩ : ∃ p, fmt.precision = p + 1 := ⟨fmt.precision - 1, by omega⟩
  generalize he : max fmt.minExp (leading num den - (fmt.precision - 1)) = e
  generalize hm : nearest (scaled num den e).1 (scaled num den e).2 = m
  have hpos := @scaled_pos num den e hden
  have hquotient := nearest_eq_or (scaled num den e).1 (scaled num den e).2
  rw [hm] at hquotient
  have hbits : m ≤ 2 ^ (p + 1) := by
    have hlt : (scaled num den e).1 < 2 ^ (p + 1) * (scaled num den e).2 := by
      rw [← not_le, pow_mul_le_scaled hnum hden]
      omega
    have := Nat.div_lt_of_lt_mul (Nat.mul_comm _ _ ▸ hlt)
    omega
  have hfull : fmt.minExp < e → 2 ^ p ≤ m := by
    intro hless
    have hle : 2 ^ p * (scaled num den e).2 ≤ (scaled num den e).1 := by
      rw [pow_mul_le_scaled hnum hden]
      omega
    have := (Nat.le_div_iff_mul_le hpos).2 hle
    omega
  rw [round_of_nearest hnum he hm, zpow_le_iff hnum hden, hp]
  have hpow : 2 ^ p < 2 ^ (p + 1) := Nat.pow_lt_pow_right (by decide) (Nat.lt_succ_self p)
  split_ifs with hcarry hlarge hlarge
  · exact .inr ⟨rfl, by omega⟩
  · refine .inl ⟨_, _, rfl, ?_⟩
    exact ⟨by rw [hp]; exact hpow, by omega, by omega, fun _ => by rw [hp]⟩
  · exact .inr ⟨rfl, by omega⟩
  · refine .inl ⟨_, _, rfl, ?_⟩
    exact ⟨by rw [hp]; omega, by omega, by omega, by rw [hp]; exact hfull⟩

end Fraction

section Interval

variable (hden : 0 < den) (hm : 0 < m) (h : (Interval.ofBinary fmt m e).Has (num / den))

include hden hm h

/-- The nearest number of units of a number to a fraction in its interval. -/
theorem nearest_of_has : nearest (scaled num den e).1 (scaled num den e).2 = m := by
  obtain ⟨hlower, hupper, -⟩ := @Interval.ends_ofBinary fmt m e hm
  have hclosed : (Interval.ofBinary fmt m e).closed = (m % 2 == 0) := rfl
  obtain ⟨hlow, hhigh, hopen⟩ := h
  simp only [hlower, hupper, hclosed] at hlow hhigh hopen
  have hunit : (0 : ℚ) < 2 ^ e := by positivity
  have hscaled : ((scaled num den e).1 / (scaled num den e).2 : ℚ) = num / den / 2 ^ e := by
    rw [scaled_eq, zpow_neg, ← div_eq_mul_inv]
  have hhalf : ((m : ℚ) - 1 / 2) * 2 ^ e ≤
      (m - if m = 2 ^ (fmt.precision - 1) ∧ e > fmt.minExp then 1 / 4 else 1 / 2) * 2 ^ e := by
    gcongr
    split <;> norm_num
  refine nearest_eq (scaled_pos hden) ?_ ?_ fun hodd => ?_
  · rw [hscaled, le_div_iff₀ hunit]
    exact hhalf.trans hlow
  · rw [hscaled, div_le_iff₀ hunit]
    exact hhigh
  · obtain ⟨hlow', hhigh'⟩ := hopen (by simpa using hodd)
    rw [hscaled, lt_div_iff₀ hunit, div_lt_iff₀ hunit]
    exact ⟨hhalf.trans_lt hlow', hhigh'⟩

/-- A fraction in the interval of a number that has its leading bit below that of the number: the
number is a power of two, which the fraction misses by a half of its own unit at most. -/
theorem nearest_of_has_below {p : ℕ} (hp : fmt.precision = p + 1) (hk : fmt.Keeps m e)
    (hmin : fmt.minExp < e) (hbelow : (num / den : ℚ) < 2 ^ p * 2 ^ e) :
    m = 2 ^ p ∧ (2 : ℚ) ^ (p + e - 1) ≤ num / den ∧
      nearest (scaled num den (e - 1)).1 (scaled num den (e - 1)).2 = 2 ^ (p + 1) := by
  have hlow := h.1
  rw [(@Interval.ends_ofBinary fmt m e hm).1, hp, Nat.add_sub_cancel] at hlow
  have hunit : (0 : ℚ) < 2 ^ e := by positivity
  have hpower : m = 2 ^ p := by
    by_contra hne
    have hfull := hk.full hmin
    rw [hp, Nat.add_sub_cancel] at hfull
    have hmore : (2 : ℚ) ^ p + 1 ≤ m := by exact_mod_cast Nat.lt_of_le_of_ne hfull (Ne.symm hne)
    rw [if_neg fun h => hne h.1] at hlow
    have := lt_of_mul_lt_mul_right (hlow.trans_lt hbelow) hunit.le
    linarith
  have hpow : (1 : ℚ) ≤ 2 ^ p := one_le_pow₀ one_le_two
  have hhalf : (2 : ℚ) ^ (e - 1) = 2 ^ e / 2 := by rw [zpow_sub₀ two_ne_zero, zpow_one]
  have hscaled : ((scaled num den (e - 1)).1 / (scaled num den (e - 1)).2 : ℚ) =
      num / den / (2 ^ e / 2) := by
    rw [scaled_eq, zpow_neg, ← div_eq_mul_inv, hhalf]
  rw [if_pos ⟨hpower, hmin⟩, hpower] at hlow
  push_cast at hlow
  refine ⟨hpower, ?_, nearest_eq (scaled_pos hden) ?_ ?_ fun hodd => ?_⟩
  · refine le_trans ?_ hlow
    rw [add_sub_assoc, zpow_add₀ two_ne_zero, zpow_natCast, hhalf, ← mul_div_assoc,
      mul_div_right_comm]
    gcongr
    linarith
  · rw [hscaled, le_div_iff₀ (by positivity)]
    push_cast
    rw [pow_succ]
    linarith
  · rw [hscaled, div_le_iff₀ (by positivity)]
    push_cast
    rw [pow_succ]
    linarith
  · rw [Nat.pow_succ] at hodd
    omega

/-- **Whatever lies in the interval of a number is rounded to it.** -/
theorem round_of_has (hnum : 0 < num) (hprecision : 0 < fmt.precision) (hk : fmt.Keeps m e)
    (negative : Bool) : fmt.round negative num den = .finite negative m e := by
  obtain ⟨p, hp⟩ : ∃ p, fmt.precision = p + 1 := ⟨fmt.precision - 1, by omega⟩
  have hleading : leading num den < p + 1 + e := by
    have hhigh := h.2.1
    have hbits : (m : ℚ) + 1 ≤ 2 ^ (p + 1) := by
      have := hk.bits
      rw [hp] at this
      exact_mod_cast this
    rw [(@Interval.ends_ofBinary fmt m e hm).2.1] at hhigh
    rw [← not_le, ← zpow_le_iff hnum hden, not_le, zpow_add₀ two_ne_zero]
    calc (num / den : ℚ) ≤ (m + 1 / 2) * 2 ^ e := hhigh
      _ < 2 ^ (p + 1) * 2 ^ e := by gcongr; linarith
  by_cases hsame : max fmt.minExp (leading num den - (fmt.precision - 1)) = e
  · rw [round_of_nearest hnum hsame (nearest_of_has hden hm h), if_neg hk.bits.ne,
      if_neg (not_lt.2 hk.most)]
  · -- the fraction is counted in halves of units of the number
    have hleast := hk.least
    have hbelow : (num / den : ℚ) < 2 ^ p * 2 ^ e := by
      rw [← zpow_natCast, ← zpow_add₀ two_ne_zero, ← not_le, zpow_le_iff hnum hden]
      omega
    obtain ⟨hpower, hleading', hnearest⟩ :=
      nearest_of_has_below hden hm h hp hk (by omega) hbelow
    rw [zpow_le_iff hnum hden] at hleading'
    have hexp : max fmt.minExp (leading num den - (fmt.precision - 1)) = e - 1 := by omega
    rw [round_of_nearest hnum hexp hnearest, hp, if_pos rfl, sub_add_cancel,
      if_neg (not_lt.2 hk.most), hpower]
    rfl

end Interval

/-! ### Numbers of a format -/

/-- A number as a format keeps it, unless it is not finite. -/
def Holds (fmt : BinaryFormat) : Binary → Prop
  | .finite _ m e => fmt.Keeps m e
  | _ => True

section Holds

variable (hprecision : 0 < fmt.precision) (hexp : fmt.minExp < fmt.maxExp) (negative : Bool)

include hprecision hexp

theorem holds_round (hden : 0 < den) : fmt.Holds (fmt.round negative num den) := by
  rcases Nat.eq_zero_or_pos num with rfl | hnum
  · have hzero : fmt.Keeps 0 fmt.minExp :=
      ⟨by positivity, le_refl _, hexp.le, fun h => absurd h (lt_irrefl _)⟩
    exact hzero
  · rcases round_cases hnum hden hprecision hexp negative with ⟨m, e, h, hk⟩ | ⟨h, -⟩
    · rw [h]
      exact hk
    · rw [h]
      trivial

/-- A decimal is rounded to a number that the format keeps, or to an infinity. -/
theorem holds_roundDecimal (m : ℕ) (e : ℤ) : fmt.Holds (fmt.roundDecimal negative m e) := by
  have hzero : fmt.Holds (.finite negative 0 fmt.minExp) :=
    @holds_round fmt 0 1 hprecision hexp negative Nat.one_pos
  unfold roundDecimal
  split_ifs
  · exact hzero
  · trivial
  · exact hzero
  · exact holds_round hprecision hexp negative Nat.one_pos
  · exact holds_round hprecision hexp negative (by positivity)

end Holds

end BinaryFormat

end FocusBilling
