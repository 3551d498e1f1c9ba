import Mathlib.Data.List.TakeWhile
import FocusBilling.Proofs.ShortestDecimals
import FocusBilling.Proofs.Sql.Literals

/-!
# Numbers of rule documents in SQL

A double is spelled as the shortest decimal that is rounded to it, and never with an exponent.

* `Layout.plain_decimal_of_nonneg`, `Layout.exists_plain_decimal_of_neg` : the spelling of a decimal
  without digits behind the point, which then has no point, and of one with such digits;
* `Decimal.binary?_point` : how digits around a point are read;
* `Sql.numberOf_plain` : **how the spelling of a double is read back.**
-/

namespace FocusBilling

open Sql Text

/-! ### Spelling -/

namespace Layout

theorem plain_decimal (d : ℕ) (k : ℤ) :
    plain.decimal d k = plain.positional (toString d).toList (k + (toString d).toList.length) := by
  have hall : ∀ lead, plain.isPositional lead = true := fun _ => rfl
  rw [decimal, if_pos (hall _), sub_add_cancel]

/-- A decimal without digits behind the point is spelled by its digits and zeros. -/
theorem plain_decimal_of_nonneg (d : ℕ) {k : ℤ} (hk : 0 ≤ k) :
    plain.decimal d k = (toString d).toList ++ List.replicate k.toNat '0' := by
  rw [plain_decimal, positional, if_pos (by omega), add_sub_cancel_right]
  exact List.append_nil _

theorem digitsValue_append_zeros (cs : List Char) (n : ℕ) :
    digitsValue 10 (cs ++ List.replicate n '0') = digitsValue 10 cs * 10 ^ n := by
  induction n with
  | zero => simp
  | succ n ih =>
    rw [List.replicate_succ', ← List.append_assoc, digitsValue, List.foldl_append]
    change digitsValue 10 (cs ++ List.replicate n '0') * 10 + 0 = _
    rw [ih, pow_succ, mul_assoc, add_zero]

theorem digitsValue_zeros_append (n : ℕ) (cs : List Char) :
    digitsValue 10 (List.replicate n '0' ++ cs) = digitsValue 10 cs := by
  induction n with
  | zero => rfl
  | succ n ih =>
    rw [List.replicate_succ, List.cons_append, digitsValue, List.foldl_cons]
    exact ih

/-- A decimal with digits behind the point is spelled by its digits around a point, perhaps behind
zeros. -/
theorem exists_plain_decimal_of_neg (d : ℕ) {k : ℤ} (hk : k < 0) :
    ∃ ds fs, plain.decimal d k = ds ++ '.' :: fs ∧ ds ≠ [] ∧ (∀ c ∈ ds ++ fs, isDigit c = true) ∧
      digitsValue 10 (ds ++ fs) = d ∧ k = -fs.length := by
  have hdigits : ∀ c ∈ (toString d).toList, isDigit c = true := fun _ => isDigit_of_mem_toString
  have hvalue : digitsValue 10 (toString d).toList = d := digitsValue_toString d
  rw [plain_decimal, positional, if_neg (by omega)]
  generalize (toString d).toList = ds at *
  by_cases hpoint : k + ds.length > 0
  · obtain ⟨n, hn⟩ := Int.eq_ofNat_of_zero_le hpoint.le
    rw [if_pos hpoint, hn, Int.toNat_natCast]
    refine ⟨ds.take n, ds.drop n, rfl, ?_, ?_, ?_, ?_⟩
    · rw [ne_eq, List.take_eq_nil_iff, not_or]
      refine ⟨by omega, ?_⟩
      rintro rfl
      simp at hn
      omega
    · rwa [List.take_append_drop]
    · rwa [List.take_append_drop]
    · rw [List.length_drop]
      omega
  · rw [if_neg hpoint]
    refine ⟨['0'], List.replicate (-(k + ds.length)).toNat '0' ++ ds, rfl, by simp, ?_, ?_, ?_⟩
    · intro c hc
      simp only [List.cons_append, List.nil_append, List.mem_cons, List.mem_append] at hc
      rcases hc with rfl | hc | hc
      · rfl
      · exact isDigit_of_mem_zeros hc
      · exact hdigits c hc
    · exact (digitsValue_zeros_append (_ + 1) ds).trans hvalue
    · simp
      omega

end Layout

/-! ### Reading back -/

/-- Digits around a point are read as a decimal. -/
theorem Decimal.binary?_point {ds fs : List Char} (hne : ds ≠ [])
    (hdigits : ∀ c ∈ ds ++ fs, isDigit c = true) (fmt : BinaryFormat) :
    Decimal.binary? fmt (ds ++ '.' :: fs) =
      some (fmt.roundDecimal false (digitsValue 10 (ds ++ fs)) (-fs.length)) := by
  have hds : ∀ c ∈ ds, isDigit c = true := fun c hc => hdigits c (List.mem_append_left _ hc)
  have hfs : ∀ c ∈ fs, isDigit c = true := fun c hc => hdigits c (List.mem_append_right _ hc)
  have hsign : sign (ds ++ '.' :: fs) = (false, ds ++ '.' :: fs) := by
    obtain ⟨c, more, rfl⟩ := List.exists_cons_of_ne_nil hne
    have hc := hds c List.mem_cons_self
    rw [List.cons_append]
    unfold sign
    split
    next heq => obtain ⟨rfl, -⟩ := List.cons_eq_cons.1 heq; cases hc
    next heq => obtain ⟨rfl, -⟩ := List.cons_eq_cons.1 heq; cases hc
    next => rfl
  have hword : ∀ w : List Char, '.' ∉ w → (ds ++ '.' :: fs).map Char.toLower ≠ w := by
    rintro _ hpoint rfl
    exact hpoint (List.mem_map.2 ⟨'.', by simp, rfl⟩)
  obtain ⟨htake, hdrop⟩ := takeWhile_isDigit hds (c := '.') (by decide) fs
  have htake' : fs.takeWhile isDigit = fs := List.takeWhile_eq_self_iff.2 hfs
  have hdrop' : fs.dropWhile isDigit = [] := List.dropWhile_eq_nil_iff.2 hfs
  have hscan : scanUnsigned (ds ++ '.' :: fs) =
      some ((digitsValue 10 (ds ++ fs), -(fs.length : ℤ)), []) := by
    simp only [scanUnsigned, htake, hdrop, htake', hdrop', exponent,
      List.isEmpty_eq_false_iff.2 hne, Bool.false_and, Bool.false_eq_true, if_false, zero_sub]
  simp only [binary?, hsign, hword _ (show '.' ∉ "inf".toList by decide),
    hword _ (show '.' ∉ "infinity".toList by decide), hword _ (show '.' ∉ "nan".toList by decide),
    if_false, scan, hscan, Option.map_some]
  rfl

namespace BinaryFormat

variable {m d : ℕ} {e k : ℤ}

/-- A decimal with digits behind the point that lies in the interval of a double is rounded to
it. -/
theorem roundDecimal_of_has (hk : double.Keeps m e) (hm : 0 < m) (hd : d ≠ 0) (hneg : k < 0)
    (hlow : -400 < k) (h : (Interval.ofBinary double m e).Has (d * 10 ^ k)) (negative : Bool) :
    double.roundDecimal negative d k = .finite negative m e := by
  rw [roundDecimal, if_neg hd, if_neg (by omega), if_neg (by omega), if_neg (by omega)]
  refine round_of_has (by positivity) hm ?_ (Nat.pos_of_ne_zero hd) (by decide) hk negative
  obtain ⟨n, rfl⟩ := Int.exists_eq_neg_ofNat hneg.le
  simpa [div_eq_mul_inv] using h

/-- A decimal without such digits that lies in the interval of a double is rounded to it. -/
theorem round_of_has_whole (hk : double.Keeps m e) (hm : 0 < m) (hd : d ≠ 0) (hk₀ : 0 ≤ k)
    (h : (Interval.ofBinary double m e).Has (d * 10 ^ k)) (negative : Bool) :
    double.round negative (d * 10 ^ k.toNat) 1 = .finite negative m e := by
  obtain ⟨n, rfl⟩ := Int.eq_ofNat_of_zero_le hk₀
  refine round_of_has Nat.one_pos hm ?_ (by positivity) (by decide) hk negative
  simpa using h

/-- Zero is rounded to itself. -/
theorem round_zero_of_keeps (hk : double.Keeps 0 e) (negative : Bool) :
    double.round negative 0 1 = .finite negative 0 e := by
  have he : e = double.minExp := by
    by_contra hne
    exact absurd (hk.full (lt_of_le_of_ne hk.least (Ne.symm hne))) (by decide)
  rw [he]
  rfl

end BinaryFormat

namespace Sql

variable {m : ℕ} {e : ℤ}

theorem of_numberOf_digits {text : String} {x : ℤ ⊕ Binary} (hne : text.toList ≠ [])
    (hdigits : ∀ c ∈ text.toList, isDigit c = true) (h : numberOf text = .ok x) :
    x = .inl (digitsValue 10 text.toList : ℤ) ∧
      IntType.i64.fits (digitsValue 10 text.toList) = true := by
  rw [numberOf_digits hne hdigits] at h
  split at h
  next hfits =>
    cases h
    exact ⟨rfl, hfits⟩
  next => cases h

theorem isDigit_of_mem_whole {d k : ℕ} {c : Char}
    (h : c ∈ (toString d).toList ++ List.replicate k '0') : isDigit c = true :=
  (List.mem_append.1 h).elim isDigit_of_mem_toString isDigit_of_mem_zeros

/-- **How the spelling of a double is read back.**  One with bits behind the point is read back as
itself; one without is read as a whole number that is rounded to it, or not at all. -/
theorem numberOf_plain (hk : BinaryFormat.double.Keeps m e) :
    (¬2 ^ (-e).toNat ∣ m → numberOf (Layout.plain.write .double (.finite false m e)) =
      .ok (.inr (.finite false m e))) ∧
    (2 ^ (-e).toNat ∣ m → ∀ x, numberOf (Layout.plain.write .double (.finite false m e)) = .ok x →
      ∃ n : ℕ, x = .inl (n : ℤ) ∧ IntType.i64.fits n = true ∧
        ∀ negative, BinaryFormat.double.round negative n 1 = .finite negative m e) := by
  rcases Nat.eq_zero_or_pos m with rfl | hm
  · refine ⟨fun h => absurd (dvd_zero _) h, fun _ x hx => ?_⟩
    have hzero : (Layout.plain.write .double (.finite false 0 e)).toList = ['0'] := by
      simp [Layout.write, Layout.plain]
    obtain ⟨rfl, hfits⟩ := of_numberOf_digits (by simp [hzero]) (by simp [hzero, isDigit]) hx
    rw [hzero] at hfits ⊢
    exact ⟨0, rfl, hfits, BinaryFormat.round_zero_of_keeps hk⟩
  obtain ⟨d, k, hdigits, hd, hlow, hhas, hwhole⟩ := Shortest.digits_double hk hm
  have htext : (Layout.plain.write .double (.finite false m e)).toList =
      Layout.plain.decimal d k := by
    simp [Layout.write, hm.ne', hdigits]
  refine ⟨fun h => ?_, fun h x hx => ?_⟩
  · have hneg : k < 0 := not_le.1 fun hle => h (hwhole.1 hle)
    obtain ⟨ds, fs, hspelled, hne, hall, hvalue, rfl⟩ := Layout.exists_plain_decimal_of_neg d hneg
    rw [numberOf, htext, hspelled, if_pos (by simp), Decimal.binary?_point hne hall, hvalue,
      BinaryFormat.roundDecimal_of_has hk hm hd hneg hlow hhas]
  · have hk₀ := hwhole.2 h
    rw [Layout.plain_decimal_of_nonneg d hk₀] at htext
    obtain ⟨rfl, hfits⟩ := of_numberOf_digits (by simp [htext])
      (htext ▸ fun _ => isDigit_of_mem_whole) hx
    rw [htext, Layout.digitsValue_append_zeros, digitsValue_toString] at hfits ⊢
    exact ⟨_, rfl, hfits, BinaryFormat.round_of_has_whole hk hm hd hk₀ hhas⟩

end Sql

end FocusBilling
