import FocusBilling.Proofs.Sql.Numbers
import FocusBilling.Proofs.Steps
import FocusBilling.Rule.Decoding
import FocusBilling.Yaml.Value

/-!
# Literals of rules

The literals that rules can have, and what is left of them in SQL.

* `Literal.IsGiven` : truth values, whole numbers of 64 bits, finite doubles and texts;
  `Yaml.isGiven_of_decodeLiteral` : these are the literals that rule files give;
* `Literal.IsKeptInSql` : the literals that SQL takes for what they are;
  `Literal.IsGiven.sqlFormula?_of_kept` : what they mean there;
* `Literal.IsGiven.whole_of_sqlFormula?` : **a double that is a whole number becomes one in SQL.**
-/

namespace FocusBilling

open Sql

/-- A double that is a whole number: it has no bits behind the point. -/
def Binary.IsWhole : Binary → Prop
  | .finite _ m e => 2 ^ (-e).toNat ∣ m
  | _ => False

instance : DecidablePred Binary.IsWhole
  | .finite _ m e => inferInstanceAs (Decidable (2 ^ (-e).toNat ∣ m))
  | .infinite _ | .nan => inferInstanceAs (Decidable False)

namespace Literal

variable {d : Literal} {D : Formula}

/-- A literal that a rule document can give: a truth value, a whole number of 64 bits, a double that
is finite, or a text. -/
def IsGiven : Literal → Prop
  | .bool _ | .text _ => True
  | .int n => IntType.i64.fits n = true
  | .float (.finite _ m e) => BinaryFormat.double.Keeps m e
  | .float _ => False

/-- A literal that SQL takes for what it is: no double that is a whole number, which is spelled
without a point, and not the least whole number of 64 bits, which is read without its sign. -/
def IsKeptInSql : Literal → Prop
  | .bool _ | .text _ => True
  | .int n => n ≠ -2 ^ 63
  | .float x => ¬x.IsWhole

theorem signedNumber_eq_ok {negative : Bool} {digits : String} :
    signedNumber negative digits = .ok D ↔ signedNumber? negative digits = some D := by
  unfold signedNumber signedNumber?
  cases numberOf digits with
  | error e => simp
  | ok x => cases x <;> simp

theorem signedNumber?_toString (negative : Bool) (n : ℕ) :
    signedNumber? negative (toString n) =
      if IntType.i64.fits n then some (.whole (if negative then -n else n)) else none := by
  rw [signedNumber?, numberOf_toString]
  by_cases hfits : IntType.i64.fits n = true
  · rw [if_pos hfits, if_pos hfits]
  · rw [if_neg hfits, if_neg hfits]
    rfl

theorem fits_i64_iff {n : ℤ} : IntType.i64.fits n = true ↔ -2 ^ 63 ≤ n ∧ n < 2 ^ 63 := by
  have hmin : IntType.i64.min = -2 ^ 63 := rfl
  have hmax : IntType.i64.max = 2 ^ 63 - 1 := rfl
  rw [IntType.fits, hmin, hmax, Bool.and_eq_true, decide_eq_true_eq, decide_eq_true_eq]
  omega

/-- A whole number in SQL takes the type that it takes as a literal. -/
theorem dtype_whole {n : ℤ} (h : IntType.i64.fits n = true) :
    (Typing.whole n).dtype = (Literal.int n).dtype := by
  simp [Typing.dtype, Literal.dtype, h]

/-- A literal that a document can give means what it is read as. -/
theorem IsGiven.sqlReading_eq_ok (hd : d.IsGiven) :
    d.sqlReading = .ok D ↔ d.sqlFormula? = some D := by
  refine ⟨fun h => ?_, sqlReading_of_sqlFormula⟩
  match d with
  | .bool b | .text t => exact congrArg some (Except.ok.inj h)
  | .float (.finite s m e) => exact signedNumber_eq_ok.1 h
  | .float (.infinite _) | .float .nan => exact hd.elim
  | .int (.ofNat n) =>
    have hread : signedNumber? false (toString n) = some D := signedNumber_eq_ok.1 h
    rwa [signedNumber?_toString] at hread
  | .int (.negSucc n) =>
    have hread : signedNumber? true (toString (n + 1)) = some D := signedNumber_eq_ok.1 h
    rwa [signedNumber?_toString] at hread

/-- **What a literal that is kept means in SQL**: its own value, in its own type. -/
theorem IsGiven.sqlFormula?_of_kept (hd : d.IsGiven) (hk : d.IsKeptInSql) :
    ∃ D, d.sqlFormula? = some D ∧ D.written.1.dtype = d.dtype ∧ D.written.2 = Cell.ofLiteral d := by
  match d with
  | .bool b | .text t => exact ⟨_, rfl, rfl, rfl⟩
  | .int n =>
    have hn := fits_i64_iff.1 hd
    have hfits : IntType.i64.fits n.natAbs = true := by
      rw [fits_i64_iff]
      have : n ≠ -2 ^ 63 := hk
      omega
    exact ⟨_, if_pos hfits, dtype_whole hd, rfl⟩
  | .float (.finite s m e) =>
    have hread := (numberOf_plain hd).1 hk
    refine ⟨.fraction (.finite s m e), ?_, rfl, rfl⟩
    rw [sqlFormula?, signedNumber?, hread]
    cases s <;> rfl

/-- What a literal means in SQL that is not kept, if it means something: a whole number that is
rounded to it. -/
theorem IsGiven.whole_of_sqlFormula? (hd : d.IsGiven) (hk : ¬d.IsKeptInSql)
    (h : d.sqlFormula? = some D) :
    ∃ (x : Binary) (negative : Bool) (n : ℕ), d = .float x ∧ x.IsWhole ∧
      x = BinaryFormat.double.round negative n 1 ∧
      IntType.i64.fits (Binary.signed negative n) = true ∧
      D = .whole (Binary.signed negative n) := by
  match d with
  | .bool b | .text t => exact absurd trivial hk
  | .int n =>
    obtain rfl : n = -2 ^ 63 := by simpa [IsKeptInSql] using hk
    cases h
  | .float (.finite s m e) =>
    have hwhole : 2 ^ (-e).toNat ∣ m := not_not.1 hk
    change signedNumber? s (Layout.plain.write .double (.finite false m e)) = some D at h
    cases hread : numberOf (Layout.plain.write .double (.finite false m e)) with
    | error error =>
      rw [signedNumber?, hread] at h
      cases h
    | ok x =>
      obtain ⟨n, rfl, hfits, hround⟩ := (numberOf_plain hd).2 hwhole x hread
      rw [signedNumber?, hread] at h
      refine ⟨_, s, n, rfl, hwhole, (hround s).symm, ?_, (Option.some.inj h).symm⟩
      rw [fits_i64_iff] at hfits ⊢
      rw [Binary.signed]
      split <;> omega

/-- A literal means no whole number beyond 64 bits. -/
theorem IsGiven.fits_of_sqlFormula? {n : ℤ} (hd : d.IsGiven) (h : d.sqlFormula? = some (.whole n)) :
    IntType.i64.fits n = true := by
  by_cases hk : d.IsKeptInSql
  · obtain ⟨D, hD, -, hcell⟩ := hd.sqlFormula?_of_kept hk
    obtain rfl := Option.some.inj (hD.symm.trans h)
    match d with
    | .int m =>
      obtain rfl : n = m := Cell.int.inj hcell
      exact hd
    | .bool _ | .float _ | .text _ => cases hcell
  · obtain ⟨-, s, m, -, -, -, hfits, hm⟩ := hd.whole_of_sqlFormula? hk h
    rwa [Formula.whole.inj hm]

/-- A literal is kept if it means something of its own type. -/
theorem IsGiven.isKeptInSql_iff (hd : d.IsGiven) :
    d.IsKeptInSql ↔ ∃ D, d.sqlFormula? = some D ∧ D.written.1.dtype = d.dtype := by
  constructor
  · intro hk
    obtain ⟨D, hD, hdtype, -⟩ := hd.sqlFormula?_of_kept hk
    exact ⟨D, hD, hdtype⟩
  · rintro ⟨D, hD, hdtype⟩
    by_contra hk
    obtain ⟨x, s, n, rfl, -, -, hfits, rfl⟩ := hd.whole_of_sqlFormula? hk hD
    change (Typing.whole _).dtype = .float64 at hdtype
    rw [dtype_whole hfits, Literal.dtype] at hdtype
    split at hdtype <;> cases hdtype

end Literal

/-! ### Literals of rule files -/

namespace Yaml

variable {d : Literal} {document : Document}

theorem holds_binary? {cs : List Char} {x : Binary} (h : Decimal.binary? .double cs = some x) :
    BinaryFormat.double.Holds x := by
  simp only [Decimal.binary?] at h
  split_ifs at h
  · cases h
    trivial
  · cases h
    trivial
  · split at h
    · cases h
      exact BinaryFormat.holds_roundDecimal (by decide) (by decide) _ _ _
    · cases h

theorem holds_float? {s : String} {x : Binary} (h : float? s = some x) :
    BinaryFormat.double.Holds x := by
  simp only [float?] at h
  split_ifs at h
  · cases h
    trivial
  · cases h
    trivial
  · cases h
    trivial
  · exact holds_binary? (Option.filter_eq_some_iff.1 h).1

/-- A scalar of a document that a number may be read from: whole numbers of 64 bits, signed or not,
and doubles that are finite. -/
def KeepsNumbers : Document → Prop
  | .int n => Document.fits n = true
  | .float x => ∃ s m e, x = .finite s m e ∧ BinaryFormat.double.Keeps m e
  | _ => True

theorem keepsNumbers_floatDocument {x : Binary} (h : BinaryFormat.double.Holds x) :
    KeepsNumbers (floatDocument x) := by
  cases x with
  | finite s m e => exact ⟨s, m, e, rfl, h⟩
  | _ => trivial

theorem keepsNumbers_wholeDocument {n : ℤ} (h : wholeDocument n = some document) :
    KeepsNumbers document := by
  unfold wholeDocument at h
  split at h
  next hfits =>
    cases h
    exact hfits
  next => cases h

theorem keepsNumbers_plainDocument {s : String} (h : plainDocument s = some document) :
    KeepsNumbers document := by
  unfold plainDocument at h
  split at h
  · cases h
    trivial
  split at h
  · cases h
    trivial
  split at h
  · exact keepsNumbers_wholeDocument h
  split at h
  · cases h
    trivial
  split at h
  next x hx =>
    cases h
    exact keepsNumbers_floatDocument (holds_float? hx)
  next =>
    cases h
    trivial

theorem keepsNumbers_taggedDocument {tag s : String} {isPlain : Bool}
    (h : taggedDocument tag s isPlain = some document) : KeepsNumbers document := by
  unfold taggedDocument at h
  split at h
  · obtain ⟨b, -, rfl⟩ := Option.map_eq_some_iff.1 h
    trivial
  split at h
  · obtain ⟨n, -, hn⟩ := Option.bind_eq_some_iff.1 h
    exact keepsNumbers_wholeDocument hn
  split at h
  · obtain ⟨x, hx, rfl⟩ := Option.map_eq_some_iff.1 h
    exact keepsNumbers_floatDocument (holds_float? hx)
  split at h
  · split at h <;> cases h
    trivial
  split at h
  · exact keepsNumbers_plainDocument h
  · cases h
    trivial

theorem keepsNumbers_asDocumentWithin {depth : ℕ} {n : Node}
    (h : n.asDocumentWithin depth = some document) : KeepsNumbers document := by
  cases n with
  | scalar text isPlain tag =>
    unfold Node.asDocumentWithin at h
    split at h
    · cases h
    cases tag with
    | some t => exact keepsNumbers_taggedDocument h
    | none =>
      cases isPlain with
      | true => exact keepsNumbers_plainDocument h
      | false =>
        cases h
        trivial
  | sequence items tag =>
    unfold Node.asDocumentWithin at h
    split at h
    · cases h
    cases depth with
    | zero => cases h
    | succ depth =>
      obtain ⟨_, -, rfl⟩ := Option.map_eq_some_iff.1 h
      trivial
  | mapping entries tag =>
    unfold Node.asDocumentWithin at h
    split at h
    · cases h
    cases depth with
    | zero => cases h
    | succ depth =>
      obtain ⟨_, -, rfl⟩ := Option.map_eq_some_iff.1 h
      trivial

/-- **The literals that rule files give.** -/
theorem isGiven_of_decodeLiteral {depth : ℕ} {n : Node}
    (hn : n.asDocumentWithin depth = some document) (h : decodeLiteral document = .ok d) :
    d.IsGiven := by
  have hkeeps := keepsNumbers_asDocumentWithin hn
  match document with
  | .bool b | .text s =>
    cases h
    trivial
  | .float x =>
    obtain ⟨s, m, e, rfl, hk⟩ := hkeeps
    cases h
    exact hk
  | .int n =>
    have hfits : -2 ^ 63 ≤ n ∧ n < 2 ^ 64 := by simpa [Document.fits, KeepsNumbers] using hkeeps
    simp only [decodeLiteral] at h
    split at h
    · cases h
      exact Literal.fits_i64_iff.2 ⟨hfits.1, by assumption⟩
    · cases h
      -- what fits 64 bits without a sign is not too large for a double
      have hround := @BinaryFormat.round_cases .double n.natAbs 1 (by omega)
        Nat.one_pos (by decide) (by decide) (n < 0)
      rcases hround with ⟨m, e, hround, hk⟩ | ⟨-, hlarge⟩
      · rw [BinaryFormat.ofInt, hround]
        exact hk
      · have hpow : (2 : ℚ) ^ (64 : ℕ) ≤ n.natAbs := by
          rw [Nat.cast_one, div_one] at hlarge
          refine le_trans ?_ hlarge
          rw [← zpow_natCast]
          exact zpow_le_zpow_right₀ one_le_two (by decide)
        have : 2 ^ 64 ≤ n.natAbs := by exact_mod_cast hpow
        omega

end Yaml

end FocusBilling
