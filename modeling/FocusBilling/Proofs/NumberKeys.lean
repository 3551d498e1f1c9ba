import FocusBilling.Proofs.Mappings

/-!
# Keys that are numbers

A key is compared with the text of a cell.  Truth values and whole numbers are written in one way
only; a double is written in one layout as a key and in another one in a table.

* `Layout.table_decimal_eq_iff` : the decimals that both layouts write in the same way;
* `Shortest.lead_digits_double` : where the first digit of a double stands;
* `Literal.IsWrittenAlike`, `Literal.text_eq_key_iff` : the literals whose texts are the same in
  both;
* `CompiledPlan.mapped_typed_key` : **when a key that is no text matches its own value.**

Both layouts write a double as the same shortest decimal.  They differ for whole numbers, which only
tables write with a point, and below `1e-5`, where only tables write an exponent.  The double that
is next to `1e-5` lies above it, so that no other double has a decimal on the other side.
-/

namespace FocusBilling

open Text

/-! ### Decimals in both layouts -/

namespace Layout

variable {d : ℕ} {k : ℤ}

/-- The exponent of the first digit of a decimal. -/
def lead (d : ℕ) (k : ℤ) : ℤ := k + (toString d).toList.length - 1

theorem lead_bounds (hd : d ≠ 0) (k : ℤ) :
    (10 : ℚ) ^ lead d k ≤ d * 10 ^ k ∧ (d : ℚ) * 10 ^ k < 10 ^ (lead d k + 1) := by
  obtain ⟨n, hn⟩ : ∃ n, (toString d).toList.length = n + 1 := by
    exact Nat.exists_eq_succ_of_ne_zero fun h => Sql.toString_ne_nil d (List.length_eq_zero_iff.1 h)
  have hlength : ∀ j, 0 < j → (n + 1 ≤ j ↔ d < 10 ^ j) := fun j hj => by
    rw [← hn, String.length_toList, Nat.toString_eq_repr]
    exact Nat.length_repr_le_iff hj
  have hlow : 10 ^ n ≤ d := by
    rcases Nat.eq_zero_or_pos n with rfl | hpos
    · exact Nat.pos_of_ne_zero hd
    · exact not_lt.1 fun h => absurd ((hlength n hpos).2 h) (by omega)
  have hhigh : d < 10 ^ (n + 1) := (hlength (n + 1) n.succ_pos).1 le_rfl
  have hlead : lead d k = n + k := by
    rw [lead, hn]
    push_cast
    ring
  have hstep : (0 : ℚ) < 10 ^ k := by positivity
  rw [hlead, add_right_comm, zpow_add₀ (by norm_num), zpow_add₀ (by norm_num)]
  constructor
  · gcongr
    exact_mod_cast hlow
  · gcongr
    exact_mod_cast hhigh

/-- A decimal is never written with an exponent as a key, and without a point if it is whole. -/
theorem not_mem_plain_decimal (d : ℕ) (k : ℤ) :
    'e' ∉ plain.decimal d k ∧ (0 ≤ k → '.' ∉ plain.decimal d k) := by
  rcases le_or_gt 0 k with hk | hk
  · rw [plain_decimal_of_nonneg d hk]
    have hdigits : ∀ c, isDigit c = false → c ∉ (toString d).toList ++ List.replicate k.toNat '0' :=
      fun c hc hmem => Bool.false_ne_true (hc.symm.trans (Sql.isDigit_of_mem_whole hmem))
    exact ⟨hdigits 'e' rfl, fun _ => hdigits '.' rfl⟩
  · obtain ⟨ds, fs, hspelled, -, hdigits, -⟩ := exists_plain_decimal_of_neg d hk
    refine ⟨fun hmem => ?_, fun h => absurd h (not_le.2 hk)⟩
    rw [hspelled] at hmem
    have hdigit : isDigit 'e' = true := hdigits 'e' (by simpa using hmem)
    cases hdigit

/-- The decimals that are written in the same way as keys and in tables. -/
theorem table_decimal_eq_iff :
    (table .double).decimal d k = plain.decimal d k ↔ k < 0 ∧ -5 ≤ lead d k ∧ lead d k < 16 := by
  obtain ⟨hexponent, hpoint⟩ := not_mem_plain_decimal d k
  have hlayout : (table .double).decimal d k =
      if -5 ≤ lead d k ∧ lead d k < 16
        then (table .double).positional (toString d).toList (k + (toString d).toList.length)
        else (table .double).scientific (toString d).toList (lead d k) := by
    have hbounds : (table .double).isPositional (lead d k) = true ↔
        -5 ≤ lead d k ∧ lead d k < 16 := by
      simp [isPositional, table, BinaryFormat.double, BinaryFormat.single]
    rw [lead] at hbounds ⊢
    simp only [decimal, hbounds, sub_add_cancel]
  rw [hlayout]
  split
  next hlead =>
    simp only [hlead, and_true]
    constructor
    · intro h
      by_contra hk
      rw [← h, positional, if_pos (by omega)] at hpoint
      exact hpoint (not_lt.1 hk) (by simp [table, BinaryFormat.double, BinaryFormat.single])
    · intro hk
      have hpoint : ¬k + (toString d).toList.length ≥ (toString d).toList.length := by omega
      simp only [plain_decimal, positional, if_neg hpoint]
  next hlead =>
    simp only [hlead, and_false, iff_false]
    intro h
    refine hexponent (h ▸ ?_)
    simp [scientific]

end Layout

namespace Shortest

open BinaryFormat

variable {m d : ℕ} {e k : ℤ}

theorem round_hundred_thousandth :
    double.round false 1 100000 = .finite false 5902958103587057 (-69) := by
  decide +kernel

theorem digits_hundred_thousandth : digits .double 5902958103587057 (-69) = (1, -5) := by
  decide +kernel

/-- What is found in the interval of a double is on the same side of `1e-5` as the double: between
the two of them there would be a third one that is rounded to the double, and what is next to `1e-5`
has that as its shortest decimal. -/
theorem hundred_thousandth_le_iff (hk : double.Keeps m e) (hm : 0 < m)
    (hdigits : digits .double m e = (d, k))
    (h : (Interval.ofBinary double m e).Has (d * 10 ^ k)) :
    (1 / 100000 : ℚ) ≤ d * 10 ^ k ↔ (1 / 100000 : ℚ) ≤ m * 2 ^ e := by
  obtain ⟨hlower, hupper, -⟩ := @Interval.ends_ofBinary double m e hm
  have hunit : (0 : ℚ) < 2 ^ e := by positivity
  have hlow : (Interval.ofBinary double m e).lower < m * 2 ^ e := by
    rw [hlower]
    gcongr
    split <;> linarith
  have hhigh : (m * 2 ^ e : ℚ) < (Interval.ofBinary double m e).upper := by
    rw [hupper]
    gcongr
    linarith
  -- what lies in the interval is rounded to the double, so `1e-5` is found in one interval only
  have hround : (Interval.ofBinary double m e).Has (1 / 100000) →
      m = 5902958103587057 ∧ e = -69 ∧ d = 1 ∧ k = -5 := by
    intro hbetween
    have hfinite : double.round false 1 100000 = .finite false m e :=
      round_of_has (by decide) hm (by simpa using hbetween) Nat.one_pos (by decide) hk false
    rw [round_hundred_thousandth] at hfinite
    obtain ⟨-, rfl, rfl⟩ := Binary.finite.inj hfinite
    rw [digits_hundred_thousandth] at hdigits
    obtain ⟨rfl, rfl⟩ := Prod.mk.inj hdigits
    exact ⟨rfl, rfl, rfl, rfl⟩
  obtain ⟨hmin, hmax, hopen⟩ := h
  constructor
  · intro hle
    by_contra hgt
    obtain ⟨rfl, rfl, -⟩ := hround ⟨(hlow.trans (not_le.1 hgt)).le, hle.trans hmax, fun hclosed =>
      ⟨hlow.trans (not_le.1 hgt), hle.trans_lt (hopen hclosed).2⟩⟩
    norm_num at hgt
  · intro hle
    by_contra hgt
    obtain ⟨-, -, rfl, rfl⟩ := hround ⟨hmin.trans (not_le.1 hgt).le, (hle.trans_lt hhigh).le,
      fun _ => ⟨hmin.trans_lt (not_le.1 hgt), hle.trans_lt hhigh⟩⟩
    norm_num at hgt

/-- Where the first digit of a double stands that has bits behind the point. -/
theorem lead_digits_double (hk : double.Keeps m e) (hm : 0 < m)
    (hdigits : digits .double m e = (d, k)) (hd : d ≠ 0)
    (h : (Interval.ofBinary double m e).Has (d * 10 ^ k)) (hneg : ¬2 ^ (-e).toNat ∣ m) :
    Layout.lead d k < 16 ∧ (-5 ≤ Layout.lead d k ↔ (1 / 100000 : ℚ) ≤ m * 2 ^ e) := by
  obtain ⟨hlow, hhigh⟩ := Layout.lead_bounds hd k
  constructor
  · -- a double with bits behind the point is below `2 ^ 53`
    have he : e < 0 := by
      by_contra he
      exact hneg (by simp [Int.toNat_of_nonpos (show -e ≤ 0 by omega)])
    have hbits : (m : ℚ) + 1 ≤ 2 ^ 53 := by exact_mod_cast hk.bits
    have hsmall : (2 : ℚ) ^ e ≤ 1 := zpow_le_one_of_nonpos₀ (by norm_num) he.le
    have hvalue : (10 : ℚ) ^ Layout.lead d k < 10 ^ (16 : ℤ) := by
      calc (10 : ℚ) ^ Layout.lead d k ≤ d * 10 ^ k := hlow
        _ ≤ (m + 1 / 2) * 2 ^ e := (@Interval.ends_ofBinary double m e hm).2.1 ▸ h.2.1
        _ ≤ 2 ^ 53 * 1 := by
          gcongr
          linarith
        _ < 10 ^ (16 : ℤ) := by norm_num
    exact (zpow_lt_zpow_iff_right₀ (by norm_num)).1 hvalue
  · rw [← hundred_thousandth_le_iff hk hm hdigits h]
    have hten : (1 / 100000 : ℚ) = 10 ^ (-5 : ℤ) := by norm_num
    rw [hten]
    constructor
    · intro hle
      exact (zpow_le_zpow_right₀ (by norm_num) hle).trans hlow
    · intro hle
      have := (zpow_lt_zpow_iff_right₀ (by norm_num)).1 (hle.trans_lt hhigh)
      omega

end Shortest

/-! ### Literals -/

/-- A double with bits behind the point that is not below `1e-5`, whatever its sign. -/
def Binary.IsPlainFraction : Binary → Prop
  | .finite _ m e => ¬2 ^ (-e).toNat ∣ m ∧ (1 / 100000 : ℚ) ≤ m * 2 ^ e
  | _ => False

/-- How a double is written as a key and in a table. -/
theorem Layout.write_eq_iff {m : ℕ} {e : ℤ} (hk : BinaryFormat.double.Keeps m e)
    (negative : Bool) :
    (table .double).write .double (.finite negative m e) =
        plain.write .double (.finite negative m e) ↔
      (Binary.finite negative m e).IsPlainFraction := by
  have hpointed : (table .double).pointed = true := rfl
  have hplain : plain.pointed = false := rfl
  have hbody : ∀ body body' : List Char, String.ofList (if negative then '-' :: body else body) =
      String.ofList (if negative then '-' :: body' else body') ↔ body = body' := by
    cases negative <;> simp [String.ofList_inj]
  rcases Nat.eq_zero_or_pos m with rfl | hm
  · simp [write, hbody, hpointed, hplain, Binary.IsPlainFraction]
  · obtain ⟨d, k, hdigits, hd, -, hhas, hwhole⟩ := Shortest.digits_double hk hm
    simp only [write, if_neg hm.ne', hdigits, hbody, table_decimal_eq_iff, Binary.IsPlainFraction,
      ← hwhole, not_le]
    refine and_congr_right fun hneg => ?_
    obtain ⟨hlead, hle⟩ := Shortest.lead_digits_double hk hm hdigits hd hhas
      (mt hwhole.2 (not_le.2 hneg))
    rw [and_iff_left hlead, hle]

namespace Literal

variable {k : Literal} {dtype : DType}

/-- The type of a column that may hold the value of a literal that is no text; whole numbers take 64
bits. -/
def keyType? : Literal → Option DType
  | .bool _ => some .bool
  | .int _ => some .i64
  | .float _ => some .float64
  | .text _ => none

/-- A literal that is written in one way as a key and in a table. -/
def IsWrittenAlike : Literal → Prop
  | .bool _ | .int _ | .text _ => True
  | .float x => x.IsPlainFraction

/-- Which values are shown in a table by the text of their key. -/
theorem text_eq_key_iff (hk : k.IsGiven) (htype : k.keyType? = some dtype) :
    Cell.text? dtype (Cell.ofLiteral k) = some k.key ↔ k.IsWrittenAlike := by
  match k with
  | .bool b =>
    cases htype
    simp [Cell.text?, Cell.ofLiteral, key, IsWrittenAlike]
  | .int n =>
    cases htype
    simp [Cell.text?, Cell.ofLiteral, key, IsWrittenAlike, DType.i64]
  | .float (.finite negative m e) =>
    cases htype
    exact (Option.some_inj).trans (Layout.write_eq_iff hk negative)

end Literal

/-! ### Mappings -/

namespace CompiledPlan

variable {plan : Plan} {p : CompiledPlan} {f : Frame} {w : Working} {r : Rule} {source n : String}
  {args : MapValuesArgs}

/-- **When a key that is no text matches its own value.**  A rule maps a column of truth values, of
whole numbers of 64 bits or of doubles, one of its keys is a literal of that type, a row holds the
value of this literal, and no key in front of it has the text of the row.  The row gets what belongs
to the key if the literal is a truth value, a whole number, or a double with bits behind the point
that is not below `1e-5`.  For any other double it does not: there the key has another text than the
row, which gets what the entries behind that one, or the default, give it. -/
theorem mapped_typed_key {dtype : DType} {cells : List Cell} {before after : List ValueMapping}
    {k v : Literal} {i : ℕ} (hp : build .standard plan = .ok p) (hr : r.Maps source args)
    (hf : ∀ c ∈ f.columns, c.cells.length = f.height) (hw : p.assignAll f.toTable = .ok w)
    (hfound : w.table.matching source = .ok [n])
    (hfind : w.table.find? n = some ⟨dtype, .ok cells⟩)
    (hlist : args.valueList = before ++ ⟨k, v⟩ :: after) (hk : k.IsGiven)
    (htype : k.keyType? = some dtype) (hcell : cells[i]? = some (Cell.ofLiteral k))
    (hbefore : ∀ m ∈ before, Cell.text? dtype (Cell.ofLiteral k) ≠ some m.key.key) :
    ∃ q outcomes, build .standard ⟨plan.provider, plan.rules ++ [r]⟩ = .ok q ∧
      q.assignAll f.toTable = .ok ⟨⟨w.table.height, Table.putIn r.output ⟨.text, .ok outcomes⟩
        w.table.columns⟩, w.expanded⟩ ∧
      (Cell.text? dtype (Cell.ofLiteral k) = some k.key ↔ k.IsWrittenAlike) ∧
      (k.IsWrittenAlike → outcomes[i]? = some (.text v.key)) ∧
      (¬k.IsWrittenAlike → outcomes[i]? = some (Cell.orNull .text
        (MapValuesArgs.outcome ⟨after, args.default, args.defaultForNull⟩
          (Cell.text? dtype (Cell.ofLiteral k))))) := by
  obtain ⟨s, hs⟩ : ∃ s, Cell.text? dtype (Cell.ofLiteral k) = some s := by
    cases k <;> cases htype <;> exact ⟨_, rfl⟩
  have hcast : dtype.castsTo .text = true := by
    cases k <;> cases htype <;> rfl
  have hargs : args.valueList ≠ [] := by simp [hlist]
  have hassigned := assignAll_mapped (r := r) hp hargs hf hw hfound hfind hcast
  have hrow : ∀ outcome : Option String, args.outcome (some s) = outcome →
      (cells.map fun x => Cell.orNull .text (args.outcome (Cell.text? dtype x)))[i]? =
        some (Cell.orNull .text outcome) := by
    rintro _ rfl
    rw [List.getElem?_map, hcell, Option.map_some, hs]
  have hearlier : ∀ m ∈ before, m.key.key ≠ s := fun m hm heq => hbefore m hm (hs.trans (heq ▸ rfl))
  obtain ⟨list, default, forNull⟩ := args
  obtain rfl : list = before ++ ⟨k, v⟩ :: after := hlist
  have hkey : k.key = s ↔ k.IsWrittenAlike := by
    rw [← Literal.text_eq_key_iff hk htype, hs, Option.some_inj, eq_comm]
  have htext : Cell.text? dtype (Cell.ofLiteral k) = some k.key ↔ k.IsWrittenAlike :=
    Literal.text_eq_key_iff hk htype
  refine ⟨_, _, build_concat hp hr.step, hassigned, htext, fun halike => hrow (some v.key) ?_,
    fun hother => ?_⟩
  · rw [MapValuesArgs.outcome_append hearlier, MapValuesArgs.outcome_cons, if_pos (hkey.2 halike)]
  · rw [hs]
    refine hrow _ ?_
    rw [MapValuesArgs.outcome_append hearlier, MapValuesArgs.outcome_cons,
      if_neg (mt hkey.1 hother)]

/-- Two and a half is written with a point in both layouts. -/
theorem mapped_typed_key_fraction :
    let k : Literal := .float (.finite false (5 * 2 ^ 50) (-51))
    let args : MapValuesArgs := ⟨[⟨.int 1, .text "one"⟩, ⟨k, .text "some"⟩], none, true⟩
    let r : Rule := ⟨"sizes", .region, some "size", .mapValues, .mapValues args, none, 0, 0⟩
    let f : Frame := ⟨2, [⟨"size", .float64, [.null, Cell.ofLiteral k]⟩]⟩
    ∃ q w outcomes, build .standard ⟨"aws", [r]⟩ = .ok q ∧ q.assignAll f.toTable = .ok w ∧
      w.table.find? "Region" = some ⟨.text, .ok outcomes⟩ ∧ outcomes[1]? = some (.text "some") := by
  intro k args r f
  have hp : build .standard ⟨"aws", []⟩ = .ok (start "aws") := rfl
  have hk : k.IsGiven := ⟨by decide, by decide, by decide, by decide⟩
  have halike : k.IsWrittenAlike := ⟨by decide, by norm_num⟩
  have hone : Cell.text? .float64 (Cell.ofLiteral k) ≠ some (Literal.int 1).key := by
    decide +kernel
  have hf : ∀ c ∈ f.columns, c.cells.length = f.height := by simp [f]
  have hlist : args.valueList = [⟨.int 1, .text "one"⟩] ++ ⟨k, .text "some"⟩ :: [] := rfl
  obtain ⟨q, outcomes, hq, hw, -, houtcome, -⟩ :=
    mapped_typed_key (r := r) (f := f) (i := 1) hp ⟨rfl, rfl, rfl⟩ hf rfl
      (Table.matching_of_plain (n := "size") (by decide)) rfl hlist hk rfl rfl (by simpa using hone)
  exact ⟨q, _, outcomes, hq, hw, Table.lookup_putIn_self, houtcome halike⟩

/-- Two, as a double, has a key without a point, and is shown with one: the row gets the default. -/
theorem whole_key_unmatched :
    let two : Binary := .finite false (2 ^ 52) (-51)
    let drafts : List RuleDraft :=
      [{ planName := "sizes", focusColumn := "Region", sourceColumn := "size",
         conversionType := "map_values",
         conversionArgs := some (.entries [("value_list", .list
           [.entries [("key", .float two), ("value", .text "two")]]),
           ("default_value", .text "other")]) }]
    let t : Table := ⟨1, [("size", ⟨.float64, .ok [.float two]⟩)]⟩
    ∃ r q a, drafts.mapM RuleDraft.validate = .ok [r] ∧
      build .standard ⟨"test", [r]⟩ = .ok q ∧ q.apply t = .ok a ∧
      a.table.find? "Region" = some ⟨.text, .ok [.text "other"]⟩ := by
  intro two drafts t
  let args : MapValuesArgs := ⟨[⟨.float two, .text "two"⟩], some (.text "other"), true⟩
  let r : Rule := ⟨"sizes", .region, some "size", .mapValues, .mapValues args, none, 0, 0⟩
  let w : Working := ⟨⟨1, [("size", ⟨.float64, .ok [.float two]⟩),
    ("provider", ⟨.text, .ok [.text "test"]⟩)]⟩, []⟩
  have hrules : drafts.mapM RuleDraft.validate = .ok [r] := by
    simp only [drafts, r, args, two]
    rfl
  have houtcome : args.outcome (Cell.text? .float64 (.float two)) = some "other" := by
    decide +kernel
  have hstart : (start "test").assignAll t = .ok w := rfl
  have hmapped : w.assign (.mapped "Region" "size" args) = _ :=
    Working.assign_mapped (by simp [args]) (Table.matching_of_plain (by decide)) rfl rfl rfl
  let q := (start "test").behind r (.assign (.mapped "Region" "size" args))
  have hundropped : q.undropped t = _ :=
    (undropped_eq_ok rfl).2 ((assignAll_behind hstart).trans hmapped)
  have hp : build .standard ⟨"test", []⟩ = .ok (start "test") := rfl
  have hr : r.Maps "size" args := ⟨rfl, rfl, rfl⟩
  refine ⟨r, q, _, hrules, build_concat hp hr.step, apply_eq_ok.2
    ⟨_, hundropped, _, withoutTemporaries_nil, rfl⟩, ?_⟩
  rw [List.map_cons, houtcome]
  exact Table.lookup_putIn_self

end CompiledPlan

end FocusBilling
