import FocusBilling.Proofs.Sql.Reading
import FocusBilling.Proofs.Sql.Spelling

/-!
# Literals of rule documents in SQL

What a literal comes to when the SQL text that spells it is cut into tokens, read and given its
meaning.

* `Literal.sqlFormula?` : what a literal means in SQL; a whole number that does not fit 64 bits once
  its sign is taken away means nothing, nor does a number that is not finite;
* `Literal.sqlReading` : what a literal is read as, where it means nothing too;
* `exists_reads_sql` : **a literal is read as what its digits or its letters mean**, whatever
  follows it in a statement.
-/

namespace FocusBilling

open Sql

/-- What the digits of a number mean in SQL, with a sign in front of them. -/
def Sql.signedNumber? (negative : Bool) (digits : String) : Option Formula :=
  match numberOf digits with
  | .ok (.inl n) => some (.whole (if negative then -n else n))
  | .ok (.inr x) => some (.fraction (if negative then x.neg else x))
  | .error _ => none

/-- What the digits of a number are read as in SQL, with a sign in front of them. -/
def Sql.signedNumber (negative : Bool) (digits : String) : Elaborated Formula := do
  match ← numberOf digits with
  | .inl n => pure (.whole (if negative then -n else n))
  | .inr x => pure (.fraction (if negative then x.neg else x))

/-- What a literal is read as in SQL.  A number is read without its sign, and as a whole number if
it is spelled without a point; one that is not finite is read as the name of a column. -/
def Literal.sqlReading : Literal → Elaborated Formula
  | .bool b => .ok (.ofBool b)
  | .int (.ofNat n) => signedNumber false (toString n)
  | .int (.negSucc n) => signedNumber true (toString (n + 1))
  | .float (.finite s m e) => signedNumber s (Layout.plain.write .double (.finite false m e))
  | .float (.infinite s) => .ok (if s then Scope.signed .minus (.column "inf") else .column "inf")
  | .float .nan => .ok (.column "NaN")
  | .text s => .ok (.ofText s)

/-- What a literal means in SQL, where it means something.  A number is read without its sign, and
as a whole number if it is spelled without a point. -/
def Literal.sqlFormula? : Literal → Option Formula
  | .bool b => some (.ofBool b)
  | .int n => if IntType.i64.fits n.natAbs then some (.whole n) else none
  | .float (.finite s m e) => signedNumber? s (Layout.plain.write .double (.finite false m e))
  | .float _ => none
  | .text s => some (.ofText s)

/-- What is known of the type of a value that is written out, and the value. -/
def Sql.Formula.written : Formula → Typing × Cell
  | .constant c t => (.known t, c)
  | .whole n => (.whole n, .int n)
  | .fraction x => (.fraction x, .float x)
  | _ => (.known .null, .null)

/-- The value of a literal in SQL, where it has one, with what is known of its type. -/
def Literal.sqlValue? (d : Literal) : Option (Typing × Cell) := d.sqlFormula?.map Formula.written

namespace Sql

open Text Parse

/-! ### Digits -/

theorem isDigit_eq (c : Char) : isDigit c = c.isDigit := by
  simp only [isDigit, Char.isDigit, Char.le_def]

theorem isDigit_of_mem_toString {n : Nat} {c : Char} (h : c ∈ (toString n).toList) :
    isDigit c = true := by
  rw [isDigit_eq]
  rw [Nat.toString_eq_ofList_toDigits, String.toList_ofList] at h
  exact Nat.isDigit_of_mem_toDigits (by decide) (by decide) h

theorem toString_ne_nil (n : Nat) : (toString n).toList ≠ [] := by
  rw [Nat.toString_eq_ofList_toDigits, String.toList_ofList]
  exact Nat.toDigits_ne_nil

/-- Digits, perhaps with a point behind the first of them. -/
inductive IsNumeral : List Char → Prop
  | whole {ds} : ds ≠ [] → (∀ c ∈ ds, isDigit c = true) → IsNumeral ds
  | fraction {ds fs} : ds ≠ [] → (∀ c ∈ ds, isDigit c = true) → (∀ c ∈ fs, isDigit c = true) →
      IsNumeral (ds ++ '.' :: fs)

theorem takeWhile_isDigit {ds : List Char} (hd : ∀ c ∈ ds, isDigit c = true) {c : Char}
    (hc : isDigit c = false) (rest : List Char) :
    (ds ++ c :: rest).takeWhile isDigit = ds ∧ (ds ++ c :: rest).dropWhile isDigit = c :: rest := by
  rw [List.takeWhile_append_of_pos hd, List.dropWhile_append_of_pos hd]
  simp [hc]

theorem numberAt_numeral {cs : List Char} (h : IsNumeral cs) (rest : List Char) :
    numberAt (cs ++ ' ' :: rest) = (.number (String.ofList cs) false, ' ' :: rest) := by
  cases h with
  | whole hne hd =>
    obtain ⟨htake, hdrop⟩ := takeWhile_isDigit hd (c := ' ') (by decide) rest
    have hpoint : cs ≠ ['.'] := by
      rintro rfl
      exact absurd (hd '.' (by simp)) (by decide)
    simp only [numberAt, htake, hdrop]
    split
    -- a blank follows, so that there is neither a point nor an exponent
    next heq => simp at heq
    next => simp [hpoint]
  | @fraction ds fs hne hd hf =>
    obtain ⟨htake, hdrop⟩ := takeWhile_isDigit hd (c := '.') (by decide) (fs ++ ' ' :: rest)
    obtain ⟨htake', hdrop'⟩ := takeWhile_isDigit hf (c := ' ') (by decide) rest
    have hpoint : ds ++ '.' :: fs ≠ ['.'] := by
      cases ds with
      | nil => exact absurd rfl hne
      | cons d ds => simp
    rw [List.append_assoc, List.cons_append]
    simp only [numberAt, htake, hdrop, htake', hdrop']
    split
    next heq => simp at heq
    next => simp [hpoint]

theorem IsNumeral.exists_cons {cs : List Char} (h : IsNumeral cs) :
    ∃ c more, cs = c :: more ∧ isDigit c = true := by
  cases h with
  | whole hne hd =>
    obtain ⟨c, more, rfl⟩ := List.exists_cons_of_ne_nil hne
    exact ⟨c, more, rfl, hd c (by simp)⟩
  | @fraction ds fs hne hd _ =>
    obtain ⟨c, more, rfl⟩ := List.exists_cons_of_ne_nil hne
    exact ⟨c, more ++ '.' :: fs, rfl, hd c (by simp)⟩

theorem isBlank_of_isDigit {c : Char} (h : isDigit c = true) : isBlank c = false := by
  simp only [isDigit, Bool.and_eq_true, decide_eq_true_eq, Char.le_def, UInt32.le_iff_toNat_le] at h
  have hlow : 48 ≤ c.toNat := h.1
  have hhigh : c.toNat ≤ 57 := h.2
  simp only [isBlank, Bool.or_eq_false_iff, Bool.and_eq_false_iff, decide_eq_false_iff_not,
    beq_eq_false_iff_ne]
  omega

/-- A numeral is one token. -/
theorem spells_numeral {cs : List Char} (h : IsNumeral cs) :
    Spells cs [.number (String.ofList cs) false] := by
  obtain ⟨c, more, rfl, hc⟩ := h.exists_cons
  have hletters : c ∉ ['b', 'B', 'r', 'R', 'n', 'N', 'x', 'X', 'e', 'E', 'u', 'U'] := by
    intro hmem
    simp only [List.mem_cons, List.not_mem_nil, or_false] at hmem
    rcases hmem with rfl | rfl | rfl | rfl | rfl | rfl | rfl | rfl | rfl | rfl | rfl | rfl <;>
      cases hc
  have hne : ∀ {d}, isDigit d = false → c ≠ d := by
    rintro d hd rfl
    rw [hc] at hd
    cases hd
  refine .token (isBlank_of_isDigit hc) (fun hd => absurd hd (hne rfl)) (hne rfl) fun rest => ?_
  rw [tokenAt, letteredText_eq_none hletters]
  simp only [hne (d := '\'') rfl, hne (d := '"') rfl, hne (d := '`') rfl, hc, if_false, if_true,
    or_self]
  exact congrArg some (numberAt_numeral h rest)

/-- A minus sign stands alone in front of anything but an angle. -/
theorem signAt_minus {c : Char} (hc : c ≠ '>') (cs : List Char) :
    signAt ('-' :: c :: cs) = some (.sign "-", c :: cs) := by
  have htable : longSigns.all (fun s =>
      decide (1 < s.length) && (s[0]? != some '-' || s[1]? == some '>')) = true := rfl
  have hnone : longSigns.find? (fun s => s.isPrefixOf ('-' :: c :: cs)) = none := by
    rw [List.find?_eq_none]
    intro s hs
    have hs := List.all_eq_true.1 htable s hs
    rcases s with _ | ⟨a, _ | ⟨b, s⟩⟩
    · simp at hs
    · simp at hs
    · have hsigns : a ≠ '-' ∨ b = '>' := by simpa using hs
      rcases hsigns with ha | rfl
      · simp [List.isPrefixOf, ha]
      · simp [List.isPrefixOf, Ne.symm hc]
  rw [signAt, hnone]
  rfl

/-- A numeral with a minus sign in front of it is two tokens. -/
theorem spells_minus {cs : List Char} (h : IsNumeral cs) :
    Spells ('-' :: cs) [.sign "-", .number (String.ofList cs) false] := by
  obtain ⟨c, more, rfl, hc⟩ := h.exists_cons
  have hdash : c ≠ '-' := by
    rintro rfl
    cases hc
  have hangle : c ≠ '>' := by
    rintro rfl
    cases hc
  refine .cons rfl (fun _ => by simpa using hdash) (by decide) rfl (fun rest => ?_)
    (spells_numeral h)
  rw [tokenAt, letteredText_eq_none (by decide)]
  have hname : isNameStart '-' = false := rfl
  have hdigit : isDigit '-' = false := rfl
  simp [hname, hdigit, signAt_minus hangle]

theorem isNumeral_toString (n : Nat) : IsNumeral (toString n).toList :=
  .whole (toString_ne_nil n) fun _ => isDigit_of_mem_toString

theorem isDigit_of_mem_zeros {n : Nat} {c : Char} (h : c ∈ List.replicate n '0') :
    isDigit c = true := by
  rw [(List.mem_replicate.1 h).2]
  rfl

/-- A number without a sign that a rule document gives is spelled as a numeral. -/
theorem isNumeral_plain (m : Nat) (e : Int) :
    IsNumeral (Layout.plain.write .double (.finite false m e)).toList := by
  have hpositional : ∀ (n : Nat) (point : Int),
      IsNumeral (Layout.plain.positional (toString n).toList point) := by
    intro n point
    have hdigits : ∀ c ∈ (toString n).toList, isDigit c = true := fun _ => isDigit_of_mem_toString
    simp only [Layout.positional]
    -- the point stands behind all digits, among them, or in front of them
    split
    · refine .whole ?_ fun c hc => ?_
      · simp
      · simp only [Layout.plain, Bool.false_eq_true, if_false, List.append_nil,
          List.mem_append] at hc
        exact hc.elim (hdigits c) isDigit_of_mem_zeros
    · split
      · refine .fraction ?_ (fun c hc => hdigits c (List.mem_of_mem_take hc))
          fun c hc => hdigits c (List.mem_of_mem_drop hc)
        intro htake
        rw [List.take_eq_nil_iff] at htake
        exact htake.elim (by omega) (toString_ne_nil n)
      · refine @IsNumeral.fraction ['0'] _ (by simp) (by simp [isDigit]) fun c hc => ?_
        exact (List.mem_append.1 hc).elim isDigit_of_mem_zeros (hdigits c)
  simp only [Layout.write, Bool.false_eq_true, if_false, String.toList_ofList]
  -- zero has digits of its own
  split
  · exact .whole (by simp [Layout.plain]) (by simp [Layout.plain, isDigit])
  · exact hpositional _ _

theorem plain_negative (m : Nat) (e : Int) :
    (Layout.plain.write .double (.finite true m e)).toList =
      '-' :: (Layout.plain.write .double (.finite false m e)).toList := by
  simp [Layout.write]

theorem digitsValue_toDigits (n : Nat) : digitsValue 10 (Nat.toDigits 10 n) = n := by
  -- both read the digits from the left, each behind those read before
  have hvalue : ∀ {cs : List Char} (init : Nat), (∀ c ∈ cs, isDigit c = true) →
      cs.foldl (fun n c => n * 10 + digitValue c) init = Nat.ofDigitChars 10 cs init := by
    intro cs
    induction cs with
    | nil => intro init _; rfl
    | cons c cs ih =>
      intro init hcs
      have hc : digitValue c = c.toNat - '0'.toNat := if_pos (hcs c List.mem_cons_self)
      rw [List.foldl_cons, Nat.ofDigitChars_cons, hc, Nat.mul_comm]
      exact ih _ fun d hd => hcs d (List.mem_cons_of_mem c hd)
  have hdigits : ∀ c ∈ Nat.toDigits 10 n, isDigit c = true := fun c hc => by
    rw [isDigit_eq]
    exact Nat.isDigit_of_mem_toDigits (by decide) (by decide) hc
  rw [digitsValue, hvalue 0 hdigits]
  exact Nat.ofDigitChars_ten_toDigits

/-- Digits without a sign are a whole number. -/
theorem integer?_of_digits {cs : List Char} (hne : cs ≠ []) (hcs : ∀ c ∈ cs, isDigit c = true) :
    Decimal.integer? cs = some (digitsValue 10 cs : Int) := by
  have hnatural : Decimal.natural? cs = some (digitsValue 10 cs) := by
    rw [Decimal.natural?, List.isEmpty_eq_false_iff.2 hne, List.all_eq_true.2 hcs]
    rfl
  have hsign : Decimal.sign cs = (false, cs) := by
    unfold Decimal.sign
    split
    next => cases hcs '-' List.mem_cons_self
    next => cases hcs '+' List.mem_cons_self
    next => rfl
  simp [Decimal.integer?, hsign, hnatural]

/-- Digits alone are read as a whole number, if it fits 64 bits. -/
theorem numberOf_digits {text : String} (hne : text.toList ≠ [])
    (hdigits : ∀ c ∈ text.toList, isDigit c = true) :
    numberOf text = if IntType.i64.fits (digitsValue 10 text.toList) then
      .ok (.inl (digitsValue 10 text.toList)) else unsupported := by
  have hpoint : text.toList.contains '.' = false := by
    rw [← Bool.not_eq_true, List.contains_iff_mem]
    exact fun hmem => absurd (hdigits '.' hmem) (by decide)
  simp only [numberOf, hpoint, integer?_of_digits hne hdigits, Bool.false_eq_true, if_false]

theorem digitsValue_toString (n : Nat) : digitsValue 10 (toString n).toList = n := by
  rw [Nat.toString_eq_ofList_toDigits, String.toList_ofList, digitsValue_toDigits]

/-- A whole number is read from its digits, if it fits 64 bits. -/
theorem numberOf_toString (n : Nat) : numberOf (toString n) =
    if IntType.i64.fits n then .ok (.inl n) else unsupported := by
  rw [numberOf_digits (toString_ne_nil n) fun _ => isDigit_of_mem_toString, digitsValue_toString]

/-! ### Reading literals -/

/-- Tokens that are read as a value with a property, whether a label or the end of a choice
follows. -/
structure ReadsValue (P : Expr → Prop) (ts : List Token) : Prop where
  /-- The tokens may start an entry of a list of columns. -/
  opens : ∀ {ls sa us}, ls.map Located.token = ts →
    opensItem (ls ++ ⟨.word "AS" none, sa⟩ :: us) = true
  /-- The tokens are read, and the value may stand in such a list. -/
  takes : ∀ {n ls w sw us}, ls.map Located.token = ts → w = "AS" ∨ w = "END" →
    ∃ e, e.isItem = true ∧ P e ∧ Takes true (grammarAt (n + 3)).expr
      (ls ++ ⟨.word w none, sw⟩ :: us) e (⟨.word w none, sw⟩ :: us)

theorem ReadsValue.mono {P Q : Expr → Prop} {ts : List Token} (h : ReadsValue P ts)
    (hPQ : ∀ e, P e → Q e) : ReadsValue Q ts where
  opens := h.opens
  takes hls hw := by
    obtain ⟨e, hitem, hp, htakes⟩ := h.takes hls hw
    exact ⟨e, hitem, hPQ e hp, htakes⟩

theorem readsValue_text (s : String) :
    ReadsValue (· = .value (.text .plain s)) [.text .plain s] where
  opens hls := by
    obtain ⟨⟨_, s₁⟩, ls, rfl, rfl, h⟩ := List.map_eq_cons_iff.1 hls
    obtain rfl := List.map_eq_nil_iff.1 h
    rfl
  takes hls hw := by
    obtain ⟨⟨_, s₁⟩, ls, rfl, rfl, h⟩ := List.map_eq_cons_iff.1 hls
    obtain rfl := List.map_eq_nil_iff.1 h
    refine ⟨_, rfl, rfl, ?_⟩
    rcases hw with rfl | rfl <;> exact fun heard => ⟨_, rfl⟩

theorem takes_operandIn_bool {g : Grammar} {b : Bool} {w v : String} {sb sw : Span}
    {us : List Located} (hw : w = if b then "TRUE" else "FALSE") (hv : v = "AS" ∨ v = "END") :
    Takes true (operandIn g) (⟨.word w none, sb⟩ :: ⟨.word v none, sw⟩ :: us) (.value (.bool b))
      (⟨.word v none, sw⟩ :: us) := by
  have hfree : Token.isKeyword "COLLATE" (.word v none) = false := by
    rcases hv with rfl | rfl <;> rfl
  unfold operandIn
  refine .bind (fun heard => ⟨heard, rfl⟩) ?_
  unfold operandFrom
  refine .bind (a := none) (r := ⟨.word w none, sb⟩ :: ⟨.word v none, sw⟩ :: us) ?_ ?_
  · cases b <;> subst hw <;> rcases hv with rfl | rfl <;> exact fun heard => ⟨heard, rfl⟩
  refine .bind (fun heard => ⟨heard, rfl⟩) (.bind (fun heard => ⟨heard, rfl⟩) ?_)
  refine .bind (a := .value (.bool b)) (r := ⟨.word v none, sw⟩ :: us) ?_
    (.bind (.taken_false hfree) .pure)
  refine .bind (fun heard => ⟨heard, rfl⟩) ?_
  cases b <;> subst hw <;> exact .bind (a := some _) (.tryCatch fun heard => ⟨heard, rfl⟩) .pure

theorem readsValue_bool (b : Bool) :
    ReadsValue (· = .value (.bool b)) [.word (if b then "TRUE" else "FALSE") none] where
  opens hls := by
    obtain ⟨⟨_, s₁⟩, ls, rfl, rfl, h⟩ := List.map_eq_cons_iff.1 hls
    obtain rfl := List.map_eq_nil_iff.1 h
    cases b <;> rfl
  takes hls hw := by
    obtain ⟨⟨_, s₁⟩, ls, rfl, rfl, h⟩ := List.map_eq_cons_iff.1 hls
    obtain rfl := List.map_eq_nil_iff.1 h
    refine ⟨_, rfl, rfl, takes_expressionIn (takes_operandIn_bool rfl hw) ?_⟩
    rcases hw with rfl | rfl <;> exact Nat.le_refl 0

theorem readsValue_number (s : String) :
    ReadsValue (· = .value (.number s false)) [.number s false] where
  opens hls := by
    obtain ⟨⟨_, s₁⟩, ls, rfl, rfl, h⟩ := List.map_eq_cons_iff.1 hls
    obtain rfl := List.map_eq_nil_iff.1 h
    rfl
  takes hls hw := by
    obtain ⟨⟨_, s₁⟩, ls, rfl, rfl, h⟩ := List.map_eq_cons_iff.1 hls
    obtain rfl := List.map_eq_nil_iff.1 h
    refine ⟨_, rfl, rfl, ?_⟩
    rcases hw with rfl | rfl <;> exact fun heard => ⟨_, rfl⟩

theorem readsValue_minus (s : String) :
    ReadsValue (· = .unary .minus (.value (.number s false))) [.sign "-", .number s false] where
  opens hls := by
    obtain ⟨⟨_, s₁⟩, ls, rfl, rfl, h₁⟩ := List.map_eq_cons_iff.1 hls
    obtain ⟨⟨_, s₂⟩, us, rfl, rfl, h₂⟩ := List.map_eq_cons_iff.1 h₁
    obtain rfl := List.map_eq_nil_iff.1 h₂
    rfl
  takes hls hw := by
    obtain ⟨⟨_, s₁⟩, ls, rfl, rfl, h₁⟩ := List.map_eq_cons_iff.1 hls
    obtain ⟨⟨_, s₂⟩, us, rfl, rfl, h₂⟩ := List.map_eq_cons_iff.1 h₁
    obtain rfl := List.map_eq_nil_iff.1 h₂
    refine ⟨_, rfl, rfl, ?_⟩
    rcases hw with rfl | rfl <;> exact fun heard => ⟨_, rfl⟩

theorem takes_operandIn_name {g : Grammar} {w v : String} {sb sw : Span} {us : List Located}
    (hw : w = "inf" ∨ w = "NaN") (hv : v = "AS" ∨ v = "END") :
    Takes true (operandIn g) (⟨.word w none, sb⟩ :: ⟨.word v none, sw⟩ :: us)
      (.column [⟨w, none, sb⟩]) (⟨.word v none, sw⟩ :: us) := by
  have hfree : Token.isKeyword "COLLATE" (.word v none) = false := by
    rcases hv with rfl | rfl <;> rfl
  unfold operandIn
  refine .bind (fun heard => ⟨heard, rfl⟩) ?_
  unfold operandFrom
  refine .bind (a := none) (r := ⟨.word w none, sb⟩ :: ⟨.word v none, sw⟩ :: us) ?_ ?_
  · rcases hw with rfl | rfl <;> rcases hv with rfl | rfl <;> exact fun heard => ⟨heard, rfl⟩
  refine .bind (fun heard => ⟨heard, rfl⟩) (.bind (fun heard => ⟨heard, rfl⟩) ?_)
  refine .bind (a := .column [⟨w, none, sb⟩]) (r := ⟨.word v none, sw⟩ :: us) ?_
    (.bind (.taken_false hfree) .pure)
  unfold operandAt wordForm
  refine .bind (fun heard => ⟨heard, rfl⟩) ?_
  -- the word is no keyword that opens a form
  refine .bind (a := none) (r := ⟨.word v none, sw⟩ :: us) ?_ ?_
  · rcases hw with rfl | rfl <;> exact .tryCatch fun heard => ⟨heard, rfl⟩
  · refine .bind (fun heard => ⟨heard, rfl⟩) ?_
    rcases hv with rfl | rfl <;> exact fun heard => ⟨heard, rfl⟩

/-- Numbers that are not finite are spelled as words, which are read as names. -/
theorem readsValue_name {w : String} (hw : w = "inf" ∨ w = "NaN") :
    ReadsValue (fun e => ∃ n : Name, n.text = w ∧ e = .column [n]) [.word w none] where
  opens hls := by
    obtain ⟨⟨_, s₁⟩, ls, rfl, rfl, h⟩ := List.map_eq_cons_iff.1 hls
    obtain rfl := List.map_eq_nil_iff.1 h
    rcases hw with rfl | rfl <;> rfl
  takes hls hv := by
    obtain ⟨⟨_, s₁⟩, ls, rfl, rfl, h⟩ := List.map_eq_cons_iff.1 hls
    obtain rfl := List.map_eq_nil_iff.1 h
    refine ⟨.column [⟨w, none, s₁⟩], ?_, ⟨_, rfl, rfl⟩,
      takes_expressionIn (takes_operandIn_name hw hv) ?_⟩
    · have hfrom : (Text.lower w == "from") = false := by rcases hw with rfl | rfl <;> decide
      simpa [Expr.isItem, Expr.name?] using hfrom
    · rcases hv with rfl | rfl <;> exact Nat.le_refl 0

theorem takes_minusName {n : Nat} {w : String} {p q r : Span} {us : List Located}
    (hw : w = "AS" ∨ w = "END") :
    Takes true (grammarAt (n + 3)).expr
      (⟨.sign "-", p⟩ :: ⟨.word "inf" none, q⟩ :: ⟨.word w none, r⟩ :: us)
      (.unary .minus (.column [⟨"inf", none, q⟩])) (⟨.word w none, r⟩ :: us) := by
  have hfree : Token.isKeyword "COLLATE" (.word w none) = false := by
    rcases hw with rfl | rfl <;> rfl
  have hend : precedence (⟨.word w none, r⟩ :: us) = 0 := by
    rcases hw with rfl | rfl <;> rfl
  have hname : Takes true ((grammarAt (n + 2)).subexpr 40)
      (⟨.word "inf" none, q⟩ :: ⟨.word w none, r⟩ :: us) (.column [⟨"inf", none, q⟩])
      (⟨.word w none, r⟩ :: us) :=
    takes_expressionIn (takes_operandIn_name (.inl rfl) hw) (by simp [hend])
  refine takes_expressionIn ?_ (Nat.le_of_eq hend)
  unfold operandIn
  refine .bind (fun heard => ⟨heard, rfl⟩) ?_
  unfold operandFrom
  refine .bind (a := none) (r := ⟨.sign "-", p⟩ :: ⟨.word "inf" none, q⟩ :: ⟨.word w none, r⟩ :: us)
    (fun heard => ⟨heard, rfl⟩) ?_
  refine .bind (fun heard => ⟨heard, rfl⟩) (.bind (fun heard => ⟨heard, rfl⟩) ?_)
  refine .bind (a := .unary .minus (.column [⟨"inf", none, q⟩])) (r := ⟨.word w none, r⟩ :: us) ?_
    (.bind (.taken_false hfree) .pure)
  exact .bind hname .pure

theorem readsValue_minusName :
    ReadsValue (fun e => ∃ n : Name, n.text = "inf" ∧ e = .unary .minus (.column [n]))
      [.sign "-", .word "inf" none] where
  opens hls := by
    obtain ⟨⟨_, s₁⟩, ls, rfl, rfl, h₁⟩ := List.map_eq_cons_iff.1 hls
    obtain ⟨⟨_, s₂⟩, us, rfl, rfl, h₂⟩ := List.map_eq_cons_iff.1 h₁
    obtain rfl := List.map_eq_nil_iff.1 h₂
    rfl
  takes hls hv := by
    obtain ⟨⟨_, s₁⟩, ls, rfl, rfl, h₁⟩ := List.map_eq_cons_iff.1 hls
    obtain ⟨⟨_, s₂⟩, us, rfl, rfl, h₂⟩ := List.map_eq_cons_iff.1 h₁
    obtain rfl := List.map_eq_nil_iff.1 h₂
    exact ⟨_, rfl, ⟨_, rfl, rfl⟩, takes_minusName hv⟩

/-! ### Literals -/

theorem spells_bool (b : Bool) :
    Spells (Literal.bool b).sql.toList [.word (if b then "TRUE" else "FALSE") none] := by
  cases b
  · exact spells_capitals rfl
  · exact spells_capitals rfl

theorem spells_name {w : String} (hw : w = "inf" ∨ w = "NaN") :
    Spells w.toList [.word w none] := by
  rcases hw with rfl | rfl
  · exact .token rfl (by decide) (by decide) fun rest => rfl
  · exact .token rfl (by decide) (by decide) fun rest => rfl

theorem spells_minusName : Spells "-inf".toList [.sign "-", .word "inf" none] :=
  .cons rfl (by decide) (by decide) rfl (fun rest => rfl) (spells_name (.inl rfl))

/-- A number with or without a sign is read back as its digits mean. -/
theorem reads_numeral {digits : String} (negative : Bool) (hd : IsNumeral digits.toList) :
    ∃ ts, Spells ((if negative then ['-'] else []) ++ digits.toList) ts ∧
      ReadsValue (fun e => ∀ s : Scope, s.formula e = signedNumber negative digits) ts := by
  have hspell := spells_numeral hd
  have hminus := spells_minus hd
  rw [String.ofList_toList] at hspell hminus
  cases negative with
  | false =>
    refine ⟨_, hspell, (readsValue_number digits).mono ?_⟩
    rintro _ rfl s
    rw [Scope.formula, signedNumber, Value.formula]
    cases numberOf digits with
    | error e => rfl
    | ok x => cases x <;> rfl
  | true =>
    refine ⟨_, hminus, (readsValue_minus digits).mono ?_⟩
    rintro _ rfl s
    rw [Scope.formula, Scope.formula, signedNumber, Value.formula]
    cases numberOf digits with
    | error e => rfl
    | ok x => cases x <;> rfl

/-- **A literal is read as what its digits or its letters mean.** -/
theorem exists_reads_sql (d : Literal) :
    ∃ ts, Spells d.sql.toList ts ∧
      ReadsValue (fun e => ∀ s : Scope, s.formula e = d.sqlReading) ts := by
  match d with
  | .bool b =>
    refine ⟨_, spells_bool b, (readsValue_bool b).mono ?_⟩
    rintro _ rfl s
    rw [Scope.formula]
    rfl
  | .text t =>
    refine ⟨_, spells_quotedSql t, (readsValue_text t).mono ?_⟩
    rintro _ rfl s
    rw [Scope.formula]
    rfl
  | .int (.ofNat n) => exact reads_numeral false (isNumeral_toString n)
  | .int (.negSucc n) =>
    -- the digits are read without the sign in front of them
    have hminus : (Literal.int (.negSucc n)).sql = "-" ++ toString (n + 1) := rfl
    rw [hminus, String.toList_append]
    exact reads_numeral true (isNumeral_toString (n + 1))
  | .float (.finite false m e) => exact reads_numeral false (isNumeral_plain m e)
  | .float (.finite true m e) =>
    rw [Literal.sql, plain_negative]
    exact reads_numeral true (isNumeral_plain m e)
  | .float (.infinite false) =>
    refine ⟨_, spells_name (.inl rfl), (readsValue_name (.inl rfl)).mono ?_⟩
    rintro _ ⟨n, hn, rfl⟩ s
    rw [Scope.formula, hn]
    rfl
  | .float (.infinite true) =>
    refine ⟨_, spells_minusName, readsValue_minusName.mono ?_⟩
    rintro _ ⟨n, hn, rfl⟩ s
    rw [Scope.formula, Scope.formula, hn]
    rfl
  | .float .nan =>
    refine ⟨_, spells_name (.inr rfl), (readsValue_name (.inr rfl)).mono ?_⟩
    rintro _ ⟨n, hn, rfl⟩ s
    rw [Scope.formula, hn]
    rfl

/-- What a literal means, where it means something, is how it is read. -/
theorem sqlReading_of_sqlFormula {d : Literal} {D : Formula} (h : d.sqlFormula? = some D) :
    d.sqlReading = .ok D := by
  have hnumber : ∀ {negative digits}, signedNumber? negative digits = some D →
      signedNumber negative digits = .ok D := by
    intro negative digits h
    unfold signedNumber? at h
    unfold signedNumber
    split at h
    next n hn => rw [hn, ← Option.some.inj h]; rfl
    next x hx => rw [hx, ← Option.some.inj h]; rfl
    next => cases h
  match d with
  | .bool b | .text t =>
    obtain rfl := Option.some.inj h
    rfl
  | .int n =>
    simp only [Literal.sqlFormula?] at h
    split at h
    next hfits =>
      obtain rfl := Option.some.inj h
      cases n with
      | ofNat n =>
        have hn : numberOf (toString n) = .ok (.inl n) := (numberOf_toString n).trans (if_pos hfits)
        exact hnumber (by rw [signedNumber?, hn]; rfl)
      | negSucc n =>
        have hn : numberOf (toString (n + 1)) = .ok (.inl (n + 1 : Nat)) :=
          (numberOf_toString (n + 1)).trans (if_pos hfits)
        exact hnumber (by rw [signedNumber?, hn]; rfl)
    next => cases h
  | .float (.finite negative m e) => exact hnumber h

theorem signedNumber?_eq_some {negative : Bool} {digits : String} {D : Formula}
    (h : signedNumber? negative digits = some D) : (∃ n, D = .whole n) ∨ ∃ x, D = .fraction x := by
  unfold signedNumber? at h
  split at h
  · exact .inl ⟨_, (Option.some.inj h).symm⟩
  · exact .inr ⟨_, (Option.some.inj h).symm⟩
  · cases h

/-- A literal means a value that is written out. -/
theorem sqlFormula?_eq_some {d : Literal} {D : Formula} (h : d.sqlFormula? = some D) :
    (∃ c t, D = .constant c t) ∨ (∃ n, D = .whole n) ∨ ∃ x, D = .fraction x := by
  match d with
  | .bool b | .text t => exact .inl ⟨_, _, (Option.some.inj h).symm⟩
  | .int n =>
    rw [Literal.sqlFormula?] at h
    split at h
    · exact .inr (.inl ⟨n, (Option.some.inj h).symm⟩)
    · cases h
  | .float (.finite negative m e) => exact .inr (signedNumber?_eq_some h)

/-- A literal comes to its value over every table, and reads none of its columns. -/
theorem eval_sqlFormula {d : Literal} {D : Formula} (h : d.sqlFormula? = some D) :
    D.reads = [] ∧ ∀ isGroup g,
      D.eval isGroup g = .ok ⟨D.written.1, true, .ok [D.written.2]⟩ := by
  rcases sqlFormula?_eq_some h with ⟨c, t, rfl⟩ | ⟨n, rfl⟩ | ⟨x, rfl⟩
  · exact ⟨by rw [Formula.reads], fun isGroup g => by rw [Formula.eval]; rfl⟩
  · exact ⟨by rw [Formula.reads], fun isGroup g => by rw [Formula.eval]; rfl⟩
  · exact ⟨by rw [Formula.reads], fun isGroup g => by rw [Formula.eval]; rfl⟩

end Sql

end FocusBilling
