import Mathlib.Data.List.Nodup
import FocusBilling.Proofs.Steps
import FocusBilling.Rule.Decoding

/-!
# Documents that have the shape of arguments

Which documents tell a value is said here without the readers: a record is a sequence of its fields
in order, or entries under the names of the fields; what is not a field is passed over.

* `Document.IsText`, `Document.IsLiteral`, `Document.Chooses` and so on : documents of single
  values;
* `Document.IsRecord`, `Document.Gives`, `Document.MayGive` : records, and what they give for a
  field;
* `Document.IsTimezoneArgs`, `Document.IsMapValuesArgs` and so on : documents of arguments;
* `Shape.slots_eq_ok` : **the fields of a record are found exactly where it gives them**;
* `reads_timezoneArgs`, `reads_mapValuesArgs` and so on : each reader of arguments takes the
  documents of their shape and no others.
-/

namespace FocusBilling

variable {α : Type}

/-! ### Shapes -/

namespace Document

/-- A truth value. -/
def IsBool (d : Document) (b : Bool) : Prop := d = .bool b

/-- A text. -/
def IsText (d : Document) (s : String) : Prop := d = .text s

/-- A scalar.  A whole number that is too large for 64 bits with a sign tells the floating-point
number nearest to it. -/
inductive IsLiteral : Document → Literal → Prop where
  | bool (b : Bool) : IsLiteral (.bool b) (.bool b)
  | int {n : Int} (h : n < 2 ^ 63) : IsLiteral (.int n) (.int n)
  | large {n : Int} (h : 2 ^ 63 ≤ n) : IsLiteral (.int n) (.float (BinaryFormat.double.ofInt n))
  | float (x : Binary) : IsLiteral (.float x) (.float x)
  | text (s : String) : IsLiteral (.text s) (.text s)

/-- A name out of several choices: alone, or as the key of nothing. -/
def Chooses (choices : List (String × α)) (d : Document) (x : α) : Prop :=
  ∃ name, choices.lookup name = some x ∧ (d = .text name ∨ d = .entries [(name, .null)])

/-- Nothing, or a value of some shape. -/
def IsOption (P : Document → α → Prop) (d : Document) : Option α → Prop
  | none => d = .null
  | some x => d ≠ .null ∧ P d x

/-- A sequence of values of some shape. -/
def IsList (P : Document → α → Prop) (d : Document) (xs : List α) : Prop :=
  ∃ items, d = .list items ∧ List.Forall₂ P items xs

/-! #### Records -/

/-- A record of fields with given names: entries, none of these names twice, or not more items than
there are fields. -/
def IsRecord (names : List String) : Document → Prop
  | .entries items => ∀ name ∈ names, (items.map (·.1)).count name ≤ 1
  | .list items => items.length ≤ names.length
  | _ => False

/-- What stands in a record for the field that has a place and a name. -/
def fieldAt (i : Nat) (name : String) : Document → Option Document
  | .entries items => items.lookup name
  | .list items => items[i]?
  | _ => none

/-- A record gives a value of some shape for a field. -/
def Gives (P : Document → α → Prop) (d : Document) (i : Nat) (name : String) (x : α) : Prop :=
  ∃ v, d.fieldAt i name = some v ∧ P v x

/-- A record gives a value of some shape for a field, or leaves it out. -/
def MayGive (P : Document → α → Prop) (default : α) (d : Document) (i : Nat) (name : String)
    (x : α) : Prop :=
  (d.fieldAt i name = none ∧ x = default) ∨ d.Gives P i name x

/-! #### Arguments -/

/-- The resolution of repeated wall-clock times. -/
def IsAmbiguous : Document → AmbiguousTime → Prop :=
  Chooses (AmbiguousTime.all.map fun a => (a.name, a))

/-- A primitive type. -/
def IsTargetType : Document → TargetType → Prop := Chooses TargetType.spellings

/-- A zone, and what to do with times that occur twice. -/
def IsTimezoneArgs (d : Document) (args : TimezoneArgs) : Prop :=
  d.IsRecord ["timezone", "ambiguous"] ∧ d.Gives IsText 0 "timezone" args.timezone ∧
    d.MayGive IsAmbiguous .null 1 "ambiguous" args.ambiguous

/-- How texts are read as datetimes. -/
def IsParseDatetimeArgs (d : Document) (args : ParseDatetimeArgs) : Prop :=
  d.IsRecord ["format", "timezone", "strict", "ambiguous"] ∧
    d.MayGive (IsOption IsText) none 0 "format" args.format ∧
    d.MayGive (IsOption IsText) none 1 "timezone" args.timezone ∧
    d.MayGive IsBool false 2 "strict" args.strict ∧
    d.MayGive IsAmbiguous .null 3 "ambiguous" args.ambiguous

/-- A constant. -/
def IsStaticValue (d : Document) (value : Literal) : Prop :=
  d.IsRecord ["static_value"] ∧ d.Gives IsLiteral 0 "static_value" value

/-- An entry of a mapping. -/
def IsValueMapping (d : Document) (m : ValueMapping) : Prop :=
  d.IsRecord ["key", "value"] ∧ d.Gives IsLiteral 0 "key" m.key ∧
    d.Gives IsLiteral 1 "value" m.value

/-- A mapping of values. -/
def IsMapValuesArgs (d : Document) (args : MapValuesArgs) : Prop :=
  d.IsRecord ["value_list", "default_value", "apply_default_if_null"] ∧
    d.Gives (IsList IsValueMapping) 0 "value_list" args.valueList ∧
    d.MayGive (IsOption IsLiteral) none 1 "default_value" args.default ∧
    d.MayGive IsBool true 2 "apply_default_if_null" args.defaultForNull

/-- The field to extract. -/
def IsUnnestField (d : Document) (field : Option String) : Prop :=
  d.IsRecord ["field"] ∧ d.MayGive (IsOption IsText) none 0 "field" field

/-- A default. -/
def IsDefaultValue (d : Document) (value : Literal) : Prop :=
  d.IsRecord ["default_value"] ∧ d.Gives IsLiteral 0 "default_value" value

/-- The type asked for. -/
def IsSetDtype (d : Document) (t : TargetType) : Prop :=
  d.IsRecord ["dtype"] ∧ d.Gives IsTargetType 0 "dtype" t

/-- Ordered conditions. -/
def IsSqlConditionArgs (d : Document) (args : SqlConditionArgs) : Prop :=
  d.IsRecord ["conditions", "default_value"] ∧
    d.Gives (IsList IsText) 0 "conditions" args.conditions ∧
    d.Gives IsLiteral 1 "default_value" args.default

/-- A query: bare text, or entries with the text under `sql_query`. -/
def IsSqlQuery (d : Document) (query : String) : Prop :=
  d = .text query ∨ ∃ items, d = .entries items ∧ items.lookup "sql_query" = some (.text query)

end Document

/-! ### Readers of single values -/

open Document

/-- A reader that takes the documents of a shape and no others. -/
def Reads (decode : Decoder α) (P : Document → α → Prop) : Prop := ∀ d x, decode d = .ok x ↔ P d x

theorem map_some_eq_ok {ε : Type} {x : Except ε α} {y : Option α} :
    x.map some = .ok y ↔ ∃ a, x = .ok a ∧ y = some a := by
  cases x <;> simp [Except.map, eq_comm]

theorem reads_text : Reads decodeText IsText := by
  intro d s
  cases d <;> simp [decodeText, IsText]

theorem reads_bool : Reads decodeBool IsBool := by
  intro d b
  cases d <;> simp [decodeBool, IsBool]

theorem reads_literal : Reads decodeLiteral IsLiteral := by
  intro d x
  constructor
  · intro h
    cases d with
    | null | list | entries => cases h
    | bool b | float b | text b =>
      cases h
      constructor
    | int n =>
      rw [decodeLiteral] at h
      split at h
      next hn =>
        cases h
        exact .int hn
      next hn =>
        cases h
        exact .large (Int.not_lt.1 hn)
  · rintro (_ | h | h | _ | _)
    · rfl
    · exact if_pos h
    · exact if_neg (Int.not_lt.2 h)
    · rfl
    · rfl

theorem reads_choice (choices : List (String × α)) :
    Reads (decodeChoice choices) (Chooses choices) := by
  intro d x
  cases d with
  | text name =>
    cases h : choices.lookup name <;> simp [decodeChoice, Chooses, h]
  | entries items =>
    rcases items with _ | ⟨⟨name, payload⟩, _ | ⟨_, _⟩⟩
    · simp [decodeChoice, Chooses]
    · cases h : choices.lookup name <;> cases payload <;>
        simp [decodeChoice, Chooses, h, bind, Except.bind]
    · simp [decodeChoice, Chooses]
  | _ => simp [decodeChoice, Chooses]

theorem Reads.option {decode : Decoder α} {P : Document → α → Prop} (h : Reads decode P) :
    Reads (decodeOption decode) (IsOption P) := by
  intro d x
  have hsome : d ≠ .null → (decodeOption decode d = .ok x ↔ ∃ a, P d a ∧ x = some a) := by
    intro hd
    simp only [← h d, ← map_some_eq_ok]
    cases d with
    | null => exact absurd rfl hd
    | _ => rfl
  by_cases hd : d = .null
  · subst hd
    cases x <;> simp [decodeOption, IsOption]
  · rw [hsome hd]
    cases x <;> simp [IsOption, hd]

theorem Reads.list {decode : Decoder α} {P : Document → α → Prop} (h : Reads decode P) :
    Reads (decodeList decode) (IsList P) := by
  have hitems : ∀ items xs, decodeItems decode items = .ok xs ↔ List.Forall₂ P items xs := by
    intro items
    induction items with
    | nil => intro xs; cases xs <;> simp [decodeItems]
    | cons d items ih =>
      intro xs
      cases xs <;> simp [decodeItems, h d, ih]
  intro d xs
  cases d <;> simp [decodeList, IsList, hitems]

/-! ### Records -/

namespace Field

/-- What may stand for a field. -/
def Admits (f : Field) : Option Document → Prop
  | some v => f.check v = .ok ()
  | none => f.required = false

theorem check_eq_ok {decode : Decoder α} {v : Document} :
    ((decode v).map fun _ => ()) = .ok () ↔ ∃ x, decode v = .ok x := by
  cases decode v <;> simp [Except.map]

theorem admits_needed {name : String} {decode : Decoder α} {o : Option Document} :
    (needed name decode).Admits o ↔ ∃ v x, o = some v ∧ decode v = .ok x := by
  cases o <;> simp [Admits, needed, check_eq_ok]

theorem admits_optional {name : String} {decode : Decoder α} {o : Option Document} :
    (optional name decode).Admits o ↔ ∀ v, o = some v → ∃ x, decode v = .ok x := by
  cases o <;> simp [Admits, optional, check_eq_ok]

end Field

namespace Shape

variable {shape : Shape} {d : Document} {s : List (Option Document)}

/-- Each field has one name, and the names differ. -/
structure NamesOnce (shape : Shape) : Prop where
  /-- Each field has one name. -/
  keys : ∀ f ∈ shape.fields, f.keys = [f.label]
  /-- The names differ. -/
  distinct : (shape.fields.map Field.label).Nodup

theorem check_bind_eq_ok {ε β : Type} {x : Except ε Unit} {y : Except ε β} {b : β} :
    (do x; y) = .ok b ↔ x = .ok () ∧ y = .ok b :=
  bind_eq_ok.trans ⟨fun ⟨(), h⟩ => h, fun h => ⟨(), h⟩⟩

theorem forall_getElem?_cons {P : Nat → Field → Prop} {f : Field} {fields : List Field} :
    (∀ (i : Nat) g, (f :: fields)[i]? = some g → P i g) ↔
      P 0 f ∧ ∀ (i : Nat) g, fields[i]? = some g → P (i + 1) g := by
  refine ⟨fun h => ⟨h 0 f rfl, fun i g hg => h (i + 1) g hg⟩, fun h i g hg => ?_⟩
  cases i with
  | zero => exact Option.some.inj hg ▸ h.1
  | succ i => exact h.2 i g hg

theorem forall_getElem?_singleton {P : Nat → Field → Prop} {f : Field} :
    (∀ (i : Nat) g, [f][i]? = some g → P i g) ↔ P 0 f := by
  rw [forall_getElem?_cons]
  exact and_iff_left fun i g h => by cases h

theorem checkItems_eq_ok {i : Nat} {fields : List Field} {items : List Document} :
    shape.checkItems i fields items = .ok () ↔
      ∀ (j : Nat) f, fields[j]? = some f → f.Admits items[j]? := by
  induction fields generalizing i items with
  | nil => simp [checkItems]
  | cons f fields ih =>
    rw [forall_getElem?_cons]
    cases items with
    | nil =>
      have ih' := @ih (i + 1) []
      cases hrequired : f.required <;> simp_all [checkItems, Field.Admits]
    | cons v items =>
      rw [checkItems, check_bind_eq_ok, ih]
      simp [Field.Admits]

/-- Entries are good if each field is there once at most, and has a value. -/
theorem checkEntries_eq_ok (h : shape.NamesOnce) {seen : List String}
    {items : List (String × Document)} :
    shape.checkEntries seen items = .ok () ↔ ∀ f ∈ shape.fields,
      (f.label ∈ seen → f.label ∉ items.map (·.1)) ∧ (items.map (·.1)).count f.label ≤ 1 ∧
        ∀ e ∈ items, e.1 = f.label → f.check e.2 = .ok () := by
  induction items generalizing seen with
  | nil => simp [checkEntries]
  | cons e items ih =>
    obtain ⟨name, value⟩ := e
    have hcontains : ∀ f ∈ shape.fields, f.keys.contains name = true ↔ name = f.label := by
      intro f hf
      rw [h.keys f hf, List.contains_iff_mem, List.mem_singleton]
    rw [checkEntries]
    cases hfound : shape.fields.find? fun f => f.keys.contains name with
    | none =>
      -- what is no field is passed over
      have hother : ∀ f ∈ shape.fields, name ≠ f.label := fun f hf heq =>
        List.find?_eq_none.1 hfound f hf ((hcontains f hf).2 heq)
      refine ih.trans (forall₂_congr fun f hf => ?_)
      simp [hother f hf, (hother f hf).symm]
    | some f₀ =>
      -- the names differ, so this is the only field that the entry is for
      have hf₀ := List.mem_of_find?_eq_some hfound
      have hname : name = f₀.label :=
        (hcontains f₀ hf₀).1 (List.find?_eq_some_iff_append.1 hfound).1
      have hsame : ∀ f ∈ shape.fields, f.label = f₀.label → f = f₀ := fun f hf heq =>
        List.inj_on_of_nodup_map h.distinct hf hf₀ heq
      subst hname
      by_cases hseen : f₀.label ∈ seen
      · have hcontained : seen.contains f₀.label = true := List.contains_iff_mem.2 hseen
        simp only [hcontained, if_true, reduceCtorEq, false_iff]
        exact fun hall => (hall f₀ hf₀).1 hseen (by simp)
      · have hcontained : seen.contains f₀.label = false := by simpa using hseen
        simp only [hcontained, Bool.false_eq_true, if_false, check_bind_eq_ok, ih]
        constructor
        · rintro ⟨hvalue, hall⟩ f hf
          obtain ⟨hfresh, hcount, hrest⟩ := hall f hf
          by_cases heq : f.label = f₀.label
          · obtain rfl := hsame f hf heq
            have hnone := List.count_eq_zero.2 (hfresh List.mem_cons_self)
            refine ⟨fun hmem => absurd hmem hseen, ?_, fun e he hname => ?_⟩
            · simp [hnone]
            · rcases List.mem_cons.1 he with rfl | he
              · exact hvalue
              · exact hrest e he hname
          · have hne : f₀.label ≠ f.label := Ne.symm heq
            refine ⟨fun hmem => ?_, ?_, fun e he hname => ?_⟩
            · simpa [heq] using hfresh (List.mem_cons_of_mem _ hmem)
            · simpa [hne] using hcount
            · rcases List.mem_cons.1 he with rfl | he
              · exact absurd hname hne
              · exact hrest e he hname
        · intro hall
          refine ⟨(hall f₀ hf₀).2.2 _ List.mem_cons_self rfl, fun f hf => ?_⟩
          obtain ⟨hfresh, hcount, hvalues⟩ := hall f hf
          refine ⟨fun hmem => ?_, ?_, fun e he => hvalues e (List.mem_cons_of_mem _ he)⟩
          · rcases List.mem_cons.1 hmem with heq | hmem
            · rw [← List.count_eq_zero]
              simpa [heq] using hcount
            · exact fun hin => hfresh hmem (List.mem_cons_of_mem _ hin)
          · exact Nat.le_trans List.count_le_count_cons hcount

theorem lookup_eq_some_of_mem {name : String} {v : Document} {items : List (String × Document)}
    (honce : (items.map (·.1)).count name ≤ 1) (h : (name, v) ∈ items) :
    items.lookup name = some v := by
  induction items with
  | nil => cases h
  | cons e items ih =>
    obtain ⟨m, w⟩ := e
    by_cases hm : m = name
    · subst hm
      have hnot : m ∉ items.map (·.1) := List.count_eq_zero.1 (by simpa using honce)
      rcases List.mem_cons.1 h with heq | hmem
      · obtain ⟨-, rfl⟩ := Prod.mk.inj heq
        exact List.lookup_cons_self
      · exact absurd (List.mem_map_of_mem hmem) hnot
    · have hne : (name == m) = false := by simpa using Ne.symm hm
      rw [List.lookup_cons, hne]
      refine ih (by simpa [hm] using honce) ((List.mem_cons.1 h).resolve_left fun heq => ?_)
      exact hm (Prod.mk.inj heq).1.symm

theorem entryOf_eq_lookup {f : Field} (h : f.keys = [f.label])
    (items : List (String × Document)) : entryOf items f = items.lookup f.label := by
  rw [entryOf, h]
  induction items with
  | nil => rfl
  | cons e items ih =>
    obtain ⟨name, v⟩ := e
    by_cases hname : name = f.label
    · simp [hname]
    · have hne : (f.label == name) = false := by simpa using Ne.symm hname
      simpa [List.lookup_cons, hname, hne] using ih

/-- Entries are a record if each field is there once at most, has a value, and is there if it must
be. -/
theorem slots_entries_eq_ok (h : shape.NamesOnce) {items : List (String × Document)} :
    shape.slots (.entries items) = .ok s ↔
      (∀ f ∈ shape.fields, (items.map (·.1)).count f.label ≤ 1) ∧
      (∀ f ∈ shape.fields, f.Admits (items.lookup f.label)) ∧
      s = shape.fields.map fun f => items.lookup f.label := by
  have hentries : shape.fields.map (entryOf items) =
      shape.fields.map fun f => items.lookup f.label :=
    List.map_congr_left fun f hf => entryOf_eq_lookup (h.keys f hf) items
  have hmissing : shape.firstMissing items = none ↔
      ∀ f ∈ shape.fields, f.required = true → items.lookup f.label ≠ none := by
    simp only [firstMissing, List.find?_eq_none, Bool.and_eq_true, Option.isNone_iff_eq_none,
      not_and]
    exact forall₂_congr fun f hf => by rw [entryOf_eq_lookup (h.keys f hf)]
  have hslots : shape.slots (.entries items) = .ok s ↔ shape.checkEntries [] items = .ok () ∧
      shape.firstMissing items = none ∧ s = shape.fields.map fun f => items.lookup f.label := by
    rw [slots, check_bind_eq_ok, hentries]
    cases shape.firstMissing items with
    | none => simp only [pure_eq_ok, true_and, eq_comm (a := s)]
    | some f => simp
  rw [hslots, checkEntries_eq_ok h, hmissing]
  constructor
  · rintro ⟨hchecked, hrequired, hs⟩
    refine ⟨fun f hf => (hchecked f hf).2.1, fun f hf => ?_, hs⟩
    cases hfound : items.lookup f.label with
    | none => exact Bool.eq_false_iff.2 fun hr => hrequired f hf hr hfound
    | some v =>
      obtain ⟨before, after, hmem, -⟩ := List.lookup_eq_some_iff.1 hfound
      exact (hchecked f hf).2.2 (f.label, v) (by simp [hmem]) rfl
  · rintro ⟨honce, hadmits, hs⟩
    refine ⟨fun f hf => ⟨?_, honce f hf, ?_⟩, fun f hf hr hnone => ?_, hs⟩
    · exact fun hmem => absurd hmem List.not_mem_nil
    · rintro ⟨name, v⟩ he rfl
      have hvalue := hadmits f hf
      rwa [lookup_eq_some_of_mem (honce f hf) he] at hvalue
    · have hoptional := hadmits f hf
      rw [hnone] at hoptional
      exact absurd (hr.symm.trans hoptional) (by decide)

/-- A sequence is a record if its items are values of the fields in their places, and it ends no
later than the fields do. -/
theorem slots_list_eq_ok {items : List Document} :
    shape.slots (.list items) = .ok s ↔ items.length ≤ shape.fields.length ∧
      (∀ (i : Nat) f, shape.fields[i]? = some f → f.Admits items[i]?) ∧
      s = (List.range shape.fields.length).map fun i => items[i]? := by
  rw [slots, check_bind_eq_ok, checkItems_eq_ok]
  split
  next hlong => simp [Nat.not_le.2 hlong]
  next hshort =>
    rw [pure_eq_ok, eq_comm (b := s)]
    exact (and_iff_right (Nat.not_lt.1 hshort)).symm

/-- **The fields of a record are found exactly where it gives them.** -/
theorem slots_eq_ok (h : shape.NamesOnce) :
    shape.slots d = .ok s ↔ d.IsRecord (shape.fields.map Field.label) ∧
      (∀ (i : Nat) f, shape.fields[i]? = some f → f.Admits (d.fieldAt i f.label)) ∧
      s = shape.fields.mapIdx fun i f => d.fieldAt i f.label := by
  cases d with
  | entries items =>
    have hmap : (shape.fields.mapIdx fun _ f => items.lookup f.label) =
        shape.fields.map fun f => items.lookup f.label := by
      refine List.ext_getElem? fun i => ?_
      simp
    have hall : (∀ (i : Nat) f, shape.fields[i]? = some f → f.Admits (items.lookup f.label)) ↔
        ∀ f ∈ shape.fields, f.Admits (items.lookup f.label) := by
      constructor
      · intro hi f hf
        obtain ⟨i, hfound⟩ := List.mem_iff_getElem?.1 hf
        exact hi i f hfound
      · exact fun hf i f hfound => hf f (List.mem_of_getElem? hfound)
    rw [slots_entries_eq_ok h]
    simp only [IsRecord, fieldAt, hmap, hall, List.forall_mem_map]
  | list items =>
    have hmap : (shape.fields.mapIdx fun i _ => items[i]?) =
        (List.range shape.fields.length).map fun i => items[i]? := by
      refine List.ext_getElem (by simp) fun i h₁ h₂ => ?_
      simp
    rw [slots_list_eq_ok]
    simp only [IsRecord, fieldAt, hmap, List.length_map]
  | _ => simp [slots, IsRecord]

end Shape

/-! ### Readers of arguments -/

open Shape

section Slots

variable {decode : Decoder α} {P : Document → α → Prop} {d : Document} {s : List (Option Document)}
  {i : Nat} {name : String} {x default : α}

theorem slot_eq_ok (h : Reads decode P) (hs : s[i]?.join = d.fieldAt i name) :
    slot decode name s i = .ok x ↔ d.Gives P i name x := by
  rw [slot, hs, Gives]
  cases d.fieldAt i name <;> simp [h _ _]

theorem slotOr_eq_ok (h : Reads decode P) (hs : s[i]?.join = d.fieldAt i name) :
    slotOr decode default s i = .ok x ↔ d.MayGive P default i name x := by
  rw [slotOr, hs, MayGive, Gives]
  cases d.fieldAt i name <;> simp [h _ _, eq_comm]

theorem Document.Gives.admits (h : Reads decode P) (hx : d.Gives P i name x) :
    (Field.needed name decode).Admits (d.fieldAt i name) := by
  obtain ⟨v, hv, hx⟩ := hx
  exact Field.admits_needed.2 ⟨v, x, hv, (h v x).2 hx⟩

theorem Document.MayGive.admits (h : Reads decode P) (hx : d.MayGive P default i name x) :
    (Field.optional name decode).Admits (d.fieldAt i name) := by
  refine Field.admits_optional.2 fun v hv => ?_
  rcases hx with ⟨hnone, -⟩ | ⟨w, hw, hx⟩
  · rw [hnone] at hv
    cases hv
  · obtain rfl := Option.some.inj (hw.symm.trans hv)
    exact ⟨x, (h w x).2 hx⟩

end Slots

theorem reads_ambiguous : Reads decodeAmbiguous IsAmbiguous := reads_choice _

theorem reads_targetType : Reads decodeTargetType IsTargetType := reads_choice _

/-- A record of one field that must be given. -/
theorem reads_single {decode : Decoder α} {P : Document → α → Prop} (h : Reads decode P)
    (title name : String) :
    Reads (fun d => do
        let s ← (Shape.mk title [.needed name decode]).slots d
        slot decode name s 0)
      fun d x => d.IsRecord [name] ∧ d.Gives P 0 name x := by
  intro d x
  have hshape : (Shape.mk title [.needed name decode]).NamesOnce :=
    ⟨by simp [Field.needed, Field.label], by simp⟩
  simp only [bind_eq_ok, slots_eq_ok hshape]
  constructor
  · rintro ⟨_, ⟨hrecord, -, rfl⟩, hx⟩
    exact ⟨hrecord, (slot_eq_ok h rfl).1 hx⟩
  · rintro ⟨hrecord, hx⟩
    exact ⟨_, ⟨hrecord, forall_getElem?_singleton.2 (hx.admits h), rfl⟩,
      (slot_eq_ok h rfl).2 hx⟩

theorem reads_timezoneArgs : Reads decodeTimezoneArgs IsTimezoneArgs := by
  intro d args
  have hshape : timezoneShape.NamesOnce := ⟨by decide, by decide⟩
  simp only [decodeTimezoneArgs, bind_eq_ok, slots_eq_ok hshape, pure_eq_ok]
  constructor
  · rintro ⟨_, ⟨hrecord, -, rfl⟩, _, hzone, _, hambiguous, rfl⟩
    exact ⟨hrecord, (slot_eq_ok reads_text rfl).1 hzone,
      (slotOr_eq_ok reads_ambiguous rfl).1 hambiguous⟩
  · rintro ⟨hrecord, hzone, hambiguous⟩
    refine ⟨_, ⟨hrecord, ?_, rfl⟩, _, (slot_eq_ok reads_text rfl).2 hzone, _,
      (slotOr_eq_ok reads_ambiguous rfl).2 hambiguous, rfl⟩
    exact forall_getElem?_cons.2 ⟨hzone.admits reads_text,
      forall_getElem?_singleton.2 (hambiguous.admits reads_ambiguous)⟩

theorem reads_parseDatetimeArgs : Reads decodeParseDatetimeArgs IsParseDatetimeArgs := by
  intro d args
  have hshape : parseDatetimeShape.NamesOnce := ⟨by decide, by decide⟩
  simp only [decodeParseDatetimeArgs, bind_eq_ok, slots_eq_ok hshape, pure_eq_ok]
  constructor
  · rintro ⟨_, ⟨hrecord, -, rfl⟩, _, hformat, _, hzone, _, hstrict, _, hambiguous, rfl⟩
    exact ⟨hrecord, (slotOr_eq_ok reads_text.option rfl).1 hformat,
      (slotOr_eq_ok reads_text.option rfl).1 hzone, (slotOr_eq_ok reads_bool rfl).1 hstrict,
      (slotOr_eq_ok reads_ambiguous rfl).1 hambiguous⟩
  · rintro ⟨hrecord, hformat, hzone, hstrict, hambiguous⟩
    refine ⟨_, ⟨hrecord, ?_, rfl⟩, _, (slotOr_eq_ok reads_text.option rfl).2 hformat, _,
      (slotOr_eq_ok reads_text.option rfl).2 hzone, _, (slotOr_eq_ok reads_bool rfl).2 hstrict, _,
      (slotOr_eq_ok reads_ambiguous rfl).2 hambiguous, rfl⟩
    exact forall_getElem?_cons.2 ⟨hformat.admits reads_text.option,
      forall_getElem?_cons.2 ⟨hzone.admits reads_text.option,
        forall_getElem?_cons.2 ⟨hstrict.admits reads_bool,
          forall_getElem?_singleton.2 (hambiguous.admits reads_ambiguous)⟩⟩⟩

theorem reads_staticValue : Reads decodeStaticValue IsStaticValue := reads_single reads_literal _ _

theorem reads_defaultValue : Reads decodeDefaultValue IsDefaultValue :=
  reads_single reads_literal _ _

theorem reads_setDtype : Reads decodeSetDtype IsSetDtype := reads_single reads_targetType _ _

theorem reads_valueMapping : Reads decodeValueMapping IsValueMapping := by
  intro d m
  have hshape : valueMappingShape.NamesOnce := ⟨by decide, by decide⟩
  simp only [decodeValueMapping, bind_eq_ok, slots_eq_ok hshape, pure_eq_ok]
  constructor
  · rintro ⟨_, ⟨hrecord, -, rfl⟩, _, hkey, _, hvalue, rfl⟩
    exact ⟨hrecord, (slot_eq_ok reads_literal rfl).1 hkey, (slot_eq_ok reads_literal rfl).1 hvalue⟩
  · rintro ⟨hrecord, hkey, hvalue⟩
    refine ⟨_, ⟨hrecord, ?_, rfl⟩, _, (slot_eq_ok reads_literal rfl).2 hkey, _,
      (slot_eq_ok reads_literal rfl).2 hvalue, rfl⟩
    exact forall_getElem?_cons.2 ⟨hkey.admits reads_literal,
      forall_getElem?_singleton.2 (hvalue.admits reads_literal)⟩

theorem reads_mapValuesArgs : Reads decodeMapValuesArgs IsMapValuesArgs := by
  intro d args
  have hshape : mapValuesShape.NamesOnce := ⟨by decide, by decide⟩
  have hlist := reads_valueMapping.list
  simp only [decodeMapValuesArgs, bind_eq_ok, slots_eq_ok hshape, pure_eq_ok]
  constructor
  · rintro ⟨_, ⟨hrecord, -, rfl⟩, _, hvalues, _, hdefault, _, hnull, rfl⟩
    exact ⟨hrecord, (slot_eq_ok hlist rfl).1 hvalues,
      (slotOr_eq_ok reads_literal.option rfl).1 hdefault, (slotOr_eq_ok reads_bool rfl).1 hnull⟩
  · rintro ⟨hrecord, hvalues, hdefault, hnull⟩
    refine ⟨_, ⟨hrecord, ?_, rfl⟩, _, (slot_eq_ok hlist rfl).2 hvalues, _,
      (slotOr_eq_ok reads_literal.option rfl).2 hdefault, _, (slotOr_eq_ok reads_bool rfl).2 hnull,
      rfl⟩
    exact forall_getElem?_cons.2 ⟨hvalues.admits hlist,
      forall_getElem?_cons.2 ⟨hdefault.admits reads_literal.option,
        forall_getElem?_singleton.2 (hnull.admits reads_bool)⟩⟩

theorem reads_unnestField : Reads decodeUnnestField IsUnnestField := by
  intro d field
  have hshape : unnestShape.NamesOnce := ⟨by decide, by decide⟩
  simp only [decodeUnnestField, bind_eq_ok, slots_eq_ok hshape]
  constructor
  · rintro ⟨_, ⟨hrecord, -, rfl⟩, hfield⟩
    exact ⟨hrecord, (slotOr_eq_ok reads_text.option rfl).1 hfield⟩
  · rintro ⟨hrecord, hfield⟩
    exact ⟨_, ⟨hrecord, forall_getElem?_singleton.2 (hfield.admits reads_text.option), rfl⟩,
      (slotOr_eq_ok reads_text.option rfl).2 hfield⟩

theorem reads_sqlConditionArgs : Reads decodeSqlConditionArgs IsSqlConditionArgs := by
  intro d args
  have hshape : sqlConditionShape.NamesOnce := ⟨by decide, by decide⟩
  simp only [decodeSqlConditionArgs, bind_eq_ok, slots_eq_ok hshape, pure_eq_ok]
  constructor
  · rintro ⟨_, ⟨hrecord, -, rfl⟩, _, hconditions, _, hdefault, rfl⟩
    exact ⟨hrecord, (slot_eq_ok reads_text.list rfl).1 hconditions,
      (slot_eq_ok reads_literal rfl).1 hdefault⟩
  · rintro ⟨hrecord, hconditions, hdefault⟩
    refine ⟨_, ⟨hrecord, ?_, rfl⟩, _, (slot_eq_ok reads_text.list rfl).2 hconditions, _,
      (slot_eq_ok reads_literal rfl).2 hdefault, rfl⟩
    exact forall_getElem?_cons.2 ⟨hconditions.admits reads_text.list,
      forall_getElem?_singleton.2 (hdefault.admits reads_literal)⟩

theorem reads_sqlQuery : Reads decodeSqlQuery IsSqlQuery := by
  intro d query
  cases d with
  | text s => simp [decodeSqlQuery, IsSqlQuery]
  | entries items =>
    rw [decodeSqlQuery]
    split
    next s hs => simp [IsSqlQuery, hs]
    next hs => simpa [IsSqlQuery] using hs query
  | _ => simp [decodeSqlQuery, IsSqlQuery]

end FocusBilling
