import FocusBilling.Proofs.Assignments

/-!
# Two parts and the whole

Steps that run on two tables and on the rows of both one below the other.

* `Lifted` : three results that fail together or are related;
* `Joined` : cells that are at hand if those of both parts are, and are these one behind the other;
* `Table.Joined` : a table of the rows of two others;
* `Scalar.joined_eval` : an expression over the parts and over the whole;
* `Working.joined_assignAll` : **steps that fill columns make of the whole what they make of the
  parts.**
-/

namespace FocusBilling

variable {ε α β γ : Type}

/-! ### Three results -/

/-- Three results that are all errors, or are all there and stand in a relation. -/
inductive Lifted (R : α → α → α → Prop) : Except ε α → Except ε α → Except ε α → Prop
  | error (e₁ e₂ e) : Lifted R (.error e₁) (.error e₂) (.error e)
  | ok {a₁ a₂ a} : R a₁ a₂ a → Lifted R (.ok a₁) (.ok a₂) (.ok a)

/-- Three lists of one length, related item by item. -/
inductive Each (R : α → α → α → Prop) : List α → List α → List α → Prop
  | nil : Each R [] [] []
  | cons {a₁ a₂ a as₁ as₂ as} : R a₁ a₂ a → Each R as₁ as₂ as →
      Each R (a₁ :: as₁) (a₂ :: as₂) (a :: as)

namespace Each

variable {R : α → α → α → Prop} {S : β → β → β → Prop} {as₁ as₂ as : List α}

theorem imp {Q : α → α → α → Prop} (h : Each R as₁ as₂ as)
    (hRQ : ∀ a₁ a₂ a, R a₁ a₂ a → Q a₁ a₂ a) : Each Q as₁ as₂ as := by
  induction h with
  | nil => exact .nil
  | cons ha _ ih => exact .cons (hRQ _ _ _ ha) ih

theorem map {f₁ f₂ f : α → β} (h : Each R as₁ as₂ as)
    (hf : ∀ a₁ a₂ a, R a₁ a₂ a → S (f₁ a₁) (f₂ a₂) (f a)) :
    Each S (as₁.map f₁) (as₂.map f₂) (as.map f) := by
  induction h with
  | nil => exact .nil
  | cons ha _ ih => exact .cons (hf _ _ _ ha) ih

/-- What is the same of all three items is the same of the lists. -/
theorem map_eq {f : α → β} (h : Each R as₁ as₂ as)
    (hf : ∀ a₁ a₂ a, R a₁ a₂ a → f a₁ = f a ∧ f a₂ = f a) :
    as₁.map f = as.map f ∧ as₂.map f = as.map f := by
  induction h with
  | nil => exact ⟨rfl, rfl⟩
  | cons ha _ ih =>
    obtain ⟨h₁, h₂⟩ := hf _ _ _ ha
    simp only [List.map_cons, h₁, h₂, ih.1, ih.2, and_self]

end Each

namespace Lifted

variable {R : α → α → α → Prop} {S : β → β → β → Prop} {x₁ x₂ x : Except ε α}

theorem bind {f₁ f₂ f : α → Except ε β} (h : Lifted R x₁ x₂ x)
    (hf : ∀ a₁ a₂ a, R a₁ a₂ a → Lifted S (f₁ a₁) (f₂ a₂) (f a)) :
    Lifted S (x₁ >>= f₁) (x₂ >>= f₂) (x >>= f) := by
  cases h with
  | error e₁ e₂ e => exact .error e₁ e₂ e
  | ok ha => exact hf _ _ _ ha

/-- A step that does the same in all three runs. -/
theorem bind_same {y : Except ε α} {f₁ f₂ f : α → Except ε β}
    (hf : ∀ a, y = .ok a → Lifted S (f₁ a) (f₂ a) (f a)) :
    Lifted S (y >>= f₁) (y >>= f₂) (y >>= f) := by
  cases y with
  | error e => exact .error e e e
  | ok a => exact hf a rfl

theorem mapM_same {as : List α} {f₁ f₂ f : α → Except ε β}
    (hf : ∀ a ∈ as, Lifted S (f₁ a) (f₂ a) (f a)) :
    Lifted (Each S) (as.mapM f₁) (as.mapM f₂) (as.mapM f) := by
  induction as with
  | nil => exact .ok .nil
  | cons a as ih =>
    simp only [List.mapM_cons]
    refine (hf a List.mem_cons_self).bind fun _ _ _ hb => ?_
    exact (ih fun a ha => hf a (List.mem_cons_of_mem _ ha)).bind fun _ _ _ hbs => .ok (.cons hb hbs)

theorem mapError {δ : Type} (h : Lifted R x₁ x₂ x) (f : ε → δ) :
    Lifted R (x₁.mapError f) (x₂.mapError f) (x.mapError f) := by
  cases h with
  | error => exact .error _ _ _
  | ok ha => exact .ok ha

theorem of_ne_ok (hx₁ : ∀ a, x₁ ≠ .ok a) (hx₂ : ∀ a, x₂ ≠ .ok a) (hx : ∀ a, x ≠ .ok a) :
    Lifted R x₁ x₂ x := by
  cases x₁ with
  | ok a => exact absurd rfl (hx₁ a)
  | error e₁ =>
    cases x₂ with
    | ok a => exact absurd rfl (hx₂ a)
    | error e₂ =>
      cases x with
      | ok a => exact absurd rfl (hx a)
      | error e => exact .error e₁ e₂ e

/-- The results are related with what the whole is. -/
theorem found (h : Lifted R x₁ x₂ x) :
    Lifted (fun a₁ a₂ a => x = .ok a ∧ R a₁ a₂ a) x₁ x₂ x := by
  cases h with
  | error => exact .error _ _ _
  | ok ha => exact .ok ⟨rfl, ha⟩

end Lifted

/-- Three results of which the whole is there if and only if both parts are; then they stand in a
relation. -/
structure Both (R : α → α → α → Prop) (x₁ x₂ x : Except ε α) : Prop where
  split : ∀ a, x = .ok a → ∃ a₁ a₂, x₁ = .ok a₁ ∧ x₂ = .ok a₂ ∧ R a₁ a₂ a
  join : ∀ a₁ a₂, x₁ = .ok a₁ → x₂ = .ok a₂ → ∃ a, x = .ok a ∧ R a₁ a₂ a

namespace Both

variable {R : α → α → α → Prop} {S : β → β → β → Prop} {x₁ x₂ x : Except ε α}

theorem ok {a₁ a₂ a : α} (h : R a₁ a₂ a) : Both R (.ok a₁ : Except ε α) (.ok a₂) (.ok a) := by
  constructor
  · rintro _ ⟨⟩
    exact ⟨a₁, a₂, rfl, rfl, h⟩
  · rintro _ _ ⟨⟩ ⟨⟩
    exact ⟨a, rfl, h⟩

theorem error (e₁ e₂ e : ε) : Both R (.error e₁) (.error e₂) (.error e) := ⟨nofun, nofun⟩

theorem bind {f₁ f₂ f : α → Except ε β} (h : Both R x₁ x₂ x)
    (hf : ∀ a₁ a₂ a, R a₁ a₂ a → Both S (f₁ a₁) (f₂ a₂) (f a)) :
    Both S (x₁ >>= f₁) (x₂ >>= f₂) (x >>= f) := by
  constructor
  · intro b hb
    obtain ⟨a, ha, hb⟩ := bind_eq_ok.1 hb
    obtain ⟨a₁, a₂, ha₁, ha₂, hr⟩ := h.split a ha
    obtain ⟨b₁, b₂, hb₁, hb₂, hs⟩ := (hf a₁ a₂ a hr).split b hb
    exact ⟨b₁, b₂, bind_eq_ok.2 ⟨a₁, ha₁, hb₁⟩, bind_eq_ok.2 ⟨a₂, ha₂, hb₂⟩, hs⟩
  · intro b₁ b₂ hb₁ hb₂
    obtain ⟨a₁, ha₁, hb₁⟩ := bind_eq_ok.1 hb₁
    obtain ⟨a₂, ha₂, hb₂⟩ := bind_eq_ok.1 hb₂
    obtain ⟨a, ha, hr⟩ := h.join a₁ a₂ ha₁ ha₂
    obtain ⟨b, hb, hs⟩ := (hf a₁ a₂ a hr).join b₁ b₂ hb₁ hb₂
    exact ⟨b, bind_eq_ok.2 ⟨a, ha, hb⟩, hs⟩

theorem imp {Q : α → α → α → Prop} (h : Both R x₁ x₂ x)
    (hRQ : ∀ a₁ a₂ a, R a₁ a₂ a → Q a₁ a₂ a) : Both Q x₁ x₂ x where
  split a ha := by
    obtain ⟨a₁, a₂, ha₁, ha₂, hr⟩ := h.split a ha
    exact ⟨a₁, a₂, ha₁, ha₂, hRQ _ _ _ hr⟩
  join a₁ a₂ ha₁ ha₂ := by
    obtain ⟨a, ha, hr⟩ := h.join a₁ a₂ ha₁ ha₂
    exact ⟨a, ha, hRQ _ _ _ hr⟩

/-- The results are related with what the whole and the parts are. -/
theorem found (h : Both R x₁ x₂ x) :
    Both (fun a₁ a₂ a => (x₁ = .ok a₁ ∧ x₂ = .ok a₂ ∧ x = .ok a) ∧ R a₁ a₂ a) x₁ x₂ x where
  split a ha := by
    obtain ⟨a₁, a₂, ha₁, ha₂, hr⟩ := h.split a ha
    exact ⟨a₁, a₂, ha₁, ha₂, ⟨ha₁, ha₂, ha⟩, hr⟩
  join a₁ a₂ ha₁ ha₂ := by
    obtain ⟨a, ha, hr⟩ := h.join a₁ a₂ ha₁ ha₂
    exact ⟨a, ha, ⟨ha₁, ha₂, ha⟩, hr⟩

theorem mapError {δ : Type} (h : Both R x₁ x₂ x) (f : ε → δ) :
    Both R (x₁.mapError f) (x₂.mapError f) (x.mapError f) where
  split a ha := by
    simp only [mapError_eq_ok] at ha ⊢
    exact h.split a ha
  join a₁ a₂ ha₁ ha₂ := by
    simp only [mapError_eq_ok] at ha₁ ha₂ ⊢
    exact h.join a₁ a₂ ha₁ ha₂

/-- The whole is there if and only if both parts are. -/
theorem exists_iff (h : Both R x₁ x₂ x) :
    (∃ a, x = .ok a) ↔ (∃ a, x₁ = .ok a) ∧ ∃ a, x₂ = .ok a := by
  constructor
  · rintro ⟨a, ha⟩
    obtain ⟨a₁, a₂, ha₁, ha₂, _⟩ := h.split a ha
    exact ⟨⟨a₁, ha₁⟩, a₂, ha₂⟩
  · rintro ⟨⟨a₁, ha₁⟩, a₂, ha₂⟩
    obtain ⟨a, ha, _⟩ := h.join a₁ a₂ ha₁ ha₂
    exact ⟨a, ha⟩

theorem related {a₁ a₂ a : α} (h : Both R x₁ x₂ x) (ha₁ : x₁ = .ok a₁) (ha₂ : x₂ = .ok a₂)
    (ha : x = .ok a) : R a₁ a₂ a := by
  obtain ⟨b, hb, hr⟩ := h.join a₁ a₂ ha₁ ha₂
  cases ha.symm.trans hb
  exact hr

/-- A step that does the same in all three runs. -/
theorem bind_same {y : Except ε α} {f₁ f₂ f : α → Except ε β}
    (hf : ∀ a, y = .ok a → Both S (f₁ a) (f₂ a) (f a)) :
    Both S (y >>= f₁) (y >>= f₂) (y >>= f) := by
  cases y with
  | error e => exact .error e e e
  | ok a => exact hf a rfl

theorem mapM {as₁ as₂ as : List α} {f₁ f₂ f : α → Except ε β} (h : Each R as₁ as₂ as)
    (hf : ∀ a₁ a₂ a, R a₁ a₂ a → Both S (f₁ a₁) (f₂ a₂) (f a)) :
    Both (Each S) (as₁.mapM f₁) (as₂.mapM f₂) (as.mapM f) := by
  induction h with
  | nil => exact .ok .nil
  | cons ha _ ih =>
    simp only [List.mapM_cons]
    exact (hf _ _ _ ha).bind fun _ _ _ hb => ih.bind fun _ _ _ hbs => .ok (.cons hb hbs)

end Both

theorem Lifted.both {R : α → α → α → Prop} {S : β → β → β → Prop} {x₁ x₂ x : Except ε α}
    {f₁ f₂ f : α → Except ε β} (h : Lifted R x₁ x₂ x)
    (hf : ∀ a₁ a₂ a, R a₁ a₂ a → Both S (f₁ a₁) (f₂ a₂) (f a)) :
    Both S (x₁ >>= f₁) (x₂ >>= f₂) (x >>= f) := by
  cases h with
  | error e₁ e₂ e => exact .error e₁ e₂ e
  | ok ha => exact hf _ _ _ ha

/-! ### Cells -/

theorem length_of_mapM {f : α → Except ε β} {as : List α} {bs : List β} (h : as.mapM f = .ok bs) :
    bs.length = as.length :=
  (mapM_eq_ok.1 h).length_eq.symm

/-- Cells that are those of two parts, one behind the other; the parts are as long as they should
be. -/
structure Appended (h₁ h₂ : Nat) (c₁ c₂ c : List α) : Prop where
  first : c₁.length = h₁
  second : c₂.length = h₂
  whole : c = c₁ ++ c₂

namespace Appended

variable {h₁ h₂ : Nat} {c₁ c₂ c : List α}

theorem replicate (h₁ h₂ : Nat) (a : α) :
    Appended h₁ h₂ (.replicate h₁ a) (.replicate h₂ a) (.replicate (h₁ + h₂) a) :=
  ⟨List.length_replicate, List.length_replicate, List.replicate_add ..⟩

theorem map (h : Appended h₁ h₂ c₁ c₂ c) (f : α → β) :
    Appended h₁ h₂ (c₁.map f) (c₂.map f) (c.map f) :=
  ⟨by rw [List.length_map, h.first], by rw [List.length_map, h.second],
    by rw [h.whole, List.map_append]⟩

/-- A function of each cell, which may fail; of a part without cells it may be another one. -/
theorem mapM (h : Appended h₁ h₂ c₁ c₂ c) {f₁ f₂ f : α → Except ε β} (hf₁ : h₁ ≠ 0 → f₁ = f)
    (hf₂ : h₂ ≠ 0 → f₂ = f) : Both (Appended h₁ h₂) (c₁.mapM f₁) (c₂.mapM f₂) (c.mapM f) := by
  obtain ⟨rfl, rfl, rfl⟩ := h
  have hfirst : c₁.mapM f₁ = c₁.mapM f := by
    cases c₁ with
    | nil => rfl
    | cons a c₁ => rw [hf₁ (by simp)]
  have hsecond : c₂.mapM f₂ = c₂.mapM f := by
    cases c₂ with
    | nil => rfl
    | cons a c₂ => rw [hf₂ (by simp)]
  rw [hfirst, hsecond, List.mapM_append]
  constructor
  · intro d hd
    simp only [bind_eq_ok, pure_eq_ok] at hd
    obtain ⟨d₁, hd₁, d₂, hd₂, rfl⟩ := hd
    exact ⟨d₁, d₂, hd₁, hd₂, length_of_mapM hd₁, length_of_mapM hd₂, rfl⟩
  · intro d₁ d₂ hd₁ hd₂
    rw [hd₁, hd₂]
    exact ⟨_, rfl, length_of_mapM hd₁, length_of_mapM hd₂, rfl⟩

/-- A function of the cells of two columns; of a part without cells it may be another one. -/
theorem zipWith {d₁ d₂ d : List β} {f₁ f₂ f : α → β → γ} (hc : Appended h₁ h₂ c₁ c₂ c)
    (hd : Appended h₁ h₂ d₁ d₂ d) (hf₁ : h₁ ≠ 0 → f₁ = f) (hf₂ : h₂ ≠ 0 → f₂ = f) :
    Appended h₁ h₂ (List.zipWith f₁ c₁ d₁) (List.zipWith f₂ c₂ d₂) (List.zipWith f c d) := by
  refine ⟨?_, ?_, ?_⟩
  · rw [List.length_zipWith, hc.first, hd.first, Nat.min_self]
  · rw [List.length_zipWith, hc.second, hd.second, Nat.min_self]
  · rw [hc.whole, hd.whole, List.zipWith_append (hc.first.trans hd.first.symm)]
    congr 1
    · by_cases h : h₁ = 0
      · rw [List.length_eq_zero_iff.1 (hc.first.trans h)]
        rfl
      · rw [hf₁ h]
    · by_cases h : h₂ = 0
      · rw [List.length_eq_zero_iff.1 (hc.second.trans h)]
        rfl
      · rw [hf₂ h]

/-- Where one part is empty, the other one is the whole, and any step will do that makes nothing of
nothing. -/
theorem both_of_empty {f : List α → Except ε (List β)} (h : Appended h₁ h₂ c₁ c₂ c)
    (hnil : f [] = .ok []) (hlen : ∀ c d, f c = .ok d → d.length = c.length)
    (hempty : h₁ = 0 ∨ h₂ = 0) : Both (Appended h₁ h₂) (f c₁) (f c₂) (f c) := by
  obtain ⟨rfl, rfl, rfl⟩ := h
  rcases hempty with hempty | hempty
  · obtain rfl := List.length_eq_zero_iff.1 hempty
    rw [hnil, List.nil_append]
    exact ⟨fun d hd => ⟨[], d, rfl, hd, rfl, hlen _ _ hd, rfl⟩, by
      rintro _ d ⟨⟩ hd
      exact ⟨d, hd, rfl, hlen _ _ hd, rfl⟩⟩
  · obtain rfl := List.length_eq_zero_iff.1 hempty
    rw [hnil, List.append_nil]
    exact ⟨fun d hd => ⟨d, [], hd, rfl, hlen _ _ hd, rfl, (List.append_nil d).symm⟩, by
      rintro d _ hd ⟨⟩
      exact ⟨d, hd, hlen _ _ hd, rfl, (List.append_nil d).symm⟩⟩

end Appended

/-! ### Rows -/

namespace Scalar

@[simp] theorem length_rowsOf (n : Nat) (columns : List (List Cell)) :
    (rowsOf n columns).length = n := by
  induction n generalizing columns with
  | zero => rfl
  | succ n ih => rw [rowsOf, List.length_cons, ih]

/-- The rows of columns that stand below others. -/
theorem appended_rowsOf {h₁ h₂ : Nat} {cs₁ cs₂ cs : List (List Cell)}
    (h : Each (Appended h₁ h₂) cs₁ cs₂ cs) :
    Appended h₁ h₂ (rowsOf h₁ cs₁) (rowsOf h₂ cs₂) (rowsOf (h₁ + h₂) cs) := by
  refine ⟨length_rowsOf .., length_rowsOf .., ?_⟩
  replace h := h.imp fun c₁ c₂ c hc => (⟨hc.first, hc.whole⟩ : c₁.length = h₁ ∧ c = c₁ ++ c₂)
  induction h₁ generalizing cs₁ cs with
  | zero =>
    have hcs : cs = cs₂ := by
      induction h with
      | nil => rfl
      | cons hc _ ih =>
        obtain ⟨hlen, rfl⟩ := hc
        rw [List.length_eq_zero_iff.1 hlen, List.nil_append, ih]
    rw [hcs, Nat.zero_add]
    rfl
  | succ n ih =>
    -- the first row is that of the first part
    obtain ⟨hheads, htails⟩ : cs.map (·.headD .null) = cs₁.map (·.headD .null) ∧
        Each (fun c₁ c₂ c => c₁.length = n ∧ c = c₁ ++ c₂) (cs₁.map List.tail) cs₂
          (cs.map List.tail) := by
      clear ih
      induction h with
      | nil => exact ⟨rfl, .nil⟩
      | cons hc _ ih =>
        obtain ⟨hlen, rfl⟩ := hc
        obtain ⟨a, c, rfl⟩ := List.exists_cons_of_length_eq_add_one hlen
        exact ⟨by rw [List.map_cons, List.map_cons, ih.1]; rfl,
          .cons ⟨Nat.succ.inj hlen, rfl⟩ ih.2⟩
    rw [Nat.add_right_comm, rowsOf, rowsOf, hheads, ih htails]
    rfl

end Scalar

/-! ### Tables -/

/-- A column whose cells are those of two others of its type. -/
inductive Deferred.Joined (h₁ h₂ : Nat) : Deferred → Deferred → Deferred → Prop
  | mk {t x₁ x₂ x} : Both (Appended h₁ h₂) x₁ x₂ x → Deferred.Joined h₁ h₂ ⟨t, x₁⟩ ⟨t, x₂⟩ ⟨t, x⟩

theorem Deferred.Joined.dtype_eq {h₁ h₂ : Nat} {d₁ d₂ d : Deferred} (h : d₁.Joined h₁ h₂ d₂ d) :
    d₁.dtype = d.dtype ∧ d₂.dtype = d.dtype := by
  cases h
  exact ⟨rfl, rfl⟩

/-- Columns of one name. -/
inductive NamedJoined (h₁ h₂ : Nat) :
    String × Deferred → String × Deferred → String × Deferred → Prop
  | mk {n d₁ d₂ d} : Deferred.Joined h₁ h₂ d₁ d₂ d → NamedJoined h₁ h₂ (n, d₁) (n, d₂) (n, d)

namespace Table

/-- The columns and their types. -/
def schema (t : Table) : List (String × DType) := t.columns.map fun c => (c.1, c.2.dtype)

theorem names_eq_of_schema {t u : Table} (h : t.schema = u.schema) : t.names = u.names := by
  have hnames : ∀ t : Table, t.names = t.schema.map (·.1) := fun t => by
    simp [names, schema]
  rw [hnames, hnames, h]

/-- A table of the rows of two others, one below the other. -/
structure Stacked (h₁ h₂ : Nat) (t₁ t₂ t : Table) : Prop where
  height₁ : t₁.height = h₁
  height₂ : t₂.height = h₂
  height : t.height = h₁ + h₂
  columns : Each (NamedJoined h₁ h₂) t₁.columns t₂.columns t.columns

/-- A table of the rows of two others, all of which have columns. -/
structure Joined (h₁ h₂ : Nat) (t₁ t₂ t : Table) : Prop extends Stacked h₁ h₂ t₁ t₂ t where
  nonempty : t.columns ≠ []

namespace Stacked

variable {h₁ h₂ : Nat} {t₁ t₂ t : Table}

theorem schema_eq (h : Stacked h₁ h₂ t₁ t₂ t) : t₁.schema = t.schema ∧ t₂.schema = t.schema := by
  refine h.columns.map_eq fun _ _ _ hc => ?_
  obtain ⟨hd⟩ := hc
  simp [hd.dtype_eq]

theorem names_eq (h : Stacked h₁ h₂ t₁ t₂ t) : t₁.names = t.names ∧ t₂.names = t.names :=
  ⟨names_eq_of_schema h.schema_eq.1, names_eq_of_schema h.schema_eq.2⟩

end Stacked

namespace Joined

variable {h₁ h₂ : Nat} {t₁ t₂ t : Table} {n : String}

theorem columns_ne_nil (h : Joined h₁ h₂ t₁ t₂ t) : t₁.columns ≠ [] ∧ t₂.columns ≠ [] := by
  have ht := h.nonempty
  have hcolumns := h.columns
  generalize t₁.columns = cs₁, t₂.columns = cs₂, t.columns = cs at ht hcolumns
  cases hcolumns with
  | nil => exact absurd rfl ht
  | cons => exact ⟨List.cons_ne_nil _ _, List.cons_ne_nil _ _⟩

theorem get (h : Joined h₁ h₂ t₁ t₂ t) (n : String) :
    Lifted (Deferred.Joined h₁ h₂) (t₁.get n) (t₂.get n) (t.get n) := by
  have hcolumns := h.columns
  unfold Table.get Table.find?
  generalize t₁.columns = cs₁, t₂.columns = cs₂, t.columns = cs at hcolumns
  induction hcolumns with
  | nil => exact .error _ _ _
  | cons hc _ ih =>
    obtain ⟨hd⟩ := hc
    simp only [List.lookup_cons]
    rename_i m _ _ _
    cases n == m with
    | true => exact .ok hd
    | false => exact ih

theorem putIn {cs₁ cs₂ cs : List (String × Deferred)} {d₁ d₂ d : Deferred}
    (h : Each (NamedJoined h₁ h₂) cs₁ cs₂ cs) (hd : Deferred.Joined h₁ h₂ d₁ d₂ d) :
    Each (NamedJoined h₁ h₂) (Table.putIn n d₁ cs₁) (Table.putIn n d₂ cs₂)
      (Table.putIn n d cs) := by
  induction h with
  | nil => exact .cons (.mk hd) .nil
  | cons hc hcs ih =>
    obtain ⟨he⟩ := hc
    simp only [Table.putIn]
    split
    · exact .cons (.mk hd) hcs
    · exact .cons (.mk he) ih

theorem putEach {cs₁ cs₂ cs filled₁ filled₂ filled : List (String × Deferred)}
    (h : Each (NamedJoined h₁ h₂) cs₁ cs₂ cs)
    (hfilled : Each (NamedJoined h₁ h₂) filled₁ filled₂ filled) :
    Each (NamedJoined h₁ h₂) (Table.putEach cs₁ filled₁) (Table.putEach cs₂ filled₂)
      (Table.putEach cs filled) := by
  induction hfilled generalizing cs₁ cs₂ cs with
  | nil => exact h
  | cons hc _ ih =>
    obtain ⟨hd⟩ := hc
    exact ih (putIn h hd)

end Joined

end Table

/-! ### Expressions -/

namespace Scalar

mutual

/-- Whether an expression infers the layout of datetimes. -/
def infers : Scalar → Bool
  | column _ | constant .. => false
  | apply _ args => infersAny args
  | inferred .. => true

/-- Whether one of some expressions infers the layout of datetimes. -/
def infersAny : List Scalar → Bool
  | [] => false
  | a :: as => infers a || infersAny as

end

variable {h₁ h₂ : Nat} {t₁ t₂ t : Table}

theorem joined_applyCells {ds₁ ds₂ ds : List Deferred} (op : Operation)
    (h : Each (Deferred.Joined h₁ h₂) ds₁ ds₂ ds) :
    Both (Appended h₁ h₂) (applyCells h₁ op ds₁) (applyCells h₂ op ds₂)
      (applyCells (h₁ + h₂) op ds) := by
  obtain ⟨htypes₁, htypes₂⟩ := h.map_eq fun _ _ _ hd => hd.dtype_eq
  simp only [applyCells, htypes₁, htypes₂]
  refine .bind_same fun _ _ => ?_
  have hcolumns : Both (Each (Appended h₁ h₂)) (ds₁.mapM (·.cells)) (ds₂.mapM (·.cells))
      (ds.mapM (·.cells)) := .mapM h fun _ _ _ hd => by
    obtain ⟨hx⟩ := hd
    exact hx
  exact hcolumns.bind fun _ _ _ hc => (appended_rowsOf hc).mapM (fun _ => rfl) fun _ => rfl

theorem length_moments (l : Layouts) (latest : String) (texts : List (Option String)) :
    (l.moments latest texts).length = texts.length := by
  induction texts generalizing latest with
  | nil => rfl
  | cons text texts ih =>
    cases text with
    | none => simp [Layouts.moments, ih]
    | some s =>
      rw [Layouts.moments]
      split <;> simp [ih]

theorem length_readAll {p : InferredDatetime} {texts : List (Option String)}
    {times : List (Option Int)} (h : p.readAll texts = .ok times) :
    times.length = texts.length := by
  rw [InferredDatetime.readAll] at h
  split at h
  · cases h
    rw [List.length_map]
  · split at h
    · cases h
    · split at h
      · cases h
      · rw [length_of_mapM h, List.length_zip, length_moments, Nat.min_self]

/-- Layouts are inferred for all rows at once. -/
theorem joined_inferCells {d₁ d₂ d : Deferred} (p : InferredDatetime)
    (h : Deferred.Joined h₁ h₂ d₁ d₂ d) (hempty : h₁ = 0 ∨ h₂ = 0) :
    Both (Appended h₁ h₂) (inferCells p d₁) (inferCells p d₂) (inferCells p d) := by
  obtain ⟨hx⟩ := h
  rename_i t x₁ x₂ x
  cases t with
  | text =>
    refine hx.bind fun c₁ c₂ c hc => ?_
    refine hc.both_of_empty (f := fun cells => do
      pure ((← p.readAll (cells.map textOf?)).map Operation.instantCell)) rfl ?_ hempty
    intro cells found hfound
    simp only [bind_eq_ok, pure_eq_ok] at hfound
    obtain ⟨times, htimes, rfl⟩ := hfound
    rw [List.length_map, length_readAll htimes, List.length_map]
  | _ => exact .error _ _ _

mutual

/-- **An expression over the parts and over the whole.** -/
theorem joined_eval (h : Table.Joined h₁ h₂ t₁ t₂ t) :
    (e : Scalar) → (e.infers → h₁ = 0 ∨ h₂ = 0) →
      Lifted (Deferred.Joined h₁ h₂) (e.eval t₁ h₁) (e.eval t₂ h₂) (e.eval t (h₁ + h₂))
  | column name, _ => h.get name
  | constant value _, _ => .ok (.mk (.ok (.replicate h₁ h₂ value)))
  | apply op args, hinfers => by
    refine (joined_evalAll h args hinfers).bind fun ds₁ ds₂ ds hds => ?_
    obtain ⟨htypes₁, htypes₂⟩ := hds.map_eq fun _ _ _ hd => hd.dtype_eq
    rw [htypes₁, htypes₂]
    exact .bind_same fun _ _ => .ok (.mk (joined_applyCells op hds))
  | inferred p arg, hinfers => by
    have hempty := hinfers rfl
    exact (joined_eval h arg fun _ => hempty).bind fun _ _ _ hd =>
      .ok (.mk (joined_inferCells p hd hempty))

/-- Expressions over the parts and over the whole. -/
theorem joined_evalAll (h : Table.Joined h₁ h₂ t₁ t₂ t) :
    (es : List Scalar) → (infersAny es → h₁ = 0 ∨ h₂ = 0) →
      Lifted (Each (Deferred.Joined h₁ h₂)) (evalAll t₁ h₁ es) (evalAll t₂ h₂ es)
        (evalAll t (h₁ + h₂) es)
  | [], _ => .ok .nil
  | e :: es, hinfers => by
    have hfirst := joined_eval h e fun he => hinfers (by simp [infersAny, he])
    have hrest := joined_evalAll h es fun he => hinfers (by simp [infersAny, he])
    exact hfirst.bind fun _ _ _ hd => hrest.bind fun _ _ _ hds => .ok (.cons hd hds)

end

mutual

theorem infers_reading (old new : String) : (e : Scalar) → (e.reading old new).infers = e.infers
  | column _ | constant .. | inferred .. => rfl
  | apply _ args => by
    rw [reading, infers, infers, infersAny_readingAll old new args]

theorem infersAny_readingAll (old new : String) :
    (es : List Scalar) → infersAny (readingAll old new es) = infersAny es
  | [] => rfl
  | e :: es => by
    rw [readingAll, infersAny, infersAny, infers_reading old new e, infersAny_readingAll old new es]

end

/-- Expressions with a column in place of a pattern infer no more than one with the pattern. -/
theorem infers_of_expand {e : Scalar} {values : List Scalar} (h : e.expand t = .ok values)
    {v : Scalar} (hv : v ∈ values) : v.infers = e.infers := by
  rw [expand] at h
  split at h
  · cases h
    rw [List.mem_singleton.1 hv]
  · obtain ⟨names, _, rfl⟩ := map_eq_ok.1 h
    obtain ⟨n, _, rfl⟩ := List.mem_map.1 hv
    exact infers_reading _ _ e

end Scalar

/-! ### Steps that fill columns -/

namespace Table

variable {t u : Table}

theorem lookup_schema (n : String) : t.schema.lookup n = (t.find? n).map (·.dtype) := by
  rw [schema, find?]
  induction t.columns with
  | nil => rfl
  | cons c cs ih =>
    rw [List.map_cons, List.lookup_cons, List.lookup_cons, ih]
    cases n == c.1 <;> rfl

theorem matching_congr (h : t.schema = u.schema) : t.matching = u.matching := by
  funext n
  rw [matching, matching, names_eq_of_schema h]

end Table

namespace Assignment

variable {t u : Table}

theorem structFields_congr (h : t.schema = u.schema) : structFields t = structFields u := by
  funext n
  have hlookup := congrArg (List.lookup n) h
  rw [Table.lookup_schema, Table.lookup_schema] at hlookup
  simp only [structFields, Table.get]
  cases ht : t.find? n with
  | none =>
    rw [ht, Option.map_none, eq_comm, Option.map_eq_none_iff] at hlookup
    rw [hlookup]
  | some d =>
    rw [ht, Option.map_some, eq_comm, Option.map_eq_some_iff] at hlookup
    obtain ⟨e, he, hd⟩ := hlookup
    simp only [he, bind, Except.bind, hd]

/-- The columns that an assignment fills are a matter of the columns and types of a table. -/
theorem columns_congr (h : t.schema = u.schema) (a : Assignment) : a.columns t = a.columns u := by
  have hexpand : ∀ e : Scalar, e.expand t = e.expand u := fun e => by
    simp only [Scalar.expand, Table.matching_congr h]
  have hhas : t.hasColumn = u.hasColumn := by
    funext n
    rw [Table.hasColumn, Table.hasColumn, Table.names_eq_of_schema h]
  cases a <;>
    simp only [columns, hexpand, hhas, Table.matching_congr h, structFields_congr h]

/-- Whether an assignment infers the layout of datetimes. -/
def infers : Assignment → Bool
  | column _ value => value.infers
  | _ => false

theorem infers_of_mem_columns {a : Assignment} {named : List (String × Scalar)}
    (h : a.columns t = .ok named) {v : String × Scalar} (hv : v ∈ named) :
    v.2.infers → a.infers := by
  cases a with
  | column output value =>
    simp only [columns, bind_eq_ok, pure_eq_ok] at h
    obtain ⟨values, hvalues, rfl⟩ := h
    obtain ⟨w, hw, rfl⟩ := List.mem_map.1 hv
    rw [Scalar.infers_of_expand hvalues hw]
    exact id
  | field output source name =>
    simp only [columns, bind_eq_ok, pure_eq_ok] at h
    obtain ⟨sources, _, found, hfound, rfl⟩ := h
    obtain ⟨s, _, fields, hs, hv⟩ := (mem_flatten_of_mapM hfound).1 hv
    simp only [bind_eq_ok, pure_eq_ok] at hs
    obtain ⟨_, _, names, _, rfl⟩ := hs
    obtain ⟨_, _, rfl⟩ := List.mem_map.1 hv
    rintro ⟨⟩
  | expanded output source =>
    simp only [columns, bind_eq_ok, pure_eq_ok] at h
    obtain ⟨sources, _, found, hfound, rfl⟩ := h
    obtain ⟨s, _, fields, hs, hv⟩ := (mem_flatten_of_mapM hfound).1 hv
    simp only [bind_eq_ok, pure_eq_ok] at hs
    obtain ⟨_, _, rfl⟩ := hs
    obtain ⟨_, _, rfl⟩ := List.mem_map.1 hv
    rintro ⟨⟩
  | defaultIfMissing output source default =>
    rw [columns] at h
    split at h
    · simp only [bind_eq_ok, pure_eq_ok] at h
      obtain ⟨values, hvalues, rfl⟩ := h
      obtain ⟨w, hw, rfl⟩ := List.mem_map.1 hv
      rw [Scalar.infers_of_expand hvalues hw]
      exact id
    · cases h
      rw [List.mem_singleton.1 hv]
      rintro ⟨⟩

end Assignment

section Steps

variable {h₁ h₂ : Nat} {t₁ t₂ t : Table}

/-- Columns put over the parts and over the whole. -/
theorem Table.Joined.putAll {filled₁ filled₂ filled : List (String × Deferred)}
    (h : Table.Joined h₁ h₂ t₁ t₂ t) (hfilled : Each (NamedJoined h₁ h₂) filled₁ filled₂ filled) :
    Lifted (Table.Joined h₁ h₂) (t₁.putAll filled₁) (t₂.putAll filled₂) (t.putAll filled) := by
  have ht := h.nonempty
  obtain ⟨ht₁, ht₂⟩ := h.columns_ne_nil
  obtain ⟨hnames₁, hnames₂⟩ := hfilled.map_eq (f := (·.1)) fun _ _ _ hc => by
    obtain ⟨_⟩ := hc
    exact ⟨rfl, rfl⟩
  by_cases hnodup : (filled.map (·.1)).Nodup
  · rw [(Table.putAll_eq_ok ht₁).2 ⟨hnames₁ ▸ hnodup, rfl⟩,
      (Table.putAll_eq_ok ht₂).2 ⟨hnames₂ ▸ hnodup, rfl⟩, (Table.putAll_eq_ok ht).2 ⟨hnodup, rfl⟩]
    exact .ok ⟨⟨h.height₁, h.height₂, h.height, putEach h.columns hfilled⟩, putEach_ne_nil ht⟩
  · have hrepeated : ∃ n, Table.repeated? (filled.map (·.1)) = some n := by
      cases hn : Table.repeated? (filled.map (·.1)) with
      | none => exact absurd (Table.nodup_of_repeated? hn) hnodup
      | some n => exact ⟨n, rfl⟩
    obtain ⟨n, hn⟩ := hrepeated
    simp only [Table.putAll, hnames₁, hnames₂, hn]
    exact .error _ _ _

/-- **A step that fills columns makes of the whole what it makes of the parts.** -/
theorem Assignment.joined_run {a : Assignment} (h : Table.Joined h₁ h₂ t₁ t₂ t)
    (hinfers : a.infers → h₁ = 0 ∨ h₂ = 0) :
    Lifted (Table.Joined h₁ h₂) (a.run t₁) (a.run t₂) (a.run t) := by
  have ht := h.nonempty
  obtain ⟨ht₁, ht₂⟩ := h.columns_ne_nil
  have hrows : ∀ {t : Table}, t.columns ≠ [] → t.rows = t.height := fun ht => by
    simp [Table.rows, ht]
  simp only [run, columns_congr h.schema_eq.1, columns_congr h.schema_eq.2, hrows ht, hrows ht₁,
    hrows ht₂, h.height₁, h.height₂, h.height]
  refine .bind_same fun named hnamed => ?_
  refine Lifted.bind (R := Each (NamedJoined h₁ h₂)) (.mapM_same fun v hv => ?_)
    fun _ _ _ hc => h.putAll hc
  exact (Scalar.joined_eval h v.2 fun hi => hinfers (infers_of_mem_columns hnamed hv hi)).bind
    fun _ _ _ hd => .ok (.mk hd)

/-- The whole and its parts between two steps. -/
structure Working.Joined (h₁ h₂ : Nat) (w₁ w₂ w : Working) : Prop where
  table : Table.Joined h₁ h₂ w₁.table w₂.table w.table
  expanded₁ : w₁.expanded = w.expanded
  expanded₂ : w₂.expanded = w.expanded

namespace Working

variable {w₁ w₂ w : Working}

theorem joined_assign {a : Assignment} (h : Joined h₁ h₂ w₁ w₂ w)
    (hinfers : a.infers → h₁ = 0 ∨ h₂ = 0) :
    Lifted (Joined h₁ h₂) (w₁.assign a) (w₂.assign a) (w.assign a) := by
  have hrun := Assignment.joined_run h.table hinfers
  cases a <;>
    simp only [assign, Assignment.columns_congr h.table.schema_eq.1,
      Assignment.columns_congr h.table.schema_eq.2, h.expanded₁, h.expanded₂] <;>
    exact .bind_same fun _ _ => hrun.bind fun _ _ _ hu => .ok ⟨hu, rfl, rfl⟩

/-- **Steps that fill columns make of the whole what they make of the parts.** -/
theorem joined_foldlM_assign {steps : List Assignment} (h : Joined h₁ h₂ w₁ w₂ w)
    (hinfers : ∀ a ∈ steps, a.infers → h₁ = 0 ∨ h₂ = 0) :
    Lifted (Joined h₁ h₂) (steps.foldlM assign w₁) (steps.foldlM assign w₂)
      (steps.foldlM assign w) := by
  induction steps generalizing w₁ w₂ w with
  | nil => exact .ok h
  | cons a steps ih =>
    simp only [List.foldlM_cons]
    exact (joined_assign h (hinfers a List.mem_cons_self)).bind fun _ _ _ hw =>
      ih hw fun b hb => hinfers b (List.mem_cons_of_mem _ hb)

end Working

end Steps

end FocusBilling
