import FocusBilling.Proofs.Dependencies
import FocusBilling.Proofs.RuleFiles

/-!
# Orders in file names

The name of a file is taken for an order only as a whole: nothing may stand in front of the two
numbers, between them or behind them, and each of them has to fit.

* `Path.IsStem` : what is left of a name without its extension;
* `FileOrder.SpellsNumber` : a run of digits with its value, of any length, as long as the value
  fits 32 bits;
* `FileOrder.Spells` : the form of a stem that is an order;
* `FileOrder.ofPath?_eq_some_iff` : **a path gives an order if and only if its stem is one.**
-/

namespace FocusBilling

namespace Path

variable {name stem : List Char} {p : String}

/-- What is left of a name without its extension: all of it, if its only dot is at the start or it
has none, and what stands before its last dot otherwise. -/
def IsStem (name stem : List Char) : Prop :=
  (stem = name ∧ '.' ∉ name.tail) ∨
    ∃ extension, name = stem ++ '.' :: extension ∧ stem ≠ [] ∧ '.' ∉ extension

/-- A name as what stands up to its last dot and behind it. -/
theorem dropWhile_append_takeWhile_reverse (name : List Char) :
    (name.reverse.dropWhile (· ≠ '.')).reverse ++ (name.reverse.takeWhile (· ≠ '.')).reverse =
      name := by
  rw [← List.reverse_append, List.takeWhile_append_dropWhile, List.reverse_reverse]

theorem isStem_cut (name : List Char) : IsStem name (cut name).1 := by
  have hwhole := dropWhile_append_takeWhile_reverse name
  have hbehind : '.' ∉ (name.reverse.takeWhile (· ≠ '.')).reverse := by
    intro h
    simpa using List.mem_takeWhile_imp (List.mem_reverse.1 h)
  rw [cut]
  split
  next hnone =>
    -- the name has no dot at all
    rw [hnone, List.reverse_nil, List.nil_append] at hwhole
    rw [hwhole] at hbehind
    exact .inl ⟨rfl, fun h => hbehind (List.mem_of_mem_tail h)⟩
  next dot before hsome =>
    obtain rfl : dot = '.' := by
      have hhead := List.head?_dropWhile_not (· ≠ '.') name.reverse
      rw [hsome] at hhead
      simpa using hhead
    rw [hsome, List.reverse_cons, List.append_assoc, List.singleton_append] at hwhole
    split
    next hempty =>
      obtain rfl : before = [] := List.isEmpty_iff.1 hempty
      refine .inl ⟨rfl, ?_⟩
      rw [← hwhole]
      exact hbehind
    next hne =>
      exact .inr ⟨_, hwhole.symm, by simpa using hne, hbehind⟩

/-- A name has one stem. -/
theorem IsStem.unique {first second : List Char} (h : IsStem name first)
    (h' : IsStem name second) : first = second := by
  obtain ⟨rfl, hdot⟩ | ⟨extension, rfl, hne, hdot⟩ := h
  · obtain ⟨rfl, -⟩ | ⟨extension, rfl, hne, -⟩ := h'
    · rfl
    · cases second with
      | nil => exact absurd rfl hne
      | cons c second => simp at hdot
  · obtain ⟨rfl, hdot'⟩ | ⟨extension', heq, -, hdot'⟩ := h'
    · cases first with
      | nil => exact absurd rfl hne
      | cons c first => simp at hdot'
    · -- the last dot is at one place
      exact (append_cons_inj_of_not_mem hdot hdot' heq).1

theorem stem?_eq_some_iff :
    stem? p = some (String.ofList stem) ↔ ∃ name, fileName? p = some name ∧ IsStem name stem := by
  rw [stem?, Option.map_eq_some_iff]
  refine exists_congr fun name => and_congr_right fun _ => ?_
  rw [String.ofList_inj]
  exact ⟨fun h => h ▸ isStem_cut name, fun h => (isStem_cut name).unique h⟩

end Path

namespace FileOrder

open Text

variable {cs : List Char} {n : Nat} {o : FileOrder}

/-- A run of digits that spells a number which fits 32 bits, with any number of zeros in front. -/
structure SpellsNumber (cs : List Char) (n : Nat) : Prop where
  nonempty : cs ≠ []
  digits : ∀ c ∈ cs, '0' ≤ c ∧ c ≤ '9'
  value : Nat.ofDigitChars 10 cs 0 = n
  fits : n ≤ 4294967295

/-- A stem that is an order in full: the two numbers behind their letters, in either case. -/
def Spells (stem : List Char) (o : FileOrder) : Prop :=
  ∃ d ds s ss, stem = d :: (ds ++ '_' :: s :: ss) ∧ (d = 'D' ∨ d = 'd') ∧ (s = 'S' ∨ s = 's') ∧
    SpellsNumber ds o.dimension ∧ SpellsNumber ss o.step

theorem digitsValue_eq_ofDigitChars (h : ∀ c ∈ cs, isDigit c = true) :
    digitsValue 10 cs = Nat.ofDigitChars 10 cs 0 := by
  rw [digitsValue, Nat.ofDigitChars]
  refine List.foldl_ext _ _ _ fun n c hc => ?_
  rw [digitValue, if_pos (h c hc), Nat.mul_comm]
  rfl

theorem number?_eq_some_iff : number? cs = some n ↔ SpellsNumber cs n := by
  have hdigit : ∀ c : Char, isDigit c = true ↔ '0' ≤ c ∧ c ≤ '9' := by simp [isDigit]
  rw [number?]
  split
  next hbad =>
    refine ⟨nofun, fun h => ?_⟩
    have hall : cs.all isDigit = true := by simpa [hdigit] using h.digits
    simp [hall, h.nonempty] at hbad
  next hgood =>
    simp only [Bool.or_eq_true, List.isEmpty_iff, Bool.not_eq_true', not_or,
      Bool.not_eq_false, List.all_eq_true] at hgood
    obtain ⟨hne, hall⟩ := hgood
    rw [digitsValue_eq_ofDigitChars hall]
    dsimp only
    split
    next hfits =>
      constructor
      · rintro ⟨⟩
        exact ⟨hne, fun c hc => (hdigit c).1 (hall c hc), rfl, by omega⟩
      · intro h
        rw [h.value]
    next hover =>
      refine ⟨nofun, fun h => ?_⟩
      have hvalue := h.value
      have hfits := h.fits
      omega

theorem ofStem?_eq_some_iff : ofStem? cs = some o ↔ Spells cs o := by
  constructor
  · intro h
    rw [ofStem?.eq_def] at h
    split at h <;> [skip; cases h]
    split at h <;> [skip; cases h]
    next d rest hd =>
      split at h <;> [skip; cases h]
      next s digits hrest =>
        split at h <;> [skip; cases h]
        next hs =>
          simp only [Option.bind_eq_bind, Option.bind_eq_some_iff, Option.pure_def,
            Option.some.injEq] at h
          obtain ⟨dimension, hdimension, step, hstep, rfl⟩ := h
          refine ⟨d, rest.takeWhile isDigit, s, digits, ?_, hd, hs,
            number?_eq_some_iff.1 hdimension, number?_eq_some_iff.1 hstep⟩
          rw [← hrest, List.takeWhile_append_dropWhile]
  · rintro ⟨d, ds, s, ss, rfl, hd, hs, hdimension, hstep⟩
    have hdigits : ∀ c ∈ ds, isDigit c = true := by simpa [isDigit] using hdimension.digits
    have hend : isDigit '_' = false := by decide
    have htake : (ds ++ '_' :: s :: ss).takeWhile isDigit = ds := by
      rw [List.takeWhile_append_of_pos hdigits, List.takeWhile_cons_of_neg (by simp [hend]),
        List.append_nil]
    have hdrop : (ds ++ '_' :: s :: ss).dropWhile isDigit = '_' :: s :: ss := by
      rw [List.dropWhile_append_of_pos hdigits, List.dropWhile_cons_of_neg (by simp [hend])]
    simp only [ofStem?, hd, hdrop, hs, htake, if_true, number?_eq_some_iff.2 hdimension,
      number?_eq_some_iff.2 hstep]
    rfl

namespace Spells

theorem ne_nil (h : Spells cs o) : cs ≠ [] := by
  obtain ⟨d, ds, s, ss, rfl, -⟩ := h
  exact List.cons_ne_nil _ _

/-- A stem that is an order has no dot. -/
theorem dot_not_mem (h : Spells cs o) : '.' ∉ cs := by
  obtain ⟨d, ds, s, ss, rfl, hd, hs, hdimension, hstep⟩ := h
  have hdigits : ∀ {run : List Char} {n : Nat}, SpellsNumber run n → '.' ∉ run :=
    fun hrun hdot => absurd (hrun.digits '.' hdot) (by decide)
  have hletters : '.' ≠ d ∧ '.' ≠ s := by
    constructor
    · rcases hd with rfl | rfl <;> decide
    · rcases hs with rfl | rfl <;> decide
  simp [hletters, hdigits hdimension, hdigits hstep]

/-- The names of which an order is the stem: the order alone, or with one extension. -/
theorem isStem_iff {name : List Char} (h : Spells cs o) :
    Path.IsStem name cs ↔
      name = cs ∨ ∃ extension, name = cs ++ '.' :: extension ∧ '.' ∉ extension := by
  constructor
  · rintro (⟨rfl, -⟩ | ⟨extension, hname, -, hdot⟩)
    · exact .inl rfl
    · exact .inr ⟨extension, hname, hdot⟩
  · rintro (rfl | ⟨extension, hname, hdot⟩)
    · exact .inl ⟨rfl, fun hdot => h.dot_not_mem (List.mem_of_mem_tail hdot)⟩
    · exact .inr ⟨extension, hname, h.ne_nil, hdot⟩

end Spells

/-- **A path gives an order if and only if its stem is one**, in full and with both numbers in
range; every other path gives none.  So the last name of the path is the order, with at most one
extension behind it. -/
theorem ofPath?_eq_some_iff (p : String) (o : FileOrder) :
    (ofPath? p = some o ↔ ∃ stem, Path.stem? p = some stem ∧ Spells stem.toList o) ∧
      (ofPath? p = some o ↔ ∃ name stem, Path.fileName? p = some name ∧ Spells stem o ∧
        (name = stem ∨ ∃ extension, name = stem ++ '.' :: extension ∧ '.' ∉ extension)) := by
  have hstem : ofPath? p = some o ↔ ∃ stem, Path.stem? p = some stem ∧ Spells stem.toList o := by
    rw [ofPath?, Option.bind_eq_some_iff]
    simp only [ofStem?_eq_some_iff]
  refine ⟨hstem, hstem.trans ⟨?_, ?_⟩⟩
  · rintro ⟨stem, hp, hspells⟩
    rw [← String.ofList_toList (s := stem), Path.stem?_eq_some_iff] at hp
    obtain ⟨name, hname, hcut⟩ := hp
    exact ⟨name, stem.toList, hname, hspells, hspells.isStem_iff.1 hcut⟩
  · rintro ⟨name, stem, hname, hspells, hcut⟩
    refine ⟨String.ofList stem, Path.stem?_eq_some_iff.2 ⟨name, hname, ?_⟩, ?_⟩
    · exact hspells.isStem_iff.2 hcut
    · rwa [String.toList_ofList]

/-- Zeros in front do not count, and a number that is too large spoils the whole order. -/
example :
    ofPath? "aws/d00000000007_S4294967295.yaml" = some ⟨7, 4294967295⟩ ∧
      ofPath? "aws/d00000000007_S4294967296.yaml" = none := by
  decide +kernel

end FileOrder

end FocusBilling
