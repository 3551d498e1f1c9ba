import Mathlib.Data.String.Basic
import FocusBilling.Files.Pattern
import FocusBilling.Proofs.RuleFiles

/-!
# Where patterns lead

A pattern begins with a path as it is written.  If the path has no sign of a pattern, the pattern
goes on where the path leads.

* `Path.IsLiteral` : a path without signs;
* `Node.led_plain` : the parts of such a path lead where the path leads;
* `Node.namesLe_singleton` : names are in the order of their letters;
* `Node.filesLike?_flat` : **the Parquet files of a folder without folders are read in the order of
  their names.**
-/

namespace FocusBilling

open Files (Place PathStep Node Content)

/-! ### Paths without signs -/

namespace Text

theorem mem_of_mem_splitOn {sep c : Char} {cs piece : List Char} (hc : c ∈ piece)
    (h : piece ∈ splitOn sep cs) : c ∈ cs := by
  induction cs generalizing piece with
  | nil =>
    obtain rfl : piece = [] := by simpa [splitOn] using h
    cases hc
  | cons a cs ih =>
    rw [splitOn] at h
    split at h
    next hnil => exact absurd hnil (splitOn_ne_nil cs)
    next first pieces heq =>
      rw [heq] at ih
      split at h
      next =>
        rcases List.mem_cons.1 h with rfl | h
        · cases hc
        · exact List.mem_cons_of_mem _ (ih hc h)
      next =>
        rcases List.mem_cons.1 h with rfl | h
        · rcases List.mem_cons.1 hc with rfl | hc
          · exact List.mem_cons_self
          · exact List.mem_cons_of_mem _ (ih hc List.mem_cons_self)
        · exact List.mem_cons_of_mem _ (ih hc (List.mem_cons_of_mem _ h))

end Text

namespace Path

variable {p : String} {s : List Char}

/-- A path without signs of patterns. -/
def IsLiteral (p : String) : Prop := ∀ c ∈ p.toList, Place.isSign c = false

instance (p : String) : Decidable (IsLiteral p) :=
  decidable_of_iff (p.toList.all fun c => !Place.isSign c) (by simp [IsLiteral])

theorem eq_of_partOf_eq_name {first : Bool} {piece : List Char}
    (h : partOf first piece = some (.name s)) : piece = s := by
  rw [partOf] at h
  split at h
  · cases h
  · split at h
    · split at h <;> cases h
    · split at h
      · cases h
      · exact Part.name.inj (Option.some.inj h)

/-- The names in a path are made of its characters. -/
theorem mem_of_mem_name {c : Char} (hc : c ∈ s) (hs : .name s ∈ parts p) : c ∈ p.toList := by
  rw [parts_eq rfl rfl, List.mem_append] at hs
  rcases hs with hs | hs
  · split at hs <;> simp at hs
  · obtain ⟨⟨piece, i⟩, hpiece, hpart⟩ := List.mem_filterMap.1 hs
    obtain rfl := eq_of_partOf_eq_name hpart
    exact Text.mem_of_mem_splitOn hc (List.fst_mem_of_mem_zipIdx hpiece)

end Path

namespace Files

namespace PathStep

theorem ofPart?_of_isLiteral {p : String} (h : Path.IsLiteral p) {part : Path.Part}
    (hpart : part ∈ Path.parts p) : ofPart? part = some (.plain part) := by
  cases part with
  | name s =>
    have hs : s.any Place.isSign = false :=
      List.any_eq_false.2 fun c hc => by simpa using h c (Path.mem_of_mem_name hc hpart)
    simp [ofPart?, hs]
  | root | here | up => rfl

end PathStep

namespace Place

theorem fits_chars (s : List Char) : fits (s.map char) s = true := by
  induction s with
  | nil => rfl
  | cons c s ih => simpa [fits, accepts] using ih

/-- Any number of characters may stand in front of what fits. -/
theorem fits_run {places : List Place} {s : List Char} (h : fits places s = true)
    (before : List Char) : fits (run :: places) (before ++ s) = true := by
  rw [fits, List.any_eq_true]
  refine ⟨before.length, List.mem_range.2 ?_, ?_⟩
  · rw [List.length_append]
    omega
  · rwa [List.drop_left]

end Place

namespace Node

variable {root : Node} {dir names : List String} {path : String}

/-! ### The way to a folder -/

/-- The steps of parts that lead somewhere lead there, and go on behind. -/
theorem led_plain {parts : List Path.Part} (h : root.follow names parts = .ok dir)
    (hdir : root.standingAt? dir = some .folder) (steps : List PathStep) :
    root.led (parts.map .plain ++ steps) names = root.led steps dir := by
  induction parts generalizing names with
  | nil =>
    obtain rfl := Except.ok.inj h
    rfl
  | cons part parts ih =>
    rw [← List.singleton_append, follow_append, bind_eq_ok] at h
    obtain ⟨names', hpart, hrest⟩ := h
    -- the way goes on from there, or ends there in a folder
    have hthere : root.standingAt? names' ≠ none := by
      cases parts with
      | nil =>
        obtain rfl := Except.ok.inj hrest
        simp [hdir]
      | cons next parts =>
        cases next with
        | root => cases hrest
        | here | up | name =>
          obtain ⟨_, hneed, -⟩ := bind_eq_ok.1 hrest
          simp [needFolder_eq_ok.1 hneed]
    have hsome : (root.at? names').isSome = true := by
      rw [Option.isSome_iff_ne_none]
      exact fun hnone => hthere (by rw [standingAt?, hnone, Option.map_none])
    rw [List.map_cons, List.cons_append, led, hpart]
    simp only [hsome, if_true]
    exact ih hrest

/-! ### A folder without folders -/

/-- Names are in the order of their letters. -/
theorem namesLe_singleton {a b : String} : namesLe [a] [b] = true ↔ a.toList ≤ b.toList := by
  have hone : compare [a] [b] = compare a b := by
    change List.compareLex compare [a] [b] = _
    rw [List.compareLex_cons_cons, List.compareLex]
    exact Ordering.then_eq
  rw [namesLe, hone, ← String.le_iff_toList_le]
  exact Ordering.isLE_iff_ne_gt.trans compare_le_iff_le

/-- Entries of a folder that are all files. -/
def fileEntries (files : List (String × Content)) : List (String × Node) :=
  files.map fun f => (f.1, file f.2)

section Flat

variable {files : List (String × Content)}

theorem namesBelow_fileEntries (files : List (String × Content)) :
    (folder (fileEntries files)).namesBelow = files.map fun f => [f.1] := by
  rw [namesBelow]
  induction files with
  | nil => rfl
  | cons f files ih =>
    rw [fileEntries, List.map_cons, entryNamesBelow, ← fileEntries, ih]
    rfl

theorem filled?_of_mem (hat : root.at? dir = some (folder (fileEntries files)))
    (hlisting : IsListing (fileEntries files)) {f : String × Content} (hf : f ∈ files)
    (hfull : f.2.isEmpty = false) : root.filled? (dir ++ [f.1]) = some f.2 := by
  have hlookup : (fileEntries files).lookup f.1 = some (file f.2) :=
    hlisting.lookup_eq_some_iff.2 (List.mem_map_of_mem hf)
  rw [filled?, at?_append, hat, Option.bind_some, at?, hlookup]
  simp [at?, hfull]

/-- What a name of a Parquet file is. -/
def parquetPlaces : List Place := .run :: ".parquet".toList.map .char

theorem mapM_ofPart? (hliteral : Path.IsLiteral path) :
    (Path.parts (Path.join (Path.join path "**") "*.parquet")).mapM PathStep.ofPart? =
      some ((Path.parts path).map .plain ++ [.below, .fitting parquetPlaces]) := by
  have hbelow : Path.IsName "**" := ⟨by decide, by decide, by decide, by decide⟩
  have hall : Path.IsName "*.parquet" := ⟨by decide, by decide, by decide, by decide⟩
  have hparts : (Path.parts path).mapM PathStep.ofPart? = some ((Path.parts path).map .plain) :=
    mapM_eq_some_map fun _ hpart => PathStep.ofPart?_of_isLiteral hliteral hpart
  rw [Path.parts_join _ hall, Path.parts_join _ hbelow, List.append_assoc, List.mapM_append, hparts]
  rfl

/-- **The Parquet files of a folder without folders are read in the order of their names**, if its
path is literal. -/
theorem filesLike?_flat (hpath : root.LeadsTo path dir) (hliteral : Path.IsLiteral path)
    (hat : root.at? dir = some (folder (fileEntries files)))
    (hlisting : IsListing (fileEntries files))
    (hread : ∀ f ∈ files, Place.fits parquetPlaces f.1.toList = true ∧ f.2.isEmpty = false) :
    root.filesLike? (Path.join (Path.join path "**") "*.parquet") =
      some ((files.mergeSort fun a b => namesLe [a.1] [b.1]).map (·.2)) := by
  have hsorted : ((folder (fileEntries files)).namesBelow.mergeSort namesLe) =
      (files.mergeSort fun a b => namesLe [a.1] [b.1]).map fun f => [f.1] := by
    rw [namesBelow_fileEntries]
    exact (List.map_mergeSort (f := fun f : String × Content => [f.1]) (s := namesLe)
      fun _ _ _ _ => rfl).symm
  have hled : root.led [.below, .fitting parquetPlaces] dir =
      (files.mergeSort fun a b => namesLe [a.1] [b.1]).map fun f => dir ++ [f.1] := by
    rw [led, hat, Option.map_some, Option.getD_some, hsorted, List.flatMap_map,
      List.map_eq_flatMap]
    · refine List.flatMap_congr fun f hf => ?_
      have hfit : (PathStep.fitting parquetPlaces).admits f.1 = true :=
        (hread f (List.mem_mergeSort.1 hf)).1
      simp [hfit, led]
    · nofun
  rw [filesLike?, mapM_ofPart? hliteral, Option.map_some,
    led_plain hpath.follows hpath.folder, hled, List.filterMap_map,
    List.filterMap_eq_map_iff_forall_eq_some.2]
  intro f hf
  have hmem := List.mem_mergeSort.1 hf
  exact filled?_of_mem hat hlisting hmem (hread f hmem).2

end Flat

end Node

end Files

end FocusBilling
