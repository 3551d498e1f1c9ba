import FocusBilling.Proofs.PathPatterns
import FocusBilling.Proofs.Segments

/-!
# The order of segments

Segments are numbered as they are written, and who reads their folder takes them in the order of
their names.  The numbers are padded to five digits, so that the two orders agree as long as five
digits are enough.

* `ofDigitChars_lt` : digits in the order of their letters, and in the order of their values;
* `SegmentExport.padded_lt`, `SegmentExport.segmentName_lt` : padded numbers, and the names that are
  made of them;
* `SegmentExport.nameOrder_eq_iff` : **the segments are read in the order in which they were written
  if and only if there are at most a hundred thousand of them;**
* `SegmentExport.inNameOrder` : frames in the order in which their segments are read;
* `SegmentExport.segmentFiles` : the files of frames that have been written.
-/

namespace FocusBilling

open Files (Node Content)

/-! ### Padded numbers -/

theorem toNat_of_isDigit {c : Char} (h : c.isDigit = true) : 48 ≤ c.toNat ∧ c.toNat ≤ 57 :=
  Char.isDigit_iff_toNat.1 h

theorem ofDigitChars_lt_pow {cs : List Char} (h : ∀ c ∈ cs, c.isDigit = true) :
    Nat.ofDigitChars 10 cs 0 < 10 ^ cs.length := by
  induction cs with
  | nil => decide
  | cons c cs ih =>
    have hrest := ih fun d hd => h d (List.mem_cons_of_mem _ hd)
    have hdigit := toNat_of_isDigit (h c List.mem_cons_self)
    have hfirst : 10 ^ cs.length * (c.toNat - 48) ≤ 10 ^ cs.length * 9 :=
      Nat.mul_le_mul_left _ (by omega)
    rw [Nat.ofDigitChars_cons, Nat.ofDigitChars_eq_ofDigitChars_zero, List.length_cons,
      Nat.pow_succ, Nat.mul_zero, Nat.zero_add]
    simp only [Char.reduceToNat]
    omega

/-- Texts of digits that are as long as each other and in the order of their letters are in the
order of their values. -/
theorem ofDigitChars_lt {as bs : List Char} (hlength : as.length = bs.length)
    (ha : ∀ c ∈ as, c.isDigit = true) (hb : ∀ c ∈ bs, c.isDigit = true) (h : as < bs) :
    Nat.ofDigitChars 10 as 0 < Nat.ofDigitChars 10 bs 0 := by
  induction as generalizing bs with
  | nil =>
    obtain rfl := List.length_eq_zero_iff.1 hlength.symm
    cases h
  | cons a as ih =>
    cases bs with
    | nil => cases h
    | cons b bs =>
      have hrests : as.length = bs.length := Nat.succ.inj hlength
      have has : ∀ c ∈ as, c.isDigit = true := fun c hc => ha c (List.mem_cons_of_mem _ hc)
      have hbs : ∀ c ∈ bs, c.isDigit = true := fun c hc => hb c (List.mem_cons_of_mem _ hc)
      simp only [Nat.ofDigitChars_cons, Nat.mul_zero, Nat.zero_add, Char.reduceToNat]
      rw [Nat.ofDigitChars_eq_ofDigitChars_zero, Nat.ofDigitChars_eq_ofDigitChars_zero (l := bs),
        ← hrests]
      rcases List.cons_lt_cons_iff.1 h with hab | ⟨rfl, hab⟩
      · -- the first digit decides, whatever comes behind it
        have hfirst := toNat_of_isDigit (ha a List.mem_cons_self)
        have hlt : a.toNat < b.toNat := hab
        have hstep : 10 ^ as.length * (a.toNat - 48 + 1) ≤ 10 ^ as.length * (b.toNat - 48) :=
          Nat.mul_le_mul_left _ (by omega)
        have hrest := ofDigitChars_lt_pow has
        rw [Nat.mul_succ] at hstep
        omega
      · have hrest := ih hrests has hbs hab
        omega

/-- Texts of one length decide the order of whatever goes on behind them. -/
theorem append_lt_append {as bs : List Char} (hlength : as.length = bs.length) (h : as < bs)
    (cs ds : List Char) : as ++ cs < bs ++ ds := by
  induction as generalizing bs with
  | nil =>
    obtain rfl := List.length_eq_zero_iff.1 hlength.symm
    cases h
  | cons a as ih =>
    cases bs with
    | nil => cases hlength
    | cons b bs =>
      rw [List.cons_append, List.cons_append, List.cons_lt_cons_iff]
      rcases List.cons_lt_cons_iff.1 h with hab | ⟨hab, hrest⟩
      · exact .inl hab
      · exact .inr ⟨hab, ih (Nat.succ.inj hlength) hrest⟩

namespace SegmentExport

theorem length_padded {width n : Nat} (hwidth : 0 < width) (h : n < 10 ^ width) :
    (Text.padded width n).toList.length = width := by
  have hle : (toString n).toList.length ≤ width := by
    rw [Nat.toString_eq_repr, Nat.toList_repr]
    exact (Nat.length_toDigits_le_iff (by decide) hwidth).2 h
  simp only [Text.padded, String.toList_ofList, List.length_append, List.length_replicate]
  omega

/-- Padded numbers are in the order of their letters as long as the width is enough. -/
theorem padded_lt {width i j : Nat} (hij : i < j) (hj : j < 10 ^ width) :
    (Text.padded width i).toList < (Text.padded width j).toList := by
  have hwidth : 0 < width := by
    refine Nat.pos_of_ne_zero fun h => ?_
    subst h
    omega
  have hlength := (length_padded hwidth (hij.trans hj)).trans (length_padded hwidth hj).symm
  rcases lt_trichotomy (Text.padded width i).toList (Text.padded width j).toList with h | h | h
  · exact h
  · exact absurd (padded_injective width (String.toList_inj.1 h)) hij.ne
  · have hvalue :=
      ofDigitChars_lt hlength.symm (fun _ => isDigit_padded) (fun _ => isDigit_padded) h
    rw [ofDigitChars_padded, ofDigitChars_padded] at hvalue
    omega

/-! ### The order of segments -/

/-- The names of segments are in the order of their numbers as long as five digits are enough. -/
theorem segmentName_lt (format : DataFormat) {i j : Nat} (hij : i < j) (hj : j < 100000) :
    (segmentName format i).toList < (segmentName format j).toList := by
  have hlength : (Text.padded 5 i).toList.length = (Text.padded 5 j).toList.length :=
    (length_padded (by decide) (hij.trans hj)).trans (length_padded (by decide) hj).symm
  simp only [segmentName, String.toList_append, List.append_assoc]
  exact List.append_left_lt (append_lt_append hlength (padded_lt hij hj) _ _)

/-- Whether a segment is read no later than another one. -/
def nameLe (format : DataFormat) (i j : Nat) : Bool :=
  Node.namesLe [segmentName format i] [segmentName format j]

theorem nameLe_iff {format : DataFormat} {i j : Nat} : nameLe format i j = true ↔
    (segmentName format i).toList ≤ (segmentName format j).toList := Node.namesLe_singleton

/-- Segments by their numbers, in the order of the names of their files. -/
def nameOrder (format : DataFormat) (count : Nat) : List (Fin count) :=
  (List.finRange count).mergeSort fun i j => nameLe format i j

theorem pairwise_nameOrder (format : DataFormat) (count : Nat) :
    (nameOrder format count).Pairwise fun i j : Fin count => nameLe format i j = true := by
  refine List.pairwise_mergeSort (fun i j k hij hjk => ?_) (fun i j => ?_) _
  · exact nameLe_iff.2 ((nameLe_iff.1 hij).trans (nameLe_iff.1 hjk))
  · rw [Bool.or_eq_true, nameLe_iff, nameLe_iff]
    exact le_total _ _

/-- **The segments are read in the order in which they were written if and only if there are at
most a hundred thousand of them.** -/
theorem nameOrder_eq_iff {format : DataFormat} {count : Nat} :
    nameOrder format count = List.finRange count ↔ count ≤ 100000 := by
  constructor
  · intro h
    by_contra hcount
    have hpairs := pairwise_nameOrder format count
    rw [h] at hpairs
    -- the first number of six digits is read before the last one of five
    have hwrong : nameLe format 99999 100000 = true := by
      have hlast : 100000 < (List.finRange count).length := by
        rw [List.length_finRange]
        omega
      have hpair := List.pairwise_iff_getElem.1 hpairs 99999 100000 (by omega) hlast (by decide)
      simpa using hpair
    revert hwrong
    cases format <;> decide +kernel
  · intro hcount
    refine List.mergeSort_of_pairwise ((List.pairwise_lt_finRange count).imp fun {i j} hij => ?_)
    exact nameLe_iff.2 (segmentName_lt format hij (by omega)).le

/-- Frames in the order in which their segments are read. -/
def inNameOrder (format : DataFormat) (frames : List Frame) : List Frame :=
  (nameOrder format frames.length).map frames.get

theorem inNameOrder_of_le {format : DataFormat} {frames : List Frame}
    (h : frames.length ≤ 100000) : inNameOrder format frames = frames := by
  rw [inNameOrder, nameOrder_eq_iff.2 h, List.map_get_finRange]

theorem mem_of_mem_inNameOrder {format : DataFormat} {frames : List Frame} {f : Frame}
    (h : f ∈ inNameOrder format frames) : f ∈ frames := by
  obtain ⟨i, -, rfl⟩ := List.mem_map.1 h
  exact List.get_mem frames i

/-- Frames that all differ are read in another order than they were written, once there are too
many. -/
theorem inNameOrder_ne {format : DataFormat} {frames : List Frame} (hdistinct : frames.Nodup)
    (h : 100000 < frames.length) : inNameOrder format frames ≠ frames := by
  intro heq
  have hmap : (nameOrder format frames.length).map frames.get =
      (List.finRange frames.length).map frames.get := by
    rw [List.map_get_finRange]
    exact heq
  have horder := (List.nodup_iff_injective_get.1 hdistinct).list_map hmap
  exact absurd (nameOrder_eq_iff.1 horder) (by omega)

/-- Frames as the segments of a folder. -/
def segmentFiles (format : DataFormat) (frames : List Frame) : List (String × Content) :=
  frames.mapIdx fun i f => (segmentName format i, contentOf format f)

theorem segmentFiles_eq (format : DataFormat) (frames : List Frame) :
    segmentFiles format frames = (List.finRange frames.length).map fun i : Fin frames.length =>
      (segmentName format i, contentOf format (frames.get i)) := by
  rw [segmentFiles]
  exact List.ext_getElem (by simp) (by simp)

theorem contents_segmentFiles (format : DataFormat) (frames : List Frame) :
    ((segmentFiles format frames).mergeSort fun a b => Node.namesLe [a.1] [b.1]).map (·.2) =
      (inNameOrder format frames).map (contentOf format) := by
  have hsorted : ((segmentFiles format frames).mergeSort fun a b => Node.namesLe [a.1] [b.1]) =
      (nameOrder format frames.length).map fun i : Fin frames.length =>
        (segmentName format i, contentOf format (frames.get i)) := by
    rw [segmentFiles_eq]
    refine (List.map_mergeSort ?_).symm
    exact fun _ _ _ _ => rfl
  rw [hsorted, inNameOrder, List.map_map, List.map_map]
  rfl

theorem segmentFiles_concat (format : DataFormat) (frames : List Frame) (f : Frame) :
    segmentFiles format (frames ++ [f]) =
      segmentFiles format frames ++ [(segmentName format frames.length, contentOf format f)] :=
  List.mapIdx_concat

theorem names_segmentFiles (format : DataFormat) (frames : List Frame) :
    (Node.fileEntries (segmentFiles format frames)).map (·.1) =
      (List.range frames.length).map (segmentName format) := by
  simp only [Node.fileEntries, segmentFiles, List.map_map]
  exact List.ext_getElem (by simp) (by simp)

theorem isListing_segmentFiles (format : DataFormat) (frames : List Frame) :
    Node.IsListing (Node.fileEntries (segmentFiles format frames)) := by
  constructor
  · intro e he
    have hname := List.mem_map_of_mem (f := (·.1)) he
    rw [names_segmentFiles] at hname
    obtain ⟨i, -, hi⟩ := List.mem_map.1 hname
    exact hi ▸ isName_segmentName format i
  · rw [names_segmentFiles]
    exact List.nodup_range.map (segmentName_injective format)

/-- The segments of Parquet files are files that are read. -/
theorem read_of_mem_segmentFiles {frames : List Frame} {file : String × Content}
    (h : file ∈ segmentFiles .parquet frames) :
    Files.Place.fits Node.parquetPlaces file.1.toList = true ∧ file.2.isEmpty = false := by
  rw [segmentFiles_eq] at h
  obtain ⟨i, -, rfl⟩ := List.mem_map.1 h
  refine ⟨?_, rfl⟩
  rw [segmentName, String.append_assoc, String.toList_append]
  exact Files.Place.fits_run (Files.Place.fits_chars _) _

end SegmentExport

end FocusBilling
