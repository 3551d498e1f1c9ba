import Mathlib.Data.List.Basic
import FocusBilling.Files.Tree
import FocusBilling.Proofs.Steps

/-!
# Files below a folder

What writing a file changes, and where a path leads.

* `Node.standingAt?` : what stands at names in a tree, the entries of a folder aside;
* `standingAt?_put_of_ne` : a node put into a folder changes nothing at any other names;
* `Path.parts_join` : a path in a folder leads where the folder does, and one name on;
* `write_join_eq_ok` : writing a file in a folder: the folder has to be there, and no folder of the
  name may be in the way;
* `standingAt?_write_of_ne`, `standingOf?_write_of_ne` : what stands elsewhere, found by its names
  or by a path in the same folder, is left as it was.
-/

namespace FocusBilling

namespace Text

variable {sep : Char}

theorem splitOn_ne_nil (cs : List Char) : splitOn sep cs ≠ [] := by
  cases cs with
  | nil => simp [splitOn]
  | cons c cs =>
    rw [splitOn]
    split
    · simp
    · split <;> simp

/-- A text cut at a separator that is known, and at those on both sides. -/
theorem splitOn_append (as bs : List Char) :
    splitOn sep (as ++ sep :: bs) = splitOn sep as ++ splitOn sep bs := by
  induction as with
  | nil =>
    simp only [List.nil_append, splitOn]
    split
    · rename_i h
      exact absurd h (splitOn_ne_nil bs)
    · simp [*]
  | cons a as ih =>
    simp only [List.cons_append, splitOn, ih]
    cases h : splitOn sep as with
    | nil => exact absurd h (splitOn_ne_nil as)
    | cons piece pieces =>
      simp only [List.cons_append]
      split <;> simp

theorem splitOn_of_not_mem {cs : List Char} (h : sep ∉ cs) : splitOn sep cs = [cs] := by
  induction cs with
  | nil => rfl
  | cons c cs ih =>
    simp only [List.mem_cons, not_or] at h
    simp [splitOn, ih h.2, Ne.symm h.1]

/-- No piece of a text has the character at which it was cut. -/
theorem not_mem_of_mem_splitOn {cs piece : List Char} (h : piece ∈ splitOn sep cs) :
    sep ∉ piece := by
  induction cs generalizing piece with
  | nil =>
    obtain rfl : piece = [] := by simpa [splitOn] using h
    exact List.not_mem_nil
  | cons c cs ih =>
    rw [splitOn] at h
    split at h
    next hnil => exact absurd hnil (splitOn_ne_nil cs)
    next first pieces heq =>
      rw [heq] at ih
      split at h
      next =>
        rcases List.mem_cons.1 h with rfl | h
        · exact List.not_mem_nil
        · exact ih h
      next hne =>
        rcases List.mem_cons.1 h with rfl | h
        · exact List.not_mem_cons_of_ne_of_not_mem (Ne.symm hne) (ih List.mem_cons_self)
        · exact ih (List.mem_cons_of_mem _ h)

end Text

namespace Path

/-- A text that names an entry of a folder. -/
structure IsName (s : String) : Prop where
  nonempty : s.toList ≠ []
  ne_here : s.toList ≠ ['.']
  ne_up : s.toList ≠ ['.', '.']
  slash_not_mem : '/' ∉ s.toList

theorem IsName.partOf {s : String} (h : IsName s) (first : Bool) :
    Path.partOf first s.toList = some (.name s.toList) := by
  simp [Path.partOf, h.ne_here, h.ne_up, h.nonempty]

theorem IsName.head_ne {s : String} (h : IsName s) : (s.toList.head? == some '/') = false := by
  refine beq_eq_false_iff_ne.2 fun hh => h.slash_not_mem ?_
  exact List.mem_of_mem_head? hh

/-- The parts of a path, from its pieces between slashes. -/
theorem parts_eq {p : String} {pieces : List (List Char)} {rooted : Bool}
    (hp : Text.splitOn '/' p.toList = pieces) (hr : (p.toList.head? == some '/') = rooted) :
    parts p = (if rooted then [.root] else []) ++
      pieces.zipIdx.filterMap fun x => partOf (x.2 == 0 && !rooted) x.1 := by
  subst hp hr
  unfold parts
  dsimp only
  cases p.toList.head? == some '/' <;> rfl

theorem join_eq (folder : String) {s : String} (hs : IsName s) :
    join folder s = if folder.isEmpty then s
      else if folder.toList.getLast? == some '/' then folder ++ s else folder ++ "/" ++ s := by
  rw [join, hs.head_ne, Bool.false_or]

/-- A path in a folder leads where the folder does, and one name on. -/
theorem parts_join (folder : String) {s : String} (hs : IsName s) :
    parts (join folder s) = parts folder ++ [.name s.toList] := by
  have hsplit := Text.splitOn_of_not_mem hs.slash_not_mem
  rw [join_eq folder hs]
  split
  · -- the path is the name alone
    rename_i hf
    obtain rfl : folder = "" := by simpa using hf
    rw [parts_eq hsplit hs.head_ne]
    simp only [List.zipIdx_cons, List.zipIdx_nil, List.filterMap_cons, hs.partOf]
    rfl
  · rename_i hf
    have hne : folder.toList ≠ [] := by simpa using hf
    split
    · -- the folder brings the slash
      rename_i hlast
      obtain ⟨before, hb⟩ : ∃ before, folder.toList = before ++ ['/'] :=
        List.getLast?_eq_some_iff.1 (by simpa using hlast)
      have hsf : Text.splitOn '/' folder.toList = Text.splitOn '/' before ++ [[]] := by
        rw [hb, Text.splitOn_append]
        rfl
      have hsj : Text.splitOn '/' (folder ++ s).toList =
          Text.splitOn '/' before ++ [s.toList] := by
        rw [String.toList_append, hb, List.append_assoc, List.singleton_append,
          Text.splitOn_append, hsplit]
      have hhead : (folder ++ s).toList.head? = folder.toList.head? := by
        rw [String.toList_append, List.head?_append_of_ne_nil _ hne]
      rw [parts_eq hsj rfl, parts_eq hsf rfl, hhead]
      simp only [List.zipIdx_append, List.filterMap_append, List.zipIdx_cons, List.zipIdx_nil,
        List.filterMap_cons, List.filterMap_nil, hs.partOf, List.append_assoc]
      rfl
    · -- a slash is put between
      have hsj : Text.splitOn '/' (folder ++ "/" ++ s).toList =
          Text.splitOn '/' folder.toList ++ [s.toList] := by
        rw [String.toList_append, String.toList_append, List.append_assoc,
          show "/".toList ++ s.toList = '/' :: s.toList from rfl, Text.splitOn_append, hsplit]
      have hhead : (folder ++ "/" ++ s).toList.head? = folder.toList.head? := by
        rw [String.toList_append, String.toList_append, List.append_assoc,
          List.head?_append_of_ne_nil _ hne]
      rw [parts_eq hsj rfl, parts_eq (p := folder) rfl rfl, hhead]
      simp only [List.zipIdx_append, List.filterMap_append, List.zipIdx_cons, List.zipIdx_nil,
        List.filterMap_cons, List.filterMap_nil, hs.partOf, List.append_assoc]

/-- A path that ends in a name is no path of a folder. -/
theorem endsAsFolder_join (folder : String) {s : String} (hs : IsName s) :
    Files.Node.endsAsFolder (join folder s) = false := by
  have hlast : ∀ t : String, ((t ++ s).toList.getLast? == some '/') = false := fun t => by
    rw [String.toList_append, List.getLast?_append_of_ne_nil _ hs.nonempty]
    refine beq_eq_false_iff_ne.2 fun hh => hs.slash_not_mem (List.mem_of_mem_getLast? hh)
  rw [join_eq folder hs, Files.Node.endsAsFolder]
  split
  · simpa using hlast ""
  · split <;> exact hlast _

theorem join_ne_empty (folder : String) {s : String} (hs : IsName s) :
    (join folder s).isEmpty = false := by
  have hne : s ≠ "" := fun h => hs.nonempty (by rw [h]; rfl)
  rw [join_eq folder hs]
  split
  · simpa using hne
  · split <;> simp [hne]

end Path

namespace Files

/-- What stands at a place in a tree, the entries of a folder aside. -/
inductive Standing where
  | folder
  | file (content : Content)

namespace Node

/-! ### What a tree holds -/

/-- What a node is, the entries of a folder aside. -/
def standing : Node → Standing
  | file c => .file c
  | folder _ => .folder

/-- What stands at names below a node. -/
def standingAt? (n : Node) (names : List String) : Option Standing := (n.at? names).map standing

@[simp] theorem standingAt?_nil (n : Node) : n.standingAt? [] = some n.standing := rfl

@[simp] theorem standingAt?_file_cons (c : Content) (name : String) (rest : List String) :
    (file c).standingAt? (name :: rest) = none := rfl

theorem standingAt?_folder_cons (es : List (String × Node)) (name : String)
    (rest : List String) :
    (folder es).standingAt? (name :: rest) = (es.lookup name).bind (·.standingAt? rest) := by
  simp only [standingAt?, at?]
  cases es.lookup name <;> rfl

theorem standing_eq_folder {n : Node} : n.standing = .folder ↔ ∃ es, n = folder es := by
  cases n <;> simp [standing]

/-- An entry that is put is found under its name, and every other one as before. -/
theorem lookup_putEntry (name other : String) (f : Option Node → Node)
    (es : List (String × Node)) :
    (putEntry name f es).lookup other =
      if other = name then some (f (es.lookup name)) else es.lookup other := by
  have hbeq : ∀ {a b : String}, ¬a = b → (a == b) = false := fun h => beq_eq_false_iff_ne.2 h
  induction es with
  | nil => by_cases h : other = name <;> simp [putEntry, List.lookup_cons, h, hbeq]
  | cons e es ih =>
    obtain ⟨k, n⟩ := e
    rw [putEntry]
    by_cases hk : k = name
    · subst hk
      by_cases h : other = k <;> simp [List.lookup_cons, h, hbeq]
    · have hk' : ¬name = k := fun h => hk h.symm
      by_cases ho : other = k
      · subst ho
        simp [hk]
      · simp [List.lookup_cons, hk, hbeq hk', hbeq ho, ih]

/-! ### A node put into a folder -/

@[simp] theorem put_nil (n new : Node) : n.put [] new = new := by
  cases n <;> rfl

theorem put_folder_cons (es : List (String × Node)) (name : String) (rest : List String)
    (new : Node) :
    (folder es).put (name :: rest) new =
      folder (putEntry name (fun old => (old.getD (folder [])).put rest new) es) := by
  rw [put]

/-- A folder with a folder in it has an entry that leads there. -/
theorem exists_entry {n : Node} {d : String} {dir : List String}
    (h : n.standingAt? (d :: dir) = some .folder) :
    ∃ es m, n = folder es ∧ es.lookup d = some m ∧ m.standingAt? dir = some .folder := by
  cases n with
  | file c => cases h
  | folder es =>
    rw [standingAt?_folder_cons, Option.bind_eq_some_iff] at h
    obtain ⟨m, hm, hd⟩ := h
    exact ⟨es, m, rfl, hm, hd⟩

/-- A node that is put into a folder stands there. -/
theorem standingAt?_put_self {n : Node} {dir : List String} (name : String) (new : Node)
    (hdir : n.standingAt? dir = some .folder) :
    (n.put (dir ++ [name]) new).standingAt? (dir ++ [name]) = some new.standing := by
  induction dir generalizing n with
  | nil =>
    obtain ⟨es, rfl⟩ := standing_eq_folder.1 (Option.some.inj hdir)
    simp [put_folder_cons, standingAt?_folder_cons, lookup_putEntry]
  | cons d dir ih =>
    obtain ⟨es, m, rfl, hm, hmd⟩ := exists_entry hdir
    simp [put_folder_cons, standingAt?_folder_cons, lookup_putEntry, hm, ih hmd]

/-- A node with nothing below it. -/
def IsLeaf (n : Node) : Prop := ∀ name rest, n.standingAt? (name :: rest) = none

theorem isLeaf_file (c : Content) : (file c).IsLeaf := fun _ _ => rfl

theorem isLeaf_folder_nil : (folder []).IsLeaf := fun _ _ => rfl

/-- A leaf that is put into a folder changes nothing at any other names. -/
theorem standingAt?_put_of_ne {n : Node} {dir : List String} {name : String} {new : Node}
    (hleaf : new.IsLeaf) (hdir : n.standingAt? dir = some .folder)
    (hnew : n.standingAt? (dir ++ [name]) ≠ some .folder) {names : List String}
    (hne : names ≠ dir ++ [name]) :
    (n.put (dir ++ [name]) new).standingAt? names = n.standingAt? names := by
  induction dir generalizing n names with
  | nil =>
    obtain ⟨es, rfl⟩ := standing_eq_folder.1 (Option.some.inj hdir)
    rw [List.nil_append, put_folder_cons]
    cases names with
    | nil => rfl
    | cons other rest =>
      rw [standingAt?_folder_cons, standingAt?_folder_cons, lookup_putEntry]
      split
      · rename_i ho
        subst ho
        -- below the name there is nothing, before and after
        cases rest with
        | nil => exact absurd rfl hne
        | cons r rest =>
          rw [List.nil_append, standingAt?_folder_cons] at hnew
          rw [Option.bind_some, put_nil, hleaf]
          cases hl : es.lookup other with
          | none => rfl
          | some m =>
            cases m with
            | file c => rfl
            | folder es' => exact absurd (by rw [hl]; rfl) hnew
      · rfl
  | cons d dir ih =>
    obtain ⟨es, m, rfl, hm, hmd⟩ := exists_entry hdir
    rw [List.cons_append, put_folder_cons]
    cases names with
    | nil => rfl
    | cons other rest =>
      rw [standingAt?_folder_cons, standingAt?_folder_cons, lookup_putEntry]
      split
      · rename_i ho
        subst ho
        rw [hm, Option.getD_some, Option.bind_some, Option.bind_some]
        refine ih hmd ?_ fun h => hne (by rw [h, List.cons_append])
        rwa [List.cons_append, standingAt?_folder_cons, hm, Option.bind_some] at hnew
      · rfl

/-! ### Where paths lead -/

@[simp] theorem needFolder_eq_ok {root : Node} {names : List String} {u : Unit} :
    root.needFolder names = .ok u ↔ root.standingAt? names = some .folder := by
  unfold needFolder standingAt?
  cases root.at? names with
  | none => simp
  | some n => cases n <;> simp [standing]

theorem follow_append (root : Node) (names : List String) (ps qs : List Path.Part) :
    root.follow names (ps ++ qs) = root.follow names ps >>= fun led => root.follow led qs := by
  induction ps generalizing names with
  | nil => rfl
  | cons p ps ih =>
    cases p with
    | root => rfl
    | here | name s =>
      simp only [List.cons_append, follow, ih]
      cases root.needFolder names <;> rfl
    | up =>
      simp only [List.cons_append, follow, ih]
      cases root.needFolder names with
      | error e => rfl
      | ok u => cases names <;> rfl

/-- Where parts lead is settled by the folders alone. -/
theorem follow_mono {root root' : Node}
    (h : ∀ names, root.standingAt? names = some .folder → root'.standingAt? names = some .folder)
    {names led : List String} {ps : List Path.Part} (hl : root.follow names ps = .ok led) :
    root'.follow names ps = .ok led := by
  induction ps generalizing names with
  | nil => exact hl
  | cons p ps ih =>
    cases p with
    | root => cases hl
    | here | name s =>
      simp only [follow, bind_eq_ok, needFolder_eq_ok] at hl ⊢
      obtain ⟨u, hu, hl⟩ := hl
      exact ⟨u, h _ hu, ih hl⟩
    | up =>
      simp only [follow, bind_eq_ok, needFolder_eq_ok] at hl ⊢
      obtain ⟨u, hu, hl⟩ := hl
      refine ⟨u, h _ hu, ?_⟩
      split at hl
      · cases hl
      · rename_i hne
        rw [if_neg hne]
        exact ih hl

/-- A path in a folder leads where the folder does, and one name on. -/
theorem locate_join_eq_ok {root : Node} {folder s : String} (hs : Path.IsName s)
    {names : List String} :
    root.locate (Path.join folder s) = .ok names ↔
      ∃ dir, root.follow [] (Path.parts folder) = .ok dir ∧
        root.standingAt? dir = some .folder ∧ names = dir ++ [s] := by
  rw [locate, Path.join_ne_empty folder hs, Path.endsAsFolder_join folder hs,
    Path.parts_join folder hs]
  simp only [Bool.false_eq_true, if_false, List.append_nil, follow_append, follow, bind_eq_ok,
    needFolder_eq_ok, String.ofList_toList, Except.ok.injEq]
  constructor
  · rintro ⟨dir, hd, _, hf, hn⟩
    exact ⟨dir, hd, hf, hn.symm⟩
  · rintro ⟨dir, hd, hf, hn⟩
    exact ⟨dir, hd, (), hf, hn.symm⟩

/-- Writing a file in a folder: the folder has to be there, and no folder of the name. -/
theorem write_join_eq_ok {root root' : Node} {folder s : String} (hs : Path.IsName s)
    {content : Content} :
    root.write (Path.join folder s) content = .ok root' ↔
      ∃ dir, root.follow [] (Path.parts folder) = .ok dir ∧
        root.standingAt? dir = some .folder ∧ root.standingAt? (dir ++ [s]) ≠ some .folder ∧
        root' = root.put (dir ++ [s]) (file content) := by
  have hany (names : List String) :
      (root.at? names).any isFolder = true ↔ root.standingAt? names = some .folder := by
    rw [standingAt?]
    cases root.at? names with
    | none => simp
    | some n => cases n <;> simp [standing, isFolder]
  rw [write, Path.join_ne_empty folder hs, Path.endsAsFolder_join folder hs,
    Path.parts_join folder hs]
  simp only [Bool.false_eq_true, if_false, Bool.false_or, follow_append, follow, bind_eq_ok,
    needFolder_eq_ok, String.ofList_toList]
  constructor
  · rintro ⟨names, ⟨dir, hd, _, hf, hn⟩, hw⟩
    cases hn
    split at hw
    · cases hw
    · rename_i hnew
      cases hw
      exact ⟨dir, hd, hf, (hany _).not.1 hnew, rfl⟩
  · rintro ⟨dir, hd, hf, hnew, rfl⟩
    exact ⟨dir ++ [s], ⟨dir, hd, (), hf, rfl⟩, if_neg ((hany _).not.2 hnew)⟩

/-- What stands where a path leads. -/
def standingOf? (root : Node) (path : String) : Option Standing :=
  (root.locate path).toOption.bind (root.standingAt? ·)

/-- A file that is written in a folder changes nothing at any other names, and no other name of the
folder leads to anything else than before. -/
theorem standingAt?_write_of_ne {root root' : Node} {folder s : String} (hs : Path.IsName s)
    {content : Content} (hw : root.write (Path.join folder s) content = .ok root')
    {names : List String} (hne : root.locate (Path.join folder s) ≠ .ok names) :
    root'.standingAt? names = root.standingAt? names := by
  obtain ⟨dir, hd, hf, hnew, rfl⟩ := (write_join_eq_ok hs).1 hw
  refine standingAt?_put_of_ne (isLeaf_file content) hf hnew fun h => hne ?_
  exact (locate_join_eq_ok hs).2 ⟨dir, hd, hf, h⟩

theorem standingOf?_write_of_ne {root root' : Node} {folder s other : String}
    (hs : Path.IsName s) (ho : Path.IsName other) (hne : other ≠ s) {content : Content}
    (hw : root.write (Path.join folder s) content = .ok root') :
    root'.standingOf? (Path.join folder other) = root.standingOf? (Path.join folder other) := by
  obtain ⟨dir, hd, hf, hnew, rfl⟩ := (write_join_eq_ok hs).1 hw
  have hfolders : ∀ names, root.standingAt? names = some .folder →
      (root.put (dir ++ [s]) (file content)).standingAt? names = some .folder := by
    intro names h
    rwa [standingAt?_put_of_ne (isLeaf_file content) hf hnew (fun h' => hnew (h' ▸ h))]
  have hold : root.locate (Path.join folder other) = .ok (dir ++ [other]) :=
    (locate_join_eq_ok ho).2 ⟨dir, hd, hf, rfl⟩
  have hnow := (locate_join_eq_ok ho).2 ⟨dir, follow_mono hfolders hd, hfolders _ hf, rfl⟩
  simp only [standingOf?, hold, hnow, Except.toOption, Option.bind_some]
  exact standingAt?_put_of_ne (isLeaf_file content) hf hnew fun h => hne (by simpa using h)

end Node

end Files

end FocusBilling
