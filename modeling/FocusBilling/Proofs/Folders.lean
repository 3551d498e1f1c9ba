import FocusBilling.Proofs.Files

/-!
# Folders that are made

What making the folders of a path changes, and where the path leads afterwards.

* `Node.Grown` : a tree in which folders have been made, where there was nothing;
* `Node.LeadsTo` : the names of the folder that a path stands for;
* `Node.makeFolders_ok` : the folders of a path are made, and nothing else changes;
* `LeadsTo.write` : a file in the folder leaves it where it was.
-/

namespace FocusBilling

namespace Path

/-- A path that names something has a part. -/
theorem parts_ne_nil {p : String} (h : p.isEmpty = false) : parts p ≠ [] := by
  cases hcs : p.toList with
  | nil =>
    have hp : p = "" := String.toList_inj.1 hcs
    simp [hp] at h
  | cons c cs =>
    rw [parts_eq rfl rfl, hcs]
    by_cases hc : c = '/'
    · simp [hc]
    · -- the first piece is not empty, and a dot counts there
      obtain ⟨first, pieces, hsplit⟩ : ∃ first pieces, Text.splitOn '/' (c :: cs) =
          (c :: first) :: pieces := by
        rw [Text.splitOn]
        split
        next hnil => exact absurd hnil (Text.splitOn_ne_nil cs)
        next first pieces _ => exact ⟨first, pieces, if_neg hc⟩
      have hpart : partOf true (c :: first) ≠ none := by
        rw [partOf, if_neg (List.cons_ne_nil _ _)]
        split <;> [skip; split] <;> simp
      obtain ⟨part, hpart⟩ := Option.ne_none_iff_exists'.1 hpart
      have hrooted : (c == '/') = false := beq_eq_false_iff_ne.2 hc
      simp [hsplit, hrooted, List.zipIdx_cons, hpart]

end Path

namespace Files.Node

variable {root root' : Node} {path : String} {names dir : List String}

/-! ### Trees with more folders -/

/-- A tree in which folders have been made: all names stand for what they stood for, or for a
folder where there was nothing. -/
def Grown (old new : Node) : Prop :=
  ∀ names, new.standingAt? names = old.standingAt? names ∨
    (old.standingAt? names = none ∧ new.standingAt? names = some .folder)

theorem Grown.refl (root : Node) : Grown root root := fun _ => .inl rfl

theorem Grown.trans {a b c : Node} (hab : Grown a b) (hbc : Grown b c) : Grown a c := by
  intro names
  obtain hab | ⟨ha, hb⟩ := hab names
  · rw [← hab]
    exact hbc names
  · obtain hbc | ⟨hb', -⟩ := hbc names
    · exact .inr ⟨ha, hbc.trans hb⟩
    · cases hb.symm.trans hb'

theorem Grown.folder (h : Grown root root') (hnames : root.standingAt? names = some .folder) :
    root'.standingAt? names = some .folder := by
  obtain h | ⟨-, h⟩ := h names
  · exact h.trans hnames
  · exact h

/-- A folder lies in folders. -/
theorem standingAt?_dropLast (h : root.standingAt? names = some .folder) :
    root.standingAt? names.dropLast = some .folder := by
  induction names generalizing root with
  | nil => exact h
  | cons d rest ih =>
    obtain ⟨es, m, rfl, hm, hrest⟩ := exists_entry h
    cases rest with
    | nil => rfl
    | cons d' rest =>
      rw [List.dropLast_cons_cons, standingAt?_folder_cons, hm]
      exact ih hrest

theorem grown_put (hdir : root.standingAt? dir = some .folder) {name : String}
    (hnone : root.at? (dir ++ [name]) = none) :
    Grown root (root.put (dir ++ [name]) (folder [])) := by
  have hstanding : root.standingAt? (dir ++ [name]) = none := by rw [standingAt?, hnone]; rfl
  intro names
  by_cases h : names = dir ++ [name]
  · subst h
    exact .inr ⟨hstanding, standingAt?_put_self name (folder []) hdir⟩
  · refine .inl (standingAt?_put_of_ne isLeaf_folder_nil hdir ?_ h)
    rw [hstanding]
    intro h
    cases h

/-- Folders made for parts: the parts lead to one of them, and nothing else changes. -/
theorem makeFrom_ok {ps : List Path.Part} (hnames : root.standingAt? names = some .folder)
    (h : root.makeFrom names ps = .ok root') :
    Grown root root' ∧
      ∃ dir, root'.follow names ps = .ok dir ∧ root'.standingAt? dir = some .folder := by
  induction ps generalizing root names with
  | nil =>
    obtain rfl := Except.ok.inj h
    exact ⟨.refl root, names, rfl, hnames⟩
  | cons p ps ih =>
    -- where one starts is a folder still, so that it may be gone through
    cases p with
    | root => cases h
    | here =>
      obtain ⟨hgrown, dir, hdir, hfolder⟩ := ih hnames h
      have hneed : root'.needFolder names = .ok () := needFolder_eq_ok.2 (hgrown.folder hnames)
      refine ⟨hgrown, dir, ?_, hfolder⟩
      rw [follow, hneed]
      exact hdir
    | up =>
      rw [makeFrom] at h
      split at h
      next => cases h
      next hne =>
        obtain ⟨hgrown, dir, hdir, hfolder⟩ := ih (standingAt?_dropLast hnames) h
        have hneed : root'.needFolder names = .ok () := needFolder_eq_ok.2 (hgrown.folder hnames)
        refine ⟨hgrown, dir, ?_, hfolder⟩
        rw [follow, hneed]
        exact (if_neg hne).trans hdir
    | name s =>
      have hstep : ∀ {start : Node}, Grown root start →
          start.standingAt? (names ++ [String.ofList s]) = some .folder →
          start.makeFrom (names ++ [String.ofList s]) ps = .ok root' →
          Grown root root' ∧ ∃ dir, root'.follow names (.name s :: ps) = .ok dir ∧
            root'.standingAt? dir = some .folder := by
        intro start hstart hhere h
        obtain ⟨hgrown, dir, hdir, hfolder⟩ := ih hhere h
        have hgrown := hstart.trans hgrown
        have hneed : root'.needFolder names = .ok () := needFolder_eq_ok.2 (hgrown.folder hnames)
        refine ⟨hgrown, dir, ?_, hfolder⟩
        rw [follow, hneed]
        exact hdir
      rw [makeFrom] at h
      split at h
      next es hes =>
        exact hstep (.refl root) (by rw [standingAt?, hes]; rfl) h
      next => cases h
      next hnone =>
        exact hstep (grown_put hnames hnone) (standingAt?_put_self _ _ hnames) h

/-! ### Where the path of a folder leads -/

/-- The names of the folder that a path stands for; the path that names nothing stands for the
place where everything starts. -/
structure LeadsTo (root : Node) (path : String) (dir : List String) : Prop where
  follows : root.follow [] (Path.parts path) = .ok dir
  folder : root.standingAt? dir = some .folder

theorem LeadsTo.hasFolder (h : root.LeadsTo path dir) (hpath : path.isEmpty = false) :
    root.hasFolder path = true := by
  have hlocate : root.locate path = .ok dir := by
    have hneed : root.needFolder dir = .ok () := needFolder_eq_ok.2 h.folder
    rw [locate, hpath, follow_append, h.follows]
    change root.follow dir _ = _
    split
    · rw [follow, hneed]
      rfl
    · rfl
  obtain ⟨n, hn, hfolder⟩ := Option.map_eq_some_iff.1 h.folder
  obtain ⟨es, rfl⟩ := standing_eq_folder.1 hfolder
  have hfind : root.find path = .ok (Node.folder es) := by
    simp only [find, bind_eq_ok]
    exact ⟨dir, hlocate, by rw [hn]⟩
  rw [Node.hasFolder, hfind]
  rfl

theorem LeadsTo.locate_join (h : root.LeadsTo path dir) {s : String} (hs : Path.IsName s) :
    root.locate (Path.join path s) = .ok (dir ++ [s]) :=
  (locate_join_eq_ok hs).2 ⟨dir, h.follows, h.folder, rfl⟩

/-- A file that is written in the folder of a path leaves the folder where it was, and everything
else as it was. -/
theorem LeadsTo.write (h : root.LeadsTo path dir) {s : String} (hs : Path.IsName s)
    {content : Content} (hw : root.write (Path.join path s) content = .ok root') :
    root'.LeadsTo path dir ∧ root'.standingAt? (dir ++ [s]) = some (.file content) ∧
      ∀ names, names ≠ dir ++ [s] → root'.standingAt? names = root.standingAt? names := by
  obtain ⟨dir', hdir', -, hnew, rfl⟩ := (write_join_eq_ok hs).1 hw
  obtain rfl : dir = dir' := Except.ok.inj (h.follows.symm.trans hdir')
  have helse : ∀ names, names ≠ dir ++ [s] →
      (root.put (dir ++ [s]) (.file content)).standingAt? names = root.standingAt? names :=
    fun names hne => standingAt?_put_of_ne (isLeaf_file content) h.folder hnew hne
  have hfolders : ∀ names, root.standingAt? names = some .folder →
      (root.put (dir ++ [s]) (.file content)).standingAt? names = some .folder := by
    intro names hnames
    rw [helse names fun hn => hnew (hn ▸ hnames), hnames]
  exact ⟨⟨follow_mono hfolders h.follows, hfolders _ h.folder⟩,
    standingAt?_put_self s _ h.folder, helse⟩

/-- A file that is written stands where its path leads. -/
theorem standingOf?_write_self {folder s : String} (hs : Path.IsName s) {content : Content}
    (hw : root.write (Path.join folder s) content = .ok root') :
    root'.standingOf? (Path.join folder s) = some (.file content) := by
  obtain ⟨dir, hfollows, hfolder, -, -⟩ := (write_join_eq_ok hs).1 hw
  obtain ⟨hleads, hnew, -⟩ := LeadsTo.write ⟨hfollows, hfolder⟩ hs hw
  rw [standingOf?, hleads.locate_join hs]
  exact hnew

/-- Everything starts in a folder, if a path leads anywhere. -/
theorem standingAt?_nil_of_locate (h : root.locate path = .ok names) :
    root.standingAt? [] = some .folder := by
  rw [locate] at h
  split at h
  next => cases h
  next hpath =>
    have hparts := Path.parts_ne_nil (by simpa using hpath)
    cases hp : Path.parts path with
    | nil => exact absurd hp hparts
    | cons p ps =>
      rw [hp, List.cons_append] at h
      cases p with
      | root => cases h
      | here | name s | up =>
        obtain ⟨u, hu, -⟩ := bind_eq_ok.1 h
        exact needFolder_eq_ok.1 hu

theorem standingAt?_nil_of_has (h : root.has path = true) :
    root.standingAt? [] = some .folder := by
  obtain ⟨n, hn⟩ := exists_of_isSome h
  obtain ⟨names, hnames, -⟩ := bind_eq_ok.1 hn
  exact standingAt?_nil_of_locate hnames

/-- The folders of a path are made, and nothing else changes. -/
theorem makeFolders_ok (hroot : root.standingAt? [] = some .folder)
    (h : root.makeFolders path = .ok root') : Grown root root' ∧ ∃ dir, root'.LeadsTo path dir := by
  obtain ⟨hgrown, dir, hdir, hfolder⟩ := makeFrom_ok hroot h
  exact ⟨hgrown, dir, hdir, hfolder⟩

end Files.Node

end FocusBilling
