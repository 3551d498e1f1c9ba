import FocusBilling.Input.RuleFile
import FocusBilling.Proofs.FieldReports
import FocusBilling.Proofs.Folders
import FocusBilling.Proofs.RuleOrder

/-!
# The rule files of a provider

A plan is made of what the files of its folder hold, and of nothing else: neither the order in which
the folder lists them nor anything beside the rule files counts.

* `Node.IsListing`, `Node.standingAt?_relist` : the entries of a folder, and a tree that lists one
  of its folders in another order;
* `Rule.ofContent`, `Plan.ruleContents` : the rule in a file that has been found, and the rule files
  of a folder by their names;
* `Plan.ofProvider_eq` : the plan of a provider, told by these alone;
* `Rule.TakenFrom` : what a rule takes from its document and from the name of its file;
* `Plan.ofProvider_listing` : **the plan of a provider is a function of what its folder holds.**

That a folder lists each name once matters: a file is read by its name, so of two entries of one
name the first would be read twice.
-/

namespace FocusBilling

namespace Path

/-- A name is a path of one part. -/
theorem IsName.parts {s : String} (h : IsName s) : Path.parts s = [.name s.toList] := by
  rw [parts_eq (Text.splitOn_of_not_mem h.slash_not_mem) h.head_ne]
  simp only [List.zipIdx_cons, List.zipIdx_nil, List.filterMap_cons, h.partOf]
  rfl

theorem IsName.fileName? {s : String} (h : IsName s) : Path.fileName? s = some s.toList := by
  rw [Path.fileName?, h.parts]
  rfl

/-- The last name of a path in a folder is that of the entry. -/
theorem fileName?_join (folder : String) {s : String} (hs : IsName s) :
    Path.fileName? (join folder s) = Path.fileName? s := by
  rw [hs.fileName?, Path.fileName?, parts_join folder hs, List.getLast?_concat]

theorem stem?_join (folder : String) {s : String} (hs : IsName s) :
    stem? (join folder s) = stem? s := by
  rw [stem?, fileName?_join folder hs, stem?]

end Path

namespace FileOrder

theorem ofPath?_join (folder : String) {s : String} (hs : Path.IsName s) :
    ofPath? (Path.join folder s) = ofPath? s := by
  rw [ofPath?, Path.stem?_join folder hs, ofPath?]

end FileOrder

namespace Files.Node

variable {root : Node} {dir : List String} {es others : List (String × Node)}

/-! ### The entries of a folder -/

/-- Entries as a folder lists them: each has a name, and no two have one name. -/
structure IsListing (es : List (String × Node)) : Prop where
  isName : ∀ e ∈ es, Path.IsName e.1
  nodup : (es.map (·.1)).Nodup

theorem IsListing.perm (h : IsListing es) (hperm : others.Perm es) : IsListing others where
  isName e he := h.isName e (hperm.mem_iff.1 he)
  nodup := (hperm.map _).nodup_iff.2 h.nodup

theorem IsListing.lookup_eq_some_iff (h : IsListing es) {name : String} {n : Node} :
    es.lookup name = some n ↔ (name, n) ∈ es := by
  rw [List.lookup_eq_some_iff]
  constructor
  · rintro ⟨before, after, rfl, -⟩
    exact List.mem_append_right _ List.mem_cons_self
  · intro hmem
    obtain ⟨before, after, rfl⟩ := List.append_of_mem hmem
    refine ⟨before, after, rfl, fun e he => bne_iff_ne.2 ?_⟩
    rintro rfl
    -- the name would be listed in front of the entry already
    have hnodup := h.nodup
    rw [List.map_append, List.nodup_append] at hnodup
    exact hnodup.2.2 _ (List.mem_map_of_mem he) _ List.mem_cons_self rfl

/-- What stands under a name does not depend on the order in which a folder lists its entries. -/
theorem IsListing.lookup_perm (h : IsListing es) (hperm : others.Perm es) (name : String) :
    others.lookup name = es.lookup name := by
  refine Option.ext fun n => ?_
  rw [(h.perm hperm).lookup_eq_some_iff, h.lookup_eq_some_iff, hperm.mem_iff]

theorem at?_append (n : Node) (names rest : List String) :
    n.at? (names ++ rest) = (n.at? names).bind (at? rest) := by
  induction names generalizing n with
  | nil => rfl
  | cons name names ih =>
    cases n with
    | file c => rfl
    | folder es =>
      simp only [List.cons_append, at?, Option.bind_assoc]
      exact congrArg _ (funext ih)

/-! ### A folder that is listed in another order -/

theorem at?_put_self {m new : Node} (h : root.at? dir = some m) :
    (root.put dir new).at? dir = some new := by
  induction dir generalizing root with
  | nil => rw [put_nil, at?]
  | cons d dir ih =>
    cases root with
    | file c => cases h
    | folder es =>
      obtain ⟨m', hm', hd⟩ := Option.bind_eq_some_iff.1 h
      rw [put_folder_cons, at?, lookup_putEntry, if_pos rfl, hm']
      exact ih hd

/-- A node that is put in the place of one that holds the same changes nothing. -/
theorem standingAt?_put_same {m new : Node} (h : root.at? dir = some m)
    (hsame : ∀ names, new.standingAt? names = m.standingAt? names) (names : List String) :
    (root.put dir new).standingAt? names = root.standingAt? names := by
  induction dir generalizing root names with
  | nil =>
    obtain rfl := Option.some.inj h
    rw [put_nil, hsame]
  | cons d dir ih =>
    cases root with
    | file c => cases h
    | folder es =>
      obtain ⟨m', hm', hd⟩ := Option.bind_eq_some_iff.1 h
      rw [put_folder_cons]
      cases names with
      | nil => rfl
      | cons other rest =>
        rw [standingAt?_folder_cons, standingAt?_folder_cons, lookup_putEntry]
        split
        next ho =>
          subst ho
          rw [hm']
          exact ih hd rest
        next => rfl

/-- A folder that is listed in another order holds what it held. -/
theorem standingAt?_relist (hes : root.at? dir = some (folder es)) (h : IsListing es)
    (hperm : others.Perm es) (names : List String) :
    (root.put dir (folder others)).standingAt? names = root.standingAt? names := by
  refine standingAt?_put_same hes (fun names => ?_) names
  cases names with
  | nil => rfl
  | cons name rest =>
    rw [standingAt?_folder_cons, standingAt?_folder_cons, h.lookup_perm hperm]

/-- Where a path leads is settled by the folders alone. -/
theorem locate_mono {root' : Node} {path : String} {names : List String}
    (h : ∀ names, root.standingAt? names = some .folder → root'.standingAt? names = some .folder)
    (hl : root.locate path = .ok names) : root'.locate path = .ok names := by
  rw [locate] at hl ⊢
  split at hl
  next => cases hl
  next hpath =>
    rw [if_neg hpath]
    exact follow_mono h hl

theorem leadsTo_of_locate {path : String} (h : root.locate path = .ok dir)
    (hdir : root.standingAt? dir = some .folder) : root.LeadsTo path dir := by
  refine ⟨?_, hdir⟩
  rw [locate] at h
  split at h
  next => cases h
  next =>
    rw [follow_append] at h
    obtain ⟨led, hled, h⟩ := bind_eq_ok.1 h
    obtain rfl : led = dir := by
      split at h
      · obtain ⟨_, _, h⟩ := bind_eq_ok.1 h
        exact Except.ok.inj h
      · exact Except.ok.inj h
    exact hled

theorem entriesAt?_of_locate {path : String} (h : root.locate path = .ok dir)
    (hes : root.at? dir = some (folder es)) : root.entriesAt? path = some es := by
  have hfind : root.find path = .ok (folder es) := by
    simp only [find, bind_eq_ok]
    exact ⟨dir, h, by rw [hes]⟩
  rw [entriesAt?, hfind]

/-- The file under a name that a folder lists. -/
theorem find_join {path name : String} {n : Node} (h : root.LeadsTo path dir)
    (hes : root.at? dir = some (folder es)) (hname : Path.IsName name)
    (hn : es.lookup name = some n) : root.find (Path.join path name) = .ok n := by
  have hat : root.at? (dir ++ [name]) = some n := by
    rw [at?_append, hes, Option.bind_some, at?, hn]
    rfl
  simp only [find, bind_eq_ok]
  exact ⟨_, h.locate_join hname, by rw [hat]⟩

end Files.Node

open Files (Node Content)
open Files.Node (IsListing)

/-! ### The rule in a file -/

namespace Rule

/-- What a rule takes from its document and from the name of its file.  What the document gives
counts; of the order, and of the name, what it omits is told by the file. -/
structure TakenFrom (file : String) (d : RuleDraft) (r : Rule) : Prop where
  /-- The dimension is that of the document, else that of the name of the file, else zero. -/
  dimension : r.dimensionId =
    d.dimensionId.getD (((FileOrder.ofPath? file).map (·.dimension)).getD 0)
  /-- The priority is that of the document, else that of the name of the file, else zero. -/
  priority : r.priority = d.priority.getD (((FileOrder.ofPath? file).map (·.step)).getD 0)
  /-- The name is that of the document, else that of the file without its extension. -/
  name : some r.planName = (d.planName <|> Path.stem? file)
  focusColumn : d.focusColumn.bind FocusColumn.ofName? = some r.focusColumn
  kind : d.conversionType.bind RuleKind.ofName? = some r.kind
  source : r.sourceColumn = RuleDraft.filled d.sourceColumn
  args : RuleDraft.argsOf r.kind d.conversionArgs = .ok r.args
  columnPrefix : r.columnPrefix = RuleDraft.filled d.columnPrefix

theorem takenFrom_of_validate {folder file : String} {d : RuleDraft} {r : Rule}
    (hfile : Path.IsName file)
    (h : (d.withFileName (Path.join folder file)).validate = .ok r) : r.TakenFrom file d := by
  have hstem : Path.stem? file = some (String.ofList (Path.cut file.toList).1) := by
    rw [Path.stem?, hfile.fileName?, Option.map_some]
  obtain ⟨hcolumn, hkind, hsource, hargs, hname, hprefix, hdimension, hpriority⟩ :=
    RuleDraft.validate_eq_ok.1 h
  simp only [RuleDraft.withFileName, RuleDraft.title, FileOrder.ofPath?_join folder hfile,
    Path.stem?_join folder hfile] at hcolumn hkind hsource hargs hname hprefix hdimension hpriority
  exact {
    dimension := by
      rw [← hdimension]
      cases d.dimensionId <;> rfl
    priority := by
      rw [← hpriority]
      cases d.priority <;> rfl
    name := by
      rw [← hname, hstem]
      cases d.planName <;> rfl
    focusColumn := RuleDraft.checkFocusColumn_eq_ok.1 hcolumn
    kind := RuleDraft.checkKind_eq_ok.1 hkind
    source := RuleDraft.eq_filled_of_checkSource hsource
    args := mapError_eq_ok.1 hargs
    columnPrefix := hprefix.symm }

/-- The rule in a file that has been found at a path. -/
def ofContent (path : String) : Content → Except InputError Rule
  | .text s => ofFileText path s
  | .binary _ | .table _ => .error (.fileUnreadable path .notText)

/-- The rule in a file of a folder. -/
theorem ofFile_join {root : Node} {path name : String} {dir : List String}
    {es : List (String × Node)} {c : Content} (h : root.LeadsTo path dir)
    (hes : root.at? dir = some (.folder es)) (hname : Path.IsName name)
    (hc : es.lookup name = some (.file c)) :
    ofFile root (Path.join path name) = ofContent (Path.join path name) c := by
  rw [ofFile, Node.readText, Node.find_join h hes hname hc]
  cases c <;> rfl

/-- A file that holds a rule is a text with a draft in it, from which the rule is taken. -/
theorem takenFrom_of_ofContent {folder name : String} {c : Content} {r : Rule}
    (hname : Path.IsName name) (h : ofContent (Path.join folder name) c = .ok r) :
    ∃ s d, c = .text s ∧ RuleDraft.ofText? s = some d ∧ r.TakenFrom name d := by
  cases c with
  | binary | table => cases h
  | text s =>
    rw [ofContent, ofFileText] at h
    split at h
    next => cases h
    next d hd => exact ⟨s, d, rfl, hd, takenFrom_of_validate hname (mapError_eq_ok.1 h)⟩

end Rule

namespace Plan

variable {root : Node} {folder provider : String} {dir : List String}
  {es others : List (String × Node)}

/-! ### The rule files of a folder -/

/-- The content of an entry that is a rule file, under its name. -/
def ruleContent? : String × Node → Option (String × Content)
  | (name, .file c) => if Rule.isFileName name then some (name, c) else none
  | (_, .folder _) => none

/-- The rule files among entries with their contents, in the order of their names. -/
def ruleContents (es : List (String × Node)) : List (String × Content) :=
  (es.filterMap ruleContent?).mergeSort fun a b => a.1 ≤ b.1

theorem ruleContent?_eq_some {e : String × Node} {f : String × Content} :
    ruleContent? e = some f ↔ e = (f.1, .file f.2) ∧ Rule.isFileName f.1 = true := by
  obtain ⟨name, c | es⟩ := e
  · rw [ruleContent?]
    split
    next h =>
      rw [Option.some.injEq]
      constructor
      · rintro rfl
        exact ⟨rfl, h⟩
      · rintro ⟨heq, -⟩
        cases heq
        rfl
    next h =>
      refine iff_of_false nofun ?_
      rintro ⟨heq, hf⟩
      cases heq
      exact h hf
  · exact iff_of_false nofun (by rintro ⟨⟨⟩, -⟩)

theorem mem_ruleContents {name : String} {c : Content} :
    (name, c) ∈ ruleContents es ↔ (name, .file c) ∈ es ∧ Rule.isFileName name = true := by
  rw [ruleContents, List.mem_mergeSort, List.mem_filterMap]
  simp only [ruleContent?_eq_some]
  constructor
  · rintro ⟨_, he, rfl, h⟩
    exact ⟨he, h⟩
  · rintro ⟨he, h⟩
    exact ⟨_, he, rfl, h⟩

/-- The names of rule files are those of entries. -/
theorem nodup_ruleContents (h : IsListing es) : ((ruleContents es).map (·.1)).Nodup := by
  have hdistinct : (es.filterMap ruleContent?).Pairwise fun a b => a.1 ≠ b.1 := by
    refine (List.pairwise_map.1 h.nodup).filterMap _ fun a b hne f hf g hg heq => hne ?_
    rw [(ruleContent?_eq_some.1 hf).1, (ruleContent?_eq_some.1 hg).1]
    exact heq
  rw [ruleContents, ((List.mergeSort_perm _ _).map _).nodup_iff]
  exact List.pairwise_map.2 hdistinct

/-- Rule files come in the order of their names, each once. -/
theorem sorted_ruleContents (h : IsListing es) :
    (ruleContents es).Pairwise fun a b => a.1 < b.1 := by
  have hle : (ruleContents es).Pairwise fun a b => a.1 ≤ b.1 :=
    (List.pairwise_mergeSort (fun a b c hab hbc => by
      rw [decide_eq_true_eq] at *
      exact hab.trans hbc) (fun a b => by
      rw [Bool.or_eq_true, decide_eq_true_eq, decide_eq_true_eq]
      exact le_total a.1 b.1) _).imp of_decide_eq_true
  have hne := List.pairwise_map.1 (nodup_ruleContents h)
  exact (hle.and hne).imp fun ⟨hle, hne⟩ => lt_of_le_of_ne hle hne

theorem ruleContents_perm (h : IsListing es) (hperm : others.Perm es) :
    ruleContents others = ruleContents es := by
  refine List.Perm.eq_of_pairwise (fun a b _ _ hab hba => absurd hab hba.asymm)
    (sorted_ruleContents (h.perm hperm)) (sorted_ruleContents h) ?_
  calc ruleContents others
    _ |>.Perm (others.filterMap ruleContent?) := List.mergeSort_perm _ _
    _ |>.Perm (es.filterMap ruleContent?) := hperm.filterMap _
    _ |>.Perm (ruleContents es) := (List.mergeSort_perm _ _).symm

theorem ruleFiles_eq : ruleFiles es = (ruleContents es).map (·.1) := by
  rw [ruleContents, List.map_mergeSort (s := fun a b => decide (a ≤ b)) fun _ _ _ _ => rfl,
    ruleFiles, List.map_filterMap]
  refine congrArg (List.mergeSort · _) (List.filterMap_congr fun e _ => ?_)
  obtain ⟨name, c | es⟩ := e
  · cases h : Rule.isFileName name <;> simp [ruleContent?, Node.isFolder, h]
  · rfl

/-- The plan of a provider, told by what its rule files hold. -/
theorem ofProvider_eq (hdir : root.locate (Path.join folder provider) = .ok dir)
    (hes : root.at? dir = some (.folder es)) (h : IsListing es) :
    ofProvider root folder provider =
      ofRules provider <$> (ruleContents es).mapM fun f =>
        Rule.ofContent (Path.join (Path.join folder provider) f.1) f.2 := by
  have hleads : root.LeadsTo (Path.join folder provider) dir :=
    Node.leadsTo_of_locate hdir (by rw [Node.standingAt?, hes]; rfl)
  have hpaths : rulePaths root folder provider =
      .ok ((ruleContents es).map fun f => Path.join (Path.join folder provider) f.1) := by
    simp only [rulePaths, Node.entriesAt?_of_locate hdir hes, ruleFiles_eq, List.map_map]
    rfl
  have hread : ((ruleContents es).map fun f => Path.join (Path.join folder provider) f.1).mapM
      (Rule.ofFile root) = (ruleContents es).mapM fun f =>
        Rule.ofContent (Path.join (Path.join folder provider) f.1) f.2 := by
    rw [List.mapM_map]
    refine mapM_congr fun f hf => ?_
    have hmem := (mem_ruleContents.1 hf).1
    exact Rule.ofFile_join hleads hes (h.isName _ hmem) (h.lookup_eq_some_iff.2 hmem)
  rw [ofProvider, hpaths, ← hread]
  rfl

/-- **The plan of a provider is a function of what its folder holds.**  In whatever order the folder
lists its entries, the plan or the error is the same.  A plan holds one rule for each rule file and
no other, each taken from the document of its file and, where that leaves the order open, from the
name of the file; the rules are in order, and those of one key are in the order of the names of
their files.  An error is that of the first file in the order of names that holds no good rule. -/
theorem ofProvider_listing (hdir : root.locate (Path.join folder provider) = .ok dir)
    (hes : root.at? dir = some (.folder es)) (hlisting : IsListing es) :
    (∀ others, others.Perm es →
      ofProvider (root.put dir (.folder others)) folder provider =
        ofProvider root folder provider) ∧
    ∃ files : List (String × Content),
      (files.Pairwise fun a b => a.1 < b.1) ∧
      (∀ name c, (name, c) ∈ files ↔ (name, .file c) ∈ es ∧ Rule.isFileName name = true) ∧
      (∀ plan, ofProvider root folder provider = .ok plan →
        plan.provider = provider ∧ ∃ rules,
          List.Forall₂ (fun file rule => ∃ s d, file.2 = .text s ∧
            RuleDraft.ofText? s = some d ∧ rule.TakenFrom file.1 d) files rules ∧
          plan.rules.Perm rules ∧ plan.rules.Pairwise (fun a b => a.key ≤ b.key) ∧
          ∀ k, Rule.ofKey k plan.rules = Rule.ofKey k rules) ∧
      ∀ e, ofProvider root folder provider = .error e ↔
        ∃ before bad after, files = before ++ bad :: after ∧
          (∀ file ∈ before, ∃ r,
            Rule.ofContent (Path.join (Path.join folder provider) file.1) file.2 = .ok r) ∧
          Rule.ofContent (Path.join (Path.join folder provider) bad.1) bad.2 = .error e := by
  have hplan := ofProvider_eq hdir hes hlisting
  refine ⟨fun others hperm => ?_, ruleContents es, sorted_ruleContents hlisting,
    fun _ _ => mem_ruleContents, fun plan h => ?_, fun e => ?_⟩
  · have hsame := Node.standingAt?_relist hes hlisting hperm
    have hdir' := Node.locate_mono (fun names h => (hsame names).trans h) hdir
    rw [ofProvider_eq hdir' (Node.at?_put_self hes) (hlisting.perm hperm), hplan,
      ruleContents_perm hlisting hperm]
  · rw [hplan] at h
    obtain ⟨rules, hrules, rfl⟩ := map_eq_ok.1 h
    have hnames : ∀ file ∈ ruleContents es, Path.IsName file.1 := fun file hfile =>
      hlisting.isName _ (mem_ruleContents.1 hfile).1
    refine ⟨rfl, rules, ?_, perm_ofRules, sorted_ofRules, ofKey_ofRules⟩
    exact ((List.forall₂_and_left _ _).2 ⟨hnames, mapM_eq_ok.1 hrules⟩).imp fun _ _ ⟨hname, hr⟩ =>
      Rule.takenFrom_of_ofContent hname hr
  · rw [hplan, map_eq_error, mapM_eq_error]

/-- A document that leaves the order of its rule open. -/
def regionDocument : String := "focus_column: Region\ncolumn: r\nconversion_type: rename_column\n"

/-- Entries of which two are rule files. -/
def regionEntries : List (String × Node) :=
  [("D002_S007.yaml", .file (.text regionDocument)), ("notes.txt", .file (.text "nothing")),
    ("old.yaml", .folder []),
    ("d001_s003.YML", .file (.text (regionDocument ++ "priority: 5\n")))]

/-- The folder of a provider that is listed in two orders: the plan is the same, and holds a rule
whose order is that in the name of its file. -/
theorem ofProvider_listing_regions :
    let root (es : List (String × Node)) : Node := .folder [("conf", .folder [("aws", .folder es)])]
    ∃ plan, ofProvider (root regionEntries) "conf" "aws" = .ok plan ∧
      ofProvider (root regionEntries.reverse) "conf" "aws" = .ok plan ∧
      ∃ r ∈ plan.rules, r.dimensionId = 2 ∧ r.priority = 7 := by
  intro root
  have hlisting : IsListing regionEntries := by
    refine ⟨fun e he => ?_, by decide⟩
    simp only [regionEntries, List.mem_cons, List.not_mem_nil, or_false] at he
    rcases he with rfl | rfl | rfl | rfl <;> constructor <;> decide
  have hdir : (root regionEntries).locate (Path.join "conf" "aws") = .ok ["conf", "aws"] := by
    decide +kernel
  obtain ⟨horder, files, -, hmem, hok, herror⟩ := ofProvider_listing hdir rfl hlisting
  -- both rule files hold a good rule, so that there is no error
  have hgood : ∀ file ∈ files, ∃ r,
      Rule.ofContent (Path.join (Path.join "conf" "aws") file.1) file.2 = .ok r := by
    rintro ⟨name, c⟩ hfile
    obtain ⟨he, hname⟩ := (hmem name c).1 hfile
    simp only [regionEntries, List.mem_cons, List.not_mem_nil, or_false, Prod.mk.injEq,
      Node.file.injEq, reduceCtorEq, and_false, false_or] at he
    rcases he with ⟨rfl, rfl⟩ | ⟨rfl, rfl⟩ | ⟨rfl, rfl⟩
    · exact exists_of_isSome (by decide +kernel)
    · exact absurd hname (by decide)
    · exact exists_of_isSome (by decide +kernel)
  cases hplan : ofProvider (root regionEntries) "conf" "aws" with
  | error e =>
    obtain ⟨before, bad, after, hfiles, -, hbad⟩ := (herror e).1 hplan
    obtain ⟨r, hr⟩ := hgood bad (by simp [hfiles])
    cases hbad.symm.trans hr
  | ok plan =>
    obtain ⟨-, rules, htaken, hperm, -⟩ := hok plan hplan
    refine ⟨plan, rfl, (horder _ regionEntries.reverse_perm).trans hplan, ?_⟩
    obtain ⟨⟨i, hi⟩, hget⟩ := List.mem_iff_get.1 ((hmem "D002_S007.yaml" _).2
      ⟨List.mem_cons_self, by decide⟩)
    have hi' : i < rules.length := htaken.length_eq ▸ hi
    obtain ⟨s, d, hs, hd, hrule⟩ := htaken.get hi hi'
    rw [hget] at hs hrule
    -- the document leaves the order open
    obtain ⟨hdimension, hpriority⟩ : d.dimensionId = none ∧ d.priority = none := by
      have hdraft : (RuleDraft.ofText? regionDocument).map (fun d => (d.dimensionId, d.priority)) =
          some (none, none) := by
        decide +kernel
      rw [Content.text.inj hs, hd] at hdraft
      exact Prod.mk.inj (Option.some.inj hdraft)
    refine ⟨_, hperm.mem_iff.2 (List.get_mem rules ⟨i, hi'⟩), ?_, ?_⟩
    · rw [hrule.dimension, hdimension]
      decide +kernel
    · rw [hrule.priority, hpriority]
      decide +kernel

end Plan

end FocusBilling
