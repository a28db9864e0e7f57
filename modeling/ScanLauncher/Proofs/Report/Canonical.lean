import ScanLauncher.Proofs.Files.Passing
import ScanLauncher.Proofs.Report.Listing

namespace ScanLauncher

private theorem Text.codes_lt_of_le {a b : Text} (hle : a.le b = true) (hne : a ≠ b) : a.codes < b.codes := by
  refine Decidable.byContradiction fun hnot => hne (le_antisymm hle ?_)
  rw [le, Bool.not_eq_true', lt, List.lex_eq_false_iff_ge]
  exact hnot

/-- A regular file stands directly inside a directory, under a name. -/
def Tree.HoldsFile (tree : Tree) (place : Location) (name : Text) : Prop :=
  ∃ entry, tree.get? (place ++ [name]) = some entry ∧ entry.isRegular = true

namespace Tree

variable {tree : Tree}

private theorem nodup_names (h : tree.IsDistinct) (place : Location) :
    ((tree.children place).map Prod.fst).Nodup := by
  refine (nodup_children h place).map_on ?_
  rintro ⟨name, entry⟩ hentry ⟨_, entry'⟩ hentry' rfl
  rw [mem_children_iff h] at hentry hentry'
  rw [Option.some.inj (hentry.symm.trans hentry')]

end Tree

namespace Report

/-- The names of the regular files directly inside a directory, each of them once and in the order of their
code points. -/
structure Lists (tree : Tree) (place : Location) (names : List Text) : Prop where
  increasing : names.Pairwise fun a b => a.codes < b.codes
  mem_iff : ∀ name, name ∈ names ↔ tree.HoldsFile place name

section Lists

variable {tree tree' : Tree} {place place' : Location} {names names' : List Text}

/-- There is one such list only, and the names of the files decide what it is. -/
theorem Lists.eq (h : Lists tree place names) (h' : Lists tree' place' names')
    (hsame : ∀ name, tree'.HoldsFile place' name ↔ tree.HoldsFile place name) : names' = names := by
  have hperm : names'.Perm names := by
    have hne {names : List Text} (h : names.Pairwise fun a b => a.codes < b.codes) : names.Nodup := by
      refine List.Pairwise.imp ?_ h
      rintro a _ hlt rfl
      exact List.lt_irrefl a.codes hlt
    rw [List.perm_ext_iff_of_nodup (hne h'.increasing) (hne h.increasing)]
    intro name
    rw [h'.mem_iff, h.mem_iff, hsame]
  refine hperm.eq_of_pairwise (fun a b _ _ hab hba => ?_) h'.increasing h.increasing
  exact absurd hba (List.lt_asymm hab)

theorem lists_regularNames (h : tree.IsDistinct) (place : Location) :
    Lists tree place (regularNames (tree.children place)) := by
  have hmem (name : Text) :
      name ∈ regularNames (tree.children place) ↔ tree.HoldsFile place name := by
    rw [regularNames, List.mem_mergeSort, List.mem_map]
    constructor
    · rintro ⟨⟨_, entry⟩, hentry, rfl⟩
      obtain ⟨hchild, hregular⟩ := List.mem_filter.mp hentry
      exact ⟨entry, (Tree.mem_children_iff h).mp hchild, hregular⟩
    · rintro ⟨entry, hentry, hregular⟩
      exact ⟨(name, entry), List.mem_filter.mpr ⟨(Tree.mem_children_iff h).mpr hentry, hregular⟩, rfl⟩
  have hsorted : (regularNames (tree.children place)).Pairwise fun a b => a.le b = true :=
    List.pairwise_mergeSort (fun a b c => @Text.le_trans a b c) Text.le_total _
  have hnodup : (regularNames (tree.children place)).Nodup :=
    (List.mergeSort_perm _ _).nodup_iff.mpr
      ((Tree.nodup_names h place).sublist (List.filter_sublist.map _))
  exact ⟨(hsorted.and hnodup).imp fun h => Text.codes_lt_of_le h.1 h.2, hmem⟩

end Lists

section World

variable {w : World}

private theorem list_world (path : Path) (w : World) : (list path w).2 = { w with log := (list path w).2.log } := by
  have hscan : (scan path w).2 = w := by
    simp only [scan, Act.bind_apply, Act.get_apply]
    cases w.faults.list with
    | none => cases w.files.list path.text <;> rfl
    | some effect => cases effect <;> rfl
  rcases hresult : scan path w with ⟨failure | entries, w'⟩
  · obtain rfl : w' = w := by rw [← hscan, hresult]
    by_cases habsent : isAbsence failure = true
    · simp [list, hresult, habsent, World.note]
    · simp [list, hresult, habsent]
  · obtain rfl : w' = w := by rw [← hscan, hresult]
    simp [list, hresult, World.note]

theorem list_of_directory (hfaults : w.faults.list = none) {path : Path} {place : Location}
    (hplace : w.files.locate true path.text = .ok place)
    (hdirectory : w.files.tree.get? place = some .directory) :
    (list path w).1 = .ok ((regularNames (w.files.tree.children place)).map (ReportFile.mk path.name)) := by
  have hentries : w.files.list path.text = .ok (w.files.tree.children place) :=
    FileSystem.list_eq_ok.mpr ⟨place, FileSystem.lookup_eq_ok.mpr ⟨hplace, hdirectory⟩, rfl⟩
  rw [list_eq, scan_eq hfaults, hentries]
  rfl

private theorem list_of_ne_directory (hfaults : w.faults.list = none) {path : Path} {place : Location}
    {left : List Text} (hpast : w.files.LeadsPast path.text place left)
    (hplace : w.files.tree.get? place ≠ some .directory) : (list path w).1 = .ok [] := by
  rw [list_eq, scan_eq hfaults]
  rcases hpast.list_eq hplace with hnone | hnone <;> rw [hnone] <;> rfl

/-- Where a path leads to a directory, the reports are the regular files that stand directly in it, each of
them once and in the order of the code points of their names. Neither the order in which the directory is
read nor anything but these names matters. Where the path, or what it leads through, is missing or no
directory, there are no reports. Nothing is changed but the log. -/
theorem list_canonical (hfaults : w.faults.list = none) (hdistinct : w.files.tree.IsDistinct)
    (path : Path) :
    (∀ place, w.files.LeadsPast path.text place [] → w.files.tree.get? place = some .directory →
      ∃ names, Lists w.files.tree place names ∧
        (list path w).1 = .ok (names.map (ReportFile.mk path.name)) ∧
        (∀ entries, entries.Perm (w.files.tree.children place) → regularNames entries = names) ∧
        ∀ (w' : World) (place' : Location), w'.faults.list = none → w'.files.tree.IsDistinct →
          w'.files.LeadsPast path.text place' [] → w'.files.tree.get? place' = some .directory →
          (∀ name, w'.files.tree.HoldsFile place' name ↔ w.files.tree.HoldsFile place name) →
          (list path w').1 = (list path w).1) ∧
      (∀ place left, w.files.LeadsPast path.text place left →
        w.files.tree.get? place ≠ some .directory → (list path w).1 = .ok []) ∧
      (list path w).2 = { w with log := (list path w).2.log } := by
  refine ⟨fun place hpast hplace => ?_, fun _ _ => list_of_ne_directory hfaults, list_world path w⟩
  have hlist := list_of_directory hfaults (FileSystem.leadsPast_nil_iff.mp hpast) hplace
  refine ⟨_, lists_regularNames hdistinct place, hlist, fun entries hentries => ?_, ?_⟩
  · exact Text.mergeSort_eq_of_perm ((hentries.filter _).map _)
  · intro w' place' hfaults' hdistinct' hpast' hplace' hsame
    rw [hlist, list_of_directory hfaults' (FileSystem.leadsPast_nil_iff.mp hpast') hplace',
      (lists_regularNames hdistinct place).eq (lists_regularNames hdistinct' place') hsame]

end World

/-- A directory with a little of everything; one of the names is a byte that is no text. -/
def mixedTree : Tree where
  entries :=
    [(["reports"], .directory), (["reports", "😀"], .file [0] true), (["reports", "link"], .link "a"),
      (["reports", ⟨[.ofStray 0xFF]⟩], .file [] false), (["reports", "pipe"], .fifo),
      (["reports", "inner"], .directory), (["reports", "inner", "b"], .file [] false),
      (["reports", "a"], .file [] false)]

def mixedWorld : World where
  files := { tree := mixedTree, cwd := [] }

private theorem passes_mixedTree :
    FileSystem.Passes mixedTree 40 [] ["reports", "a", "b"] ["reports", "a"] ["b"] := by
  have hroot : mixedTree.get? [] = some .directory := rfl
  have hreports : mixedTree.get? ["reports"] = some .directory := by decide
  have ha : mixedTree.get? ["reports", "a"] = some (.file [] false) := by decide
  refine .entry hroot (by decide) (by decide) (by decide) (fun target => ?_) ?_
  · exact fun h => nomatch hreports.symm.trans h
  refine .entry hreports (by decide) (by decide) (by decide) (fun target => ?_) .here
  exact fun h => nomatch ha.symm.trans h

/-- A byte that is no text comes before a character beyond the surrogates, and behind a file there are no
reports. -/
theorem list_canonical_mixedWorld :
    (mixedWorld.faults.list = none ∧ mixedWorld.files.tree.IsDistinct) ∧
      (list (.ofText "reports") mixedWorld).1 =
        .ok [⟨"reports", "a"⟩, ⟨"reports", ⟨[.ofStray 0xFF]⟩⟩, ⟨"reports", "😀"⟩] ∧
      (list (.ofText "reports/a/b") mixedWorld).1 = .ok [] := by
  have hdistinct : mixedWorld.files.tree.IsDistinct := by
    rw [Tree.IsDistinct]
    decide
  obtain ⟨hnames, _, _⟩ := list_canonical (w := mixedWorld) rfl hdistinct (.ofText "reports")
  obtain ⟨_, hnone, _⟩ := list_canonical (w := mixedWorld) rfl hdistinct (.ofText "reports/a/b")
  have hplace : mixedWorld.files.locate true (Path.ofText "reports").text = .ok ["reports"] := by cbv
  obtain ⟨names, _, hlist, horder, _⟩ :=
    hnames ["reports"] (FileSystem.leadsPast_nil_iff.mpr hplace) (by decide)
  have hread : regularNames (mixedWorld.files.tree.children ["reports"]) =
      [Text.ofString "a", ⟨[.ofStray 0xFF]⟩, Text.ofString "😀"] := by cbv
  refine ⟨⟨rfl, hdistinct⟩, ?_, ?_⟩
  · rw [hlist, ← horder _ (.refl _), hread]
    rfl
  · refine hnone ["reports", "a"] ["b"] ⟨"reports/a/b", ?_, rfl, ?_, ?_⟩ (by decide)
    · cbv
    · cbv
    · exact passes_mixedTree

end Report

end ScanLauncher
