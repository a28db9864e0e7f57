import Mathlib.Data.List.Nodup
import ScanLauncher.Proofs.Action
import ScanLauncher.Proofs.Files.Names
import ScanLauncher.Proofs.Files.Same
import ScanLauncher.Proofs.Text.Order
import ScanLauncher.Report.Listing

namespace ScanLauncher

namespace Text

theorem mergeSort_eq_of_perm {names names' : List Text} (h : names.Perm names') :
    names.mergeSort le = names'.mergeSort le := by
  have hsorted (names : List Text) : (names.mergeSort le).Pairwise fun a b => a.le b = true :=
    List.pairwise_mergeSort (fun a b c => @le_trans a b c) le_total names
  have hperm : (names.mergeSort le).Perm (names'.mergeSort le) :=
    (List.mergeSort_perm names le).trans (h.trans (List.mergeSort_perm names' le).symm)
  exact hperm.eq_of_pairwise (fun a b _ _ => le_antisymm) (hsorted names) (hsorted names')

end Text

namespace Tree

/-- One entry at most stands in a place. -/
def IsDistinct (tree : Tree) : Prop := (tree.entries.map Prod.fst).Nodup

theorem mem_entries_iff {tree : Tree} (h : tree.IsDistinct) {loc : Location} (hloc : loc ≠ [])
    {entry : Entry} : (loc, entry) ∈ tree.entries ↔ tree.get? loc = some entry := by
  have hget : tree.get? loc = tree.entries.lookup loc := by simp [get?, hloc]
  rw [hget, List.lookup_eq_some_iff]
  constructor
  · intro hmem
    obtain ⟨before, behind, hentries⟩ := List.append_of_mem hmem
    refine ⟨before, behind, hentries, fun other hother => ?_⟩
    rw [IsDistinct, hentries, List.map_append, List.map_cons, List.nodup_append] at h
    have hne := h.2.2 other.1 (List.mem_map_of_mem hother) loc (.head _)
    exact bne_iff_ne.mpr (Ne.symm hne)
  · rintro ⟨before, behind, hentries, _⟩
    simp [hentries]

/-- What makes an entry of the tree one inside a directory. -/
theorem child_eq_some_iff {loc place : Location} {entry found : Entry} {name : Text} :
    (match place.getLast? with
      | some name => if place.dropLast == loc then some (name, entry) else none
      | none => none) = some (name, found) ↔ place = loc ++ [name] ∧ entry = found := by
  rcases List.eq_nil_or_concat place with rfl | ⟨front, last, rfl⟩
  · simp
  · by_cases hfront : front = loc
    · simp [hfront]
    · simp [hfront]

theorem mem_children_iff {tree : Tree} (h : tree.IsDistinct) {loc : Location} {name : Text}
    {entry : Entry} :
    (name, entry) ∈ tree.children loc ↔ tree.get? (loc ++ [name]) = some entry := by
  rw [← mem_entries_iff h (List.append_ne_nil_of_right_ne_nil loc (List.cons_ne_nil name []))]
  rw [children, List.mem_filterMap]
  constructor
  · rintro ⟨⟨place, entry'⟩, hmem, hchild⟩
    obtain ⟨rfl, rfl⟩ := child_eq_some_iff.mp hchild
    exact hmem
  · intro hmem
    exact ⟨(loc ++ [name], entry), hmem, child_eq_some_iff.mpr ⟨rfl, rfl⟩⟩

theorem nodup_children {tree : Tree} (h : tree.IsDistinct) (loc : Location) :
    (tree.children loc).Nodup := by
  refine (h.of_map _).filterMap ?_
  rintro ⟨place, entry⟩ ⟨place', entry'⟩ ⟨name, found⟩ hfound hfound'
  obtain ⟨rfl, rfl⟩ := child_eq_some_iff.mp hfound
  obtain ⟨rfl, rfl⟩ := child_eq_some_iff.mp hfound'
  rfl

end Tree

theorem FileSystem.isStable_isDistinct : IsStable fun fs => fs.tree.IsDistinct where
  filter fs keep h := h.sublist (List.filter_sublist.map _)
  put fs follow path loc entry _ h _ := by
    have hkept : ((fs.tree.entries.filter fun e => e.1 != loc).map Prod.fst).Nodup :=
      h.sublist (List.filter_sublist.map _)
    simp only [Tree.IsDistinct, Tree.put, List.map_append, List.map_cons, List.map_nil]
    refine List.nodup_append.mpr ⟨hkept, List.nodup_singleton loc, ?_⟩
    intro other hother last hlast
    obtain rfl := List.mem_singleton.mp hlast
    obtain ⟨e, he, rfl⟩ := List.mem_map.mp hother
    exact bne_iff_ne.mp (List.mem_filter.mp he).2

theorem FileSystem.list_eq_ok {fs : FileSystem} {path : Text} {entries : List (Text × Entry)} :
    fs.list path = .ok entries ↔
      ∃ place, fs.lookup true path = .ok (place, .directory) ∧ fs.tree.children place = entries := by
  unfold list
  cases hlookup : fs.lookup true path with
  | error fault => simp [bind, Except.bind]
  | ok found =>
    obtain ⟨place, entry⟩ := found
    cases entry <;> simp [bind, Except.bind, pure, Except.pure]

namespace Report

private theorem regularNames_congr {tree tree' : Tree} (h : tree.IsDistinct) (h' : tree'.IsDistinct)
    (hsame : ∀ loc, tree'.get? loc = tree.get? loc) (loc : Location) :
    regularNames (tree'.children loc) = regularNames (tree.children loc) := by
  have hperm : (tree'.children loc).Perm (tree.children loc) := by
    rw [List.perm_ext_iff_of_nodup (Tree.nodup_children h' loc) (Tree.nodup_children h loc)]
    rintro ⟨name, entry⟩
    rw [Tree.mem_children_iff h', Tree.mem_children_iff h, hsame]
  exact Text.mergeSort_eq_of_perm ((hperm.filter _).map _)

theorem scan_eq {w : World} (hfaults : w.faults.list = none) (path : Path) :
    (scan path w).1 = (w.files.list path.text).mapError (Failure.ofPathFault path.text) := by
  simp only [scan, Act.bind_apply, Act.get_apply, hfaults]
  cases w.files.list path.text <;> rfl

/-- The outcome of looking into a directory is as good as its regular names. -/
theorem list_eq (path : Path) (w : World) :
    (list path w).1 = match (scan path w).1 with
      | .ok entries => .ok ((regularNames entries).map fun name => ⟨path.name, name⟩)
      | .error failure => if isAbsence failure then .ok [] else .error failure := by
  rcases hscan : scan path w with ⟨failure | entries, w'⟩
  · by_cases habsent : isAbsence failure = true
    · simp [list, hscan, habsent, Except.map]
    · simp [list, hscan, habsent]
  · simp [list, hscan, Except.map]

/-- Two worlds with the same entries and the same faults show the same reports. -/
theorem list_congr {w w' : World} (hsame : w.files.Same w'.files) (hfaults : w'.faults = w.faults)
    (h : w.files.tree.IsDistinct) (h' : w'.files.tree.IsDistinct) (path : Path) :
    (list path w').1 = (list path w).1 := by
  rw [list_eq, list_eq]
  cases hfault : w.faults.list with
  | some effect => cases effect <;> simp [scan, hfaults, hfault]
  | none =>
    simp only [scan, Act.bind_apply, Act.get_apply, hfaults, hfault, FileSystem.list, hsame.lookup]
    cases w.files.lookup true path.text with
    | error fault => simp [Act.ofExcept, bind, Except.bind]
    | ok found =>
      obtain ⟨place, entry⟩ := found
      cases entry with
      | directory =>
        have hnames := regularNames_congr h h' hsame.get?_eq place
        exact congrArg (fun names => Except.ok (names.map (ReportFile.mk path.name))) hnames
      | file | link | fifo => simp [Act.ofExcept, bind, Except.bind]

private theorem eq_children_of_scan {path : Path} {w : World} {entries : List (Text × Entry)}
    (h : (scan path w).1 = .ok entries) :
    entries = [] ∨ ∃ place, w.files.locate true path.text = .ok place ∧
      entries = w.files.tree.children place := by
  cases hfault : w.faults.list with
  | some effect =>
    cases effect with
    | silent => exact .inl (by simpa [scan, hfault] using h.symm)
    | errno | text => simp [scan, hfault] at h
  | none =>
    rw [scan_eq hfault] at h
    cases hentries : w.files.list path.text with
    | error fault =>
      rw [hentries] at h
      cases h
    | ok found =>
      obtain ⟨place, hlookup, rfl⟩ := FileSystem.list_eq_ok.mp hentries
      rw [hentries] at h
      exact .inr ⟨place, (FileSystem.lookup_eq_ok.mp hlookup).1, (Except.ok.inj h).symm⟩

/-- The reports are the regular files of the directory, or there are none. -/
theorem eq_regularNames_of_list {path : Path} {w : World} {reports : List ReportFile}
    (hlist : (list path w).1 = .ok reports) :
    reports = [] ∨ ∃ place, w.files.locate true path.text = .ok place ∧
      reports = (regularNames (w.files.tree.children place)).map fun name => ⟨path.name, name⟩ := by
  rw [list_eq] at hlist
  rcases hscan : (scan path w).1 with failure | entries
  · rw [hscan] at hlist
    by_cases habsent : isAbsence failure = true
    · simp only [habsent, if_true, Except.ok.injEq] at hlist
      exact .inl hlist.symm
    · simp [habsent] at hlist
  · rw [hscan] at hlist
    obtain rfl := Except.ok.inj hlist
    rcases eq_children_of_scan hscan with rfl | ⟨place, hplace, rfl⟩
    · exact .inl (by simp [regularNames])
    · exact .inr ⟨place, hplace, rfl⟩

/-- A report is a regular file in the directory. -/
theorem mem_children_of_list {path : Path} {w : World} {reports : List ReportFile}
    (hlist : (list path w).1 = .ok reports) {report : ReportFile} (hreport : report ∈ reports) :
    report.directoryName = path.name ∧ ∃ place entry, w.files.locate true path.text = .ok place ∧
      (report.relativePath, entry) ∈ w.files.tree.children place ∧ entry.isRegular = true := by
  obtain rfl | ⟨place, hplace, rfl⟩ := eq_regularNames_of_list hlist
  · cases hreport
  · obtain ⟨name, hname, rfl⟩ := List.mem_map.mp hreport
    rw [regularNames, List.mem_mergeSort] at hname
    obtain ⟨⟨_, entry⟩, hentry, rfl⟩ := List.mem_map.mp hname
    obtain ⟨hmem, hregular⟩ := List.mem_filter.mp hentry
    exact ⟨rfl, place, entry, hplace, hmem, hregular⟩

end Report

end ScanLauncher
