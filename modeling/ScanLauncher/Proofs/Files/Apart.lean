import ScanLauncher.Config.Basic
import ScanLauncher.Proofs.Files.Locate
import ScanLauncher.Proofs.Files.Same

namespace ScanLauncher

namespace Tree

/-- The tree less what stands at a place and below. -/
def without (tree : Tree) (place : Location) : Tree :=
  ⟨tree.entries.filter fun e => !place.isPrefixOf e.1⟩

theorem get?_without (tree : Tree) {place loc : Location} {entry : Entry} (hplace : place ≠ []) :
    (tree.without place).get? loc = some entry ↔ ¬ place <+: loc ∧ tree.get? loc = some entry := by
  rw [without, tree.get?_filter fun loc => !place.isPrefixOf loc]
  by_cases hbelow : place <+: loc
  · have hroot : loc ≠ [] := by
      rintro rfl
      exact hplace (List.prefix_nil.mp hbelow)
    have hon : place.isPrefixOf loc = true := List.isPrefixOf_iff_prefix.mpr hbelow
    simp [hroot, hbelow, hon]
  · have hoff : place.isPrefixOf loc = false :=
      eq_false_of_ne_true fun h => hbelow (List.isPrefixOf_iff_prefix.mp h)
    simp [hbelow, hoff]

/-- The same stands in every place that is not at the given one or below. -/
def AgreesOff (place : Location) (tree tree' : Tree) : Prop :=
  ∀ loc, ¬ place <+: loc → tree'.get? loc = tree.get? loc

end Tree

namespace FileSystem

private theorem walk_of_without {tree tree' : Tree} {place : Location} (hplace : place ≠ [])
    (hagree : tree.AgreesOff place tree') {hops : Nat} {here loc : Location} {names : List Text}
    (hloc : ¬ place <+: loc)
    (h : walk (tree.without place) true hops here names = .ok loc) :
    walk tree' true hops here names = .ok loc := by
  have hkept {there : Location} {entry : Entry}
      (hthere : (tree.without place).get? there = some entry) : tree'.get? there = some entry := by
    obtain ⟨hoff, hentry⟩ := (tree.get?_without hplace).mp hthere
    rw [hagree there hoff, hentry]
  fun_induction walk (tree.without place) true hops here names with
  | case1 hops here => rw [walk]; exact h
  | case2 | case5 | case7 | case10 => cases h
  | case3 hops here first rest hhere hfirst ih =>
    rw [walk_cons_idle (hkept hhere) hfirst]
    exact ih h
  | case4 hops here first rest hhere hfirst hup ih =>
    rw [walk_cons_up (hkept hhere) hfirst hup]
    exact ih h
  | case6 _ _ _ _ _ _ _ _ _ _ hend => simp at hend
  | case8 here first rest hhere hfirst hup hlong target hlink hmore hops ih =>
    rw [walk_cons_link (hkept hhere) hfirst hup hlong (hkept hlink) hmore]
    exact ih h
  | case9 hops here first rest hhere hfirst hup hlong hplain ih =>
    by_cases hoff : place <+: here ++ [first]
    · -- The way ends here, where it must not, or goes on from a place where nothing is.
      cases rest with
      | nil =>
        rw [walk] at h
        exact absurd (Except.ok.inj h ▸ hoff) hloc
      | cons next rest =>
        have hnext := ((tree.get?_without hplace).mp (walk_cons_directory h)).1
        exact absurd hoff hnext
    · rw [walk_cons_plain (hkept hhere) hfirst hup hlong]
      · exact ih h
      · intro target hlink
        rw [hagree _ hoff] at hlink
        exact hplain target ((tree.get?_without hplace).mpr ⟨hoff, hlink⟩)

/-- The files less what stands at a place and below. -/
def without (fs : FileSystem) (place : Location) : FileSystem :=
  { fs with tree := fs.tree.without place }

/-- The directory `base` of an entry is found without passing through the entry: it leads to the same
place when nothing is at the place of the entry and below. -/
def FindsApart (fs : FileSystem) (path base : Path) : Prop :=
  ∀ place, fs.locate false path.text = .ok place →
    (fs.without place).locate true base.text = fs.locate true base.text

/-- Then the entry is where it is, whatever stands there and below. -/
theorem FindsApart.locate {path base : Path} (hentry : path.IsEntryOf base) (hbase : base.IsProper)
    {fs fs' : FileSystem} (hapart : fs.FindsApart path base) {place : Location}
    (hplace : fs.locate false path.text = .ok place) (hcwd : fs'.cwd = fs.cwd)
    (hagree : fs.tree.AgreesOff place fs'.tree) : fs'.locate false path.text = .ok place := by
  rcases hentry.locate_iff hbase with hnowhere | ⟨name, hiff⟩
  · exact absurd hplace (hnowhere fs place)
  obtain ⟨root, hroot, hdirectory, rfl⟩ := (hiff fs place).mp hplace
  have hoff : ¬ root ++ [name] <+: root := by
    intro hbelow
    have hlength := hbelow.length_le
    simp only [List.length_append, List.length_singleton] at hlength
    omega
  have hroot' := (hapart _ hplace).trans hroot
  obtain ⟨text, hsystem, hempty, hsize, hwalk⟩ := locate_eq_ok.mp hroot'
  have hwalk' : walk fs'.tree true linkLimit (start fs'.cwd text) (names text) = .ok root := by
    rw [hcwd]
    exact walk_of_without (by simp) hagree hoff hwalk
  refine (hiff fs' _).mpr ⟨root, ?_, by rw [hagree root hoff, hdirectory], rfl⟩
  exact locate_eq_ok.mpr ⟨text, hsystem, hempty, hsize, hwalk'⟩

end FileSystem

namespace Config

/-- The output root is found without passing through the report directory: it leads to the same place
when nothing is at the place of the report directory and below. -/
def FindsRootApart (config : Config) (fs : FileSystem) : Prop :=
  ∀ place, fs.locate false config.reportDir.text = .ok place →
    (fs.without place).locate true config.outputRoot.text =
      fs.locate true config.outputRoot.text

/-- Then the report directory is where it is, whatever stands there and below. -/
theorem FindsRootApart.locate {config : Config}
    (hentry : config.reportDir.IsEntryOf config.outputRoot) {fs fs' : FileSystem}
    (hapart : config.FindsRootApart fs) {place : Location}
    (hplace : fs.locate false config.reportDir.text = .ok place) (hcwd : fs'.cwd = fs.cwd)
    (hagree : fs.tree.AgreesOff place fs'.tree) :
    fs'.locate false config.reportDir.text = .ok place := by
  have hfound : fs.FindsApart config.reportDir config.outputRoot := hapart
  exact hfound.locate hentry (Path.isProper_ofText _) hplace hcwd hagree

end Config

end ScanLauncher
