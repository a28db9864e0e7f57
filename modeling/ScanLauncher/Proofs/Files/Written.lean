import ScanLauncher.Proofs.Files.Same
import ScanLauncher.Proofs.Files.Stable

namespace ScanLauncher.FileSystem

/-- The files come from others by some changes out of a list, one after the other. -/
inductive Reaches (changes : List Change) (first : FileSystem) : FileSystem → Prop
  | refl : Reaches changes first first
  | step {fs fs' : FileSystem} {change : Change} (h : Reaches changes first fs)
      (hchange : change ∈ changes) (happly : fs.apply change = .ok fs') : Reaches changes first fs'

theorem Reaches.applyAll {changes : List Change} {first fs : FileSystem}
    (h : first.Reaches changes fs) {made : List Change} (hmade : made ⊆ changes) :
    first.Reaches changes (fs.applyAll made).1 := by
  induction made generalizing fs with
  | nil => exact h
  | cons change rest ih =>
    obtain ⟨hchange, hrest⟩ := List.cons_subset.mp hmade
    rw [FileSystem.applyAll]
    split
    · rename_i happly
      exact ih (h.step hchange happly) hrest
    · exact h

/-- On the way from some files, a change has written a file at a place. -/
def Writes (changes : List Change) (first : FileSystem) (content : List UInt8) (isExecutable : Bool)
    (place : Location) : Prop :=
  ∃ path fs made, Change.file path content isExecutable ∈ changes ∧ first.Reaches changes fs ∧
    fs.makeDirectories (parentOf path) = .ok made ∧ made.locate true path = .ok place

/-- Every file of the second file system is one of the first. -/
def KeepsToFiles (fs fs' : FileSystem) : Prop :=
  ∀ loc content isExecutable, fs'.tree.get? loc = some (.file content isExecutable) →
    fs.tree.get? loc = some (.file content isExecutable)

private theorem isStableFor_keepsToFiles (fs : FileSystem) :
    IsStableFor (·.isRegular = false) fs.KeepsToFiles where
  filter fs' keep h loc content isExecutable hfile := by
    rw [Tree.get?_filter] at hfile
    split at hfile
    · exact h loc content isExecutable hfile
    · cases hfile
  put fs' _ _ place entry hentry h _ loc content isExecutable hfile := by
    rw [Tree.get?_put] at hfile
    split at hfile
    · cases hfile
    · split at hfile
      · rw [Option.some.inj hfile] at hentry
        cases hentry
      · exact h loc content isExecutable hfile

private theorem file_of_apply {fs fs' : FileSystem} {change : Change} (h : fs.apply change = .ok fs')
    {loc : Location} {content : List UInt8} {isExecutable : Bool}
    (hfile : fs'.tree.get? loc = some (.file content isExecutable)) :
    fs.tree.get? loc = some (.file content isExecutable) ∨
      ∃ path made, change = .file path content isExecutable ∧
        fs.makeDirectories (parentOf path) = .ok made ∧ made.locate true path = .ok loc := by
  have hstable := isStableFor_keepsToFiles fs
  have hfirst : fs.KeepsToFiles fs := fun _ _ _ h => h
  have hother (hentry : ∀ entry, change.entry? = some entry → entry.isRegular = false) :=
    hstable.apply rfl hentry hfirst h loc content isExecutable hfile
  cases change with
  | file path written mode =>
    obtain ⟨made, hmade, hwrite⟩ := exists_made h
    obtain ⟨place, hplace, rfl⟩ := writeFile_eq_ok hwrite
    rw [Tree.get?_put] at hfile
    split at hfile
    · cases hfile
    split at hfile
    · rename_i hloc
      subst hloc
      cases hfile
      exact .inr ⟨path, made, rfl, hmade, hplace⟩
    · exact .inl (hstable.makeDirectories rfl hfirst hmade loc content isExecutable hfile)
  | directory | link | fifo | remove => exact .inl (hother (by simp [Change.entry?, Entry.isRegular]))

/-- A file that was not there at first has been written on the way. -/
theorem Reaches.writes {changes : List Change} {first fs : FileSystem}
    (h : first.Reaches changes fs) {loc : Location} {content : List UInt8} {isExecutable : Bool}
    (hnew : first.tree.get? loc ≠ some (.file content isExecutable))
    (hfile : fs.tree.get? loc = some (.file content isExecutable)) :
    first.Writes changes content isExecutable loc := by
  induction h with
  | refl => exact absurd hfile hnew
  | step h hchange happly ih =>
    rcases file_of_apply happly hfile with hold | ⟨path, made, rfl, hmade, hplace⟩
    · exact ih hold
    · exact ⟨path, _, made, hchange, h, hmade, hplace⟩

end ScanLauncher.FileSystem
