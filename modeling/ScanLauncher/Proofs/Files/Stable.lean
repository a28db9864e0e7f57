import ScanLauncher.Files.Change

namespace ScanLauncher

/-- The entry that a change puts at its path. -/
def Change.entry? : Change → Option Entry
  | .file _ content isExecutable => some (.file content isExecutable)
  | .directory _ => some .directory
  | .link _ target => some (.link target)
  | .fifo _ => some .fifo
  | .remove _ => none

namespace FileSystem

/-- A property of the files that single steps of work on them keep, if the entries that are put are
of some kinds. -/
structure IsStableFor (allowed : Entry → Prop) (P : FileSystem → Prop) : Prop where
  filter : ∀ (fs : FileSystem) (keep : Location → Bool), P fs →
    P { fs with tree := ⟨fs.tree.entries.filter fun e => keep e.1⟩ }
  put : ∀ (fs : FileSystem) (follow : Bool) (path : Text) (loc : Location) (entry : Entry),
    allowed entry → P fs → fs.locate follow path = .ok loc →
      P { fs with tree := fs.tree.put loc entry }

/-- A property of the files that all steps of work on them keep. -/
abbrev IsStable (P : FileSystem → Prop) : Prop := IsStableFor (fun _ => True) P

theorem lookup_eq_ok {fs : FileSystem} {follow : Bool} {path : Text} {place : Location} {entry : Entry} :
    fs.lookup follow path = .ok (place, entry) ↔
      fs.locate follow path = .ok place ∧ fs.tree.get? place = some entry := by
  unfold lookup
  cases hlocate : fs.locate follow path with
  | error fault => simp [bind, Except.bind]
  | ok there =>
    cases hthere : fs.tree.get? there with
    | none =>
      simp only [bind, Except.bind, hthere, Except.ok.injEq]
      constructor
      · intro h
        cases h
      · rintro ⟨rfl, hentry⟩
        rw [hthere] at hentry
        cases hentry
    | some found =>
      simp only [bind, Except.bind, hthere, pure, Except.pure, Except.ok.injEq, Prod.mk.injEq]
      constructor
      · rintro ⟨rfl, rfl⟩
        exact ⟨rfl, hthere⟩
      · rintro ⟨rfl, hentry⟩
        exact ⟨rfl, Option.some.inj (hthere.symm.trans hentry)⟩

/-- A change that makes an entry makes the directories on its way first. -/
theorem exists_made {fs fs' : FileSystem} {path : Text}
    {make : FileSystem → Except PathFault FileSystem}
    (h : (do make (← fs.makeDirectories (parentOf path))) = .ok fs') :
    ∃ made, fs.makeDirectories (parentOf path) = .ok made ∧ make made = .ok fs' := by
  cases hmade : fs.makeDirectories (parentOf path) with
  | error fault => simp [hmade, bind, Except.bind] at h
  | ok made =>
    rw [hmade] at h
    exact ⟨made, rfl, h⟩

theorem writeFile_eq_ok {fs fs' : FileSystem} {path : Text} {content : List UInt8} {isExecutable : Bool}
    (h : fs.writeFile path content isExecutable = .ok fs') :
    ∃ place, fs.locate true path = .ok place ∧
      fs' = { fs with tree := fs.tree.put place (.file content isExecutable) } := by
  unfold writeFile at h
  cases hplace : fs.locate true path with
  | error fault => simp [hplace, bind, Except.bind] at h
  | ok place =>
    simp only [hplace, bind, Except.bind] at h
    split at h
    · cases h
    · exact ⟨place, rfl, (Except.ok.inj h).symm⟩

/-- Nothing but an entry that is no directory is unlinked. -/
theorem unlink_eq_ok {fs fs' : FileSystem} {path : Text} (h : fs.unlink path = .ok fs') :
    ∃ place entry, fs.lookup false path = .ok (place, entry) ∧ entry ≠ .directory ∧
      fs' = { fs with tree := fs.tree.erase place } := by
  unfold unlink at h
  cases hlookup : fs.lookup false path with
  | error fault => simp [hlookup, bind, Except.bind] at h
  | ok found =>
    obtain ⟨place, entry⟩ := found
    simp only [hlookup, bind, Except.bind] at h
    cases entry with
    | directory => cases h
    | file | link | fifo => exact ⟨place, _, rfl, by simp, (Except.ok.inj h).symm⟩

private theorem removeDirectory_eq_ok {fs fs' : FileSystem} {path : Text}
    (h : fs.removeDirectory path = .ok fs') :
    ∃ place, fs.lookup false path = .ok (place, .directory) ∧
      fs' = { fs with tree := fs.tree.erase place } := by
  unfold removeDirectory at h
  cases hplace : fs.locate false path with
  | error fault => simp [hplace, bind, Except.bind] at h
  | ok place =>
    simp only [hplace, bind, Except.bind] at h
    split at h
    · cases h
    · rename_i hdirectory
      split at h
      · cases h
      split at h
      · cases h
      · exact ⟨place, lookup_eq_ok.mpr ⟨hplace, hdirectory⟩, (Except.ok.inj h).symm⟩
    · cases h

/-- What is left by the removal of a tree: all, if no directory is there, or what is not below the
directory, with or without the directory itself. -/
inductive TreeRemoval (fs : FileSystem) (path : Text) : FileSystem → Prop
  | refused : TreeRemoval fs path fs
  | cleared {place : Location} (hlookup : fs.lookup false path = .ok (place, .directory)) :
      TreeRemoval fs path { fs with tree := fs.tree.clear place }
  | removed {place there : Location} (hlookup : fs.lookup false path = .ok (place, .directory))
      (hagain : { fs with tree := fs.tree.clear place }.lookup false path = .ok (there, .directory)) :
      TreeRemoval fs path { fs with tree := (fs.tree.clear place).erase there }

theorem removeTree_cases (fs : FileSystem) (path : Text) :
    TreeRemoval fs path (fs.removeTree path).1 := by
  unfold removeTree
  split
  · exact .refused
  · rename_i place hlookup
    dsimp only
    split
    · rename_i hremoved
      obtain ⟨there, hagain, rfl⟩ := removeDirectory_eq_ok hremoved
      exact .removed hlookup hagain
    · exact .cleared hlookup
  · exact .refused

namespace IsStableFor

variable {allowed : Entry → Prop} {P : FileSystem → Prop} (hP : IsStableFor allowed P)
  {fs fs' : FileSystem} {path : Text}

include hP

theorem unlink (h : P fs) (hunlink : fs.unlink path = .ok fs') : P fs' := by
  obtain ⟨place, _, _, _, rfl⟩ := unlink_eq_ok hunlink
  exact hP.filter fs (· != place) h

theorem removeTree (h : P fs) (path : Text) : P (fs.removeTree path).1 := by
  have hcleared (place : Location) : P { fs with tree := fs.tree.clear place } :=
    hP.filter fs (!Tree.isBelow place ·) h
  have hcase := fs.removeTree_cases path
  generalize (fs.removeTree path).1 = left at hcase ⊢
  cases hcase with
  | refused => exact h
  | cleared => exact hcleared _
  | removed => exact hP.filter _ (· != _) (hcleared _)

theorem makeDirectory (hdirectory : allowed .directory) (h : P fs)
    (hmake : fs.makeDirectory path = .ok fs') : P fs' := by
  unfold FileSystem.makeDirectory at hmake
  cases hplace : fs.locate false path with
  | error fault => simp [hplace, bind, Except.bind] at hmake
  | ok place =>
    simp only [hplace, bind, Except.bind] at hmake
    split at hmake
    · cases hmake
    · split at hmake
      · cases hmake
      · exact Except.ok.inj hmake ▸ hP.put fs false path place .directory hdirectory h hplace
    · cases hmake

theorem makeDirectories (hdirectory : allowed .directory) (h : P fs)
    (hmake : fs.makeDirectories path = .ok fs') : P fs' := by
  unfold FileSystem.makeDirectories at hmake
  simp only at hmake
  generalize List.range (path.splitOn '/').length = steps at hmake
  induction steps generalizing fs with
  | nil => exact Except.ok.inj hmake ▸ h
  | cons n rest ih =>
    rw [List.foldlM_cons] at hmake
    simp only [bind, Except.bind] at hmake
    split at hmake
    · cases hmake
    · rename_i made hmade
      refine ih ?_ hmake
      split at hmade
      · exact Except.ok.inj hmade ▸ h
      · split at hmade
        · exact Except.ok.inj hmade ▸ h
        · exact hP.makeDirectory hdirectory h hmade

theorem writeFile {content : List UInt8} {isExecutable : Bool}
    (hfile : allowed (.file content isExecutable)) (h : P fs)
    (hwrite : fs.writeFile path content isExecutable = .ok fs') : P fs' := by
  obtain ⟨place, hplace, rfl⟩ := writeFile_eq_ok hwrite
  exact hP.put fs true path place _ hfile h hplace

theorem makeEntry {entry : Entry} (hentry : allowed entry) (h : P fs)
    (hmake : fs.makeEntry path entry = .ok fs') : P fs' := by
  unfold FileSystem.makeEntry at hmake
  cases hplace : fs.locate false path with
  | error fault => simp [hplace, bind, Except.bind] at hmake
  | ok place =>
    simp only [hplace, bind, Except.bind] at hmake
    split at hmake
    · cases hmake
    · exact Except.ok.inj hmake ▸ hP.put fs false path place entry hentry h hplace

theorem apply (hdirectory : allowed .directory) {change : Change}
    (hentry : ∀ entry, change.entry? = some entry → allowed entry) (h : P fs)
    (happly : fs.apply change = .ok fs') : P fs' := by
  cases change with
  | file =>
    obtain ⟨made, hmade, hwrite⟩ := exists_made happly
    exact hP.writeFile (hentry _ rfl) (hP.makeDirectories hdirectory h hmade) hwrite
  | directory => exact hP.makeDirectories hdirectory h happly
  | link | fifo =>
    obtain ⟨made, hmade, hmake⟩ := exists_made happly
    exact hP.makeEntry (hentry _ rfl) (hP.makeDirectories hdirectory h hmade) hmake
  | remove path =>
    unfold FileSystem.apply at happly
    cases hlookup : fs.lookup false path with
    | error fault => simp [hlookup, bind, Except.bind] at happly
    | ok found =>
      obtain ⟨loc, entry⟩ := found
      simp only [hlookup, bind, Except.bind] at happly
      cases entry with
      | directory =>
        exact Except.ok.inj happly ▸ hP.filter _ (· != loc) (hP.filter fs (!Tree.isBelow loc ·) h)
      | file | link | fifo => exact Except.ok.inj happly ▸ hP.filter fs (· != loc) h

end IsStableFor

theorem IsStable.applyAll {P : FileSystem → Prop} (hP : IsStable P) {fs : FileSystem} (h : P fs)
    (changes : List Change) : P (fs.applyAll changes).1 := by
  induction changes generalizing fs with
  | nil => exact h
  | cons change rest ih =>
    rw [FileSystem.applyAll]
    split
    · exact ih (hP.apply trivial (fun _ _ => trivial) h ‹_›)
    · exact h

end FileSystem

end ScanLauncher
