import ScanLauncher.Files.Change
import ScanLauncher.Proofs.Files.Walk

namespace ScanLauncher

namespace Tree

theorem get?_filter (tree : Tree) (keep : Location → Bool) (loc : Location) :
    (⟨tree.entries.filter fun e => keep e.1⟩ : Tree).get? loc =
      if loc = [] ∨ keep loc then tree.get? loc else none := by
  obtain ⟨entries⟩ := tree
  by_cases hroot : loc = []
  · simp [get?, hroot]
  simp only [get?, beq_iff_eq, hroot, if_false, false_or]
  induction entries with
  | nil => simp
  | cons first rest ih =>
    obtain ⟨place, entry⟩ := first
    by_cases hhere : loc = place
    · subst hhere
      by_cases hkeep : keep loc = true
      · simp [hkeep]
      · simpa only [List.filter_cons, hkeep, if_false, Bool.false_eq_true] using ih
    · have hother : (loc == place) = false := beq_eq_false_iff_ne.mpr hhere
      by_cases hkeep : keep place = true
      · simpa [hkeep, List.lookup_cons, hother] using ih
      · simpa [hkeep, List.lookup_cons, hother] using ih

theorem get?_put (tree : Tree) (place : Location) (entry : Entry) (loc : Location) :
    (tree.put place entry).get? loc =
      if loc = [] then some .directory else if loc = place then some entry else tree.get? loc := by
  by_cases hroot : loc = []
  · simp [get?, hroot]
  have hkept := tree.get?_filter (· != place) loc
  simp only [get?, beq_iff_eq, hroot, if_false, false_or] at hkept
  simp only [get?, put, beq_iff_eq, hroot, if_false, List.lookup_append, hkept]
  by_cases hplace : loc = place
  · simp [hplace]
  · have hother : (loc == place) = false := beq_eq_false_iff_ne.mpr hplace
    simp [hplace, List.lookup_cons, hother]

end Tree

namespace FileSystem

/-- The same entries stand in the same places. -/
structure Same (fs fs' : FileSystem) : Prop where
  cwd_eq : fs'.cwd = fs.cwd
  get?_eq : ∀ loc, fs'.tree.get? loc = fs.tree.get? loc

/-- Two changes came to the same: they failed alike, or left the same entries. -/
inductive SameResult : Except PathFault FileSystem → Except PathFault FileSystem → Prop
  | failed (fault : PathFault) : SameResult (.error fault) (.error fault)
  | done {fs fs' : FileSystem} (h : fs.Same fs') : SameResult (.ok fs) (.ok fs')

theorem SameResult.bind {result result' : Except PathFault FileSystem}
    {next : FileSystem → Except PathFault FileSystem} (h : SameResult result result')
    (hnext : ∀ fs fs', fs.Same fs' → SameResult (next fs) (next fs')) :
    SameResult (result >>= next) (result' >>= next) := by
  cases h with
  | failed fault => exact .failed fault
  | done h => exact hnext _ _ h

private theorem walk_congr {tree tree' : Tree} (h : ∀ loc, tree'.get? loc = tree.get? loc) (follow : Bool)
    (hops : Nat) (here : Location) (names : List Text) :
    walk tree' follow hops here names = walk tree follow hops here names := by
  fun_induction walk tree follow hops here names with
  | case1 hops here => rw [walk]
  | case2 hops here name rest hhere =>
    rw [walk]
    simp only [h, hhere]
  | case3 hops here name rest hhere hidle ih =>
    rw [walk_cons_idle ((h here).trans hhere) hidle, ih]
  | case4 hops here name rest hhere hidle hup ih =>
    rw [walk_cons_up ((h here).trans hhere) hidle hup, ih]
  | case5 hops here name rest hhere hidle hup hlong =>
    rw [walk_cons_long ((h here).trans hhere) hidle hup hlong]
  | case6 hops here name rest hhere hidle hup hlong target hlink hend =>
    rw [walk_cons_last ((h here).trans hhere) hidle hup hlong ((h _).trans hlink) hend]
  | case7 here name rest hhere hidle hup hlong target hlink hmore =>
    rw [walk_cons_loop ((h here).trans hhere) hidle hup hlong ((h _).trans hlink) hmore]
  | case8 here name rest hhere hidle hup hlong target hlink hmore hops ih =>
    rw [walk_cons_link ((h here).trans hhere) hidle hup hlong ((h _).trans hlink) hmore, ih]
  | case9 hops here name rest hhere hidle hup hlong hplain ih =>
    rw [walk_cons_plain ((h here).trans hhere) hidle hup hlong, ih]
    intro target hlink
    exact hplain target ((h _).symm.trans hlink)
  | case10 hops here name rest entry hentry hhere =>
    rw [walk]
    simp only [h, hhere]

namespace Same

variable {fs fs' : FileSystem}

theorem locate (h : fs.Same fs') (follow : Bool) (path : Text) :
    fs'.locate follow path = fs.locate follow path := by
  unfold FileSystem.locate
  simp only [h.cwd_eq, walk_congr h.get?_eq]

theorem lookup (h : fs.Same fs') (follow : Bool) (path : Text) :
    fs'.lookup follow path = fs.lookup follow path := by
  unfold FileSystem.lookup
  simp only [h.locate, h.get?_eq]

theorem put (h : fs.Same fs') (place : Location) (entry : Entry) :
    Same { fs with tree := fs.tree.put place entry } { fs' with tree := fs'.tree.put place entry } := by
  refine ⟨h.cwd_eq, fun loc => ?_⟩
  simp only [Tree.get?_put, h.get?_eq]

theorem filter (h : fs.Same fs') (keep : Location → Bool) :
    Same { fs with tree := ⟨fs.tree.entries.filter fun e => keep e.1⟩ }
      { fs' with tree := ⟨fs'.tree.entries.filter fun e => keep e.1⟩ } := by
  refine ⟨h.cwd_eq, fun loc => ?_⟩
  simp only [Tree.get?_filter, h.get?_eq]

theorem makeDirectory (h : fs.Same fs') (path : Text) :
    SameResult (fs.makeDirectory path) (fs'.makeDirectory path) := by
  unfold FileSystem.makeDirectory
  rw [h.locate]
  cases fs.locate false path with
  | error fault => exact .failed fault
  | ok place =>
    simp only [bind, Except.bind, h.get?_eq]
    split
    · exact .failed _
    · split
      · exact .failed _
      · exact .done (h.put place .directory)
    · exact .failed _

theorem makeDirectories (h : fs.Same fs') (path : Text) :
    SameResult (fs.makeDirectories path) (fs'.makeDirectories path) := by
  unfold FileSystem.makeDirectories
  simp only
  generalize List.range (path.splitOn '/').length = steps
  induction steps generalizing fs fs' with
  | nil => exact .done h
  | cons n rest ih =>
    rw [List.foldlM_cons, List.foldlM_cons]
    refine SameResult.bind ?_ fun _ _ => ih
    simp only [isDirectory?, ask, h.lookup]
    split
    · exact .done h
    · split
      · exact .done h
      · exact h.makeDirectory _

theorem writeFile (h : fs.Same fs') (path : Text) (content : List UInt8) (isExecutable : Bool) :
    SameResult (fs.writeFile path content isExecutable) (fs'.writeFile path content isExecutable) := by
  unfold FileSystem.writeFile
  rw [h.locate]
  cases fs.locate true path with
  | error fault => exact .failed fault
  | ok place =>
    simp only [bind, Except.bind, h.get?_eq]
    split
    · exact .failed _
    · exact .done (h.put place _)

theorem makeEntry (h : fs.Same fs') (path : Text) (entry : Entry) :
    SameResult (fs.makeEntry path entry) (fs'.makeEntry path entry) := by
  unfold FileSystem.makeEntry
  rw [h.locate]
  cases fs.locate false path with
  | error fault => exact .failed fault
  | ok place =>
    simp only [bind, Except.bind, h.get?_eq]
    split
    · exact .failed _
    · exact .done (h.put place entry)

theorem apply (h : fs.Same fs') (change : Change) :
    SameResult (fs.apply change) (fs'.apply change) := by
  cases change with
  | file path content isExecutable =>
    exact (h.makeDirectories _).bind fun _ _ hmade => hmade.writeFile path content isExecutable
  | directory path => exact h.makeDirectories path
  | link path target => exact (h.makeDirectories _).bind fun _ _ hmade => hmade.makeEntry path _
  | fifo path => exact (h.makeDirectories _).bind fun _ _ hmade => hmade.makeEntry path _
  | remove path =>
    simp only [FileSystem.apply, h.lookup]
    cases fs.lookup false path with
    | error fault => exact .failed fault
    | ok found =>
      obtain ⟨place, entry⟩ := found
      cases entry with
      | directory =>
        exact .done ((h.filter (!Tree.isBelow place ·)).filter (· != place))
      | file | link | fifo => exact .done (h.filter (· != place))

theorem applyAll (h : fs.Same fs') (changes : List Change) :
    (fs'.applyAll changes).2 = (fs.applyAll changes).2 ∧
      (fs.applyAll changes).1.Same (fs'.applyAll changes).1 := by
  induction changes generalizing fs fs' with
  | nil => exact ⟨rfl, h⟩
  | cons change rest ih =>
    have hfirst := h.apply change
    rw [FileSystem.applyAll, FileSystem.applyAll]
    generalize fs.apply change = result at hfirst
    generalize fs'.apply change = result' at hfirst
    cases hfirst with
    | failed fault => exact ⟨rfl, h⟩
    | done hmade => exact ih hmade

end Same

end FileSystem

end ScanLauncher
