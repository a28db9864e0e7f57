import Mathlib.Data.List.Induction
import Mathlib.Tactic.ByContra
import ScanLauncher.Proofs.Files.Apart
import ScanLauncher.Proofs.Report.Reset

namespace ScanLauncher

/-- Every entry of a tree is in a directory. -/
def Tree.IsNested (tree : Tree) : Prop :=
  ∀ loc name, tree.get? (loc ++ [name]) ≠ none → tree.get? loc = some .directory

namespace Tree.IsNested

variable {tree : Tree}

/-- Nothing is below a place where there is nothing. -/
theorem get?_eq_none (h : tree.IsNested) {place loc : Location} (hplace : tree.get? place = none)
    (hloc : place <+: loc) : tree.get? loc = none := by
  obtain ⟨rest, rfl⟩ := hloc
  induction rest using List.reverseRecOn with
  | nil => rwa [List.append_nil]
  | append_singleton rest name ih =>
    by_contra hentry
    rw [← List.append_assoc] at hentry
    have hparent := h _ name hentry
    rw [ih] at hparent
    cases hparent

/-- Entries may be taken away, as long as none stays behind in a directory that goes. -/
theorem filter (h : tree.IsNested) (keep : Location → Bool)
    (hkeep : ∀ loc name, tree.get? (loc ++ [name]) ≠ none → keep (loc ++ [name]) = true →
      keep loc = true) :
    IsNested ⟨tree.entries.filter fun e => keep e.1⟩ := by
  intro loc name hentry
  rw [tree.get?_filter] at hentry ⊢
  by_cases hname : keep (loc ++ [name]) = true
  · rw [if_pos (.inr hname)] at hentry
    rw [if_pos (.inr (hkeep loc name hentry hname))]
    exact h loc name hentry
  · simp [hname] at hentry

theorem erase (h : tree.IsNested) {place : Location}
    (hplace : ∀ name, tree.get? (place ++ [name]) = none) : (tree.erase place).IsNested := by
  refine h.filter (· != place) fun loc name hentry _ => bne_iff_ne.mpr ?_
  rintro rfl
  exact hentry (hplace name)

theorem clear (h : tree.IsNested) (place : Location) : (tree.clear place).IsNested := by
  refine h.filter (!Tree.isBelow place ·) fun loc name _ hname => ?_
  by_contra hbelow
  have hloc : Tree.isBelow place loc = true := by simpa using hbelow
  obtain ⟨hbegins, _⟩ := Bool.and_eq_true_iff.mp hloc
  have hlonger : place <+: loc ++ [name] :=
    (List.isPrefixOf_iff_prefix.mp hbegins).trans (List.prefix_append loc [name])
  have hne : place ≠ loc ++ [name] := by
    rintro rfl
    have hlength := (List.isPrefixOf_iff_prefix.mp hbegins).length_le
    simp only [List.length_append, List.length_singleton] at hlength
    omega
  simp [Tree.isBelow, List.isPrefixOf_iff_prefix.mpr hlonger, hne] at hname

end Tree.IsNested

namespace FileSystem

variable {fs removed : FileSystem} {path : Text}

private theorem isNested_unlink (h : fs.tree.IsNested) (hremoved : fs.unlink path = .ok removed) :
    removed.tree.IsNested := by
  obtain ⟨place, entry, hlookup, hother, rfl⟩ := unlink_eq_ok hremoved
  refine h.erase fun name => ?_
  by_contra hbelow
  have hentry := (lookup_eq_ok.mp hlookup).2
  rw [h place name hbelow] at hentry
  exact hother (Option.some.inj hentry).symm

private theorem isNested_removeTree (h : fs.tree.IsNested) : (fs.removeTree path).1.tree.IsNested := by
  have hcase := fs.removeTree_cases path
  generalize (fs.removeTree path).1 = left at hcase ⊢
  cases hcase with
  | refused => exact h
  | cleared => exact h.clear _
  | @removed place there hlookup hagain =>
    obtain ⟨hplace, _⟩ := lookup_eq_ok.mp hlookup
    -- What was cleared away was not on the way.
    obtain rfl : place = there := by
      have hsame := ((Pruned.refl fs path).clear hplace).locate (lookup_eq_ok.mp hagain).1
      exact Except.ok.inj (hplace.symm.trans hsame)
    refine (h.clear place).erase fun name => ?_
    have hbegins : place.isPrefixOf (place ++ [name]) = true :=
      List.isPrefixOf_iff_prefix.mpr (List.prefix_append place [name])
    rw [Tree.clear, fs.tree.get?_filter fun loc => !Tree.isBelow place loc]
    simp [Tree.isBelow, hbegins]

end FileSystem

namespace Report

theorem hasEntry_apply (path : Path) (w : World) :
    hasEntry path w = ((w.files.hasEntry? path.text).mapError (Failure.ofPathFault path.text), w) := by
  simp only [hasEntry, Act.bind_apply, Act.get_apply]
  cases w.files.hasEntry? path.text with
  | ok answer => rfl
  | error fault => rfl

/-- Where nothing is, nothing has to be removed. -/
theorem reset_of_absent {path : Path} {w : World} (h : w.files.hasEntry? path.text = .ok false) :
    ∃ message, reset path w = (.ok true, w.note .debug .reset message) := by
  unfold reset
  rw [Act.bind_apply, hasEntry_apply, h]
  exact ⟨_, rfl⟩

/-- A reset that says so has left nothing at the path. -/
theorem hasEntry?_of_reset {path : Path} {w w' : World} (h : reset path w = (.ok true, w')) :
    w'.files.hasEntry? path.text = .ok false := by
  unfold reset at h
  rw [Act.bind_apply, hasEntry_apply] at h
  cases hfirst : w.files.hasEntry? path.text with
  | error fault =>
    rw [hfirst] at h
    cases h
  | ok isPresent =>
    rw [hfirst] at h
    cases isPresent with
    | false =>
      obtain rfl : w.note _ _ _ = w' := congrArg Prod.snd h
      exact hfirst
    | true =>
      rcases hremove : remove path w with ⟨failure | _, w₁⟩
      · cases failure <;> simp [Except.mapError, hremove] at h <;> cases h
      · simp only [Except.mapError, Bool.not_true, Bool.false_eq_true, if_false, Act.bind_apply,
          Act.attempt_apply, hremove, hasEntry_apply] at h
        cases hlast : w₁.files.hasEntry? path.text with
        | error fault =>
          rw [hlast] at h
          cases h
        | ok isLeft =>
          rw [hlast] at h
          cases isLeft with
          | true => cases h
          | false =>
            obtain rfl : w₁.note _ _ _ = w' := congrArg Prod.snd h
            exact hlast

/-- Then nothing is at the place of the path and below. -/
theorem get?_of_reset {path : Path} {w w' : World} (hnested : w.files.tree.IsNested)
    (h : reset path w = (.ok true, w')) {place : Location}
    (hplace : w'.files.locate false path.text = .ok place) {loc : Location} (hloc : place <+: loc) :
    w'.files.tree.get? loc = none := by
  have hnested' : w'.files.tree.IsNested := by
    have hkeeps : (reset path).Keeps fun w => w.files.tree.IsNested :=
      keepsFiles_reset (fun _ _ => FileSystem.isNested_unlink) fun _ => FileSystem.isNested_removeTree
    have hafter := hkeeps w hnested
    rwa [h] at hafter
  refine hnested'.get?_eq_none ?_ hloc
  have hnone := hasEntry?_of_reset h
  by_contra hentry
  obtain ⟨entry, hentry⟩ := Option.ne_none_iff_exists'.mp hentry
  have hlookup := FileSystem.lookup_eq_ok.mpr ⟨hplace, hentry⟩
  simp [FileSystem.hasEntry?, hlookup] at hnone

end Report

theorem FileSystem.Pruned.agreesOff {before after : FileSystem} {path : Text}
    (h : before.Pruned path after) {place : Location} (hplace : before.locate false path = .ok place) :
    before.tree.AgreesOff place after.tree := by
  intro loc hoff
  by_contra hchange
  obtain ⟨there, hthere, hbelow⟩ := h.at_path loc hchange
  obtain rfl : place = there := Except.ok.inj (hplace.symm.trans hthere)
  exact hoff hbelow

namespace Config

/-- The files differ at most in what stands at the place of the report directory and below. -/
structure AgreesOffReports (config : Config) (fs fs' : FileSystem) : Prop where
  cwd_eq : fs'.cwd = fs.cwd
  at_reports : ∀ loc, fs'.tree.get? loc ≠ fs.tree.get? loc →
    ∃ place, fs.locate false config.reportDir.text = .ok place ∧ place <+: loc

variable {config : Config} {w w' w₁ w₁' : World}

/-- Where the report directory has no place there is no difference. -/
theorem AgreesOffReports.same {fs fs' : FileSystem} (h : config.AgreesOffReports fs fs')
    {fault : PathFault} (hfault : fs.locate false config.reportDir.text = .error fault) :
    fs.Same fs' := by
  refine ⟨h.cwd_eq, fun loc => ?_⟩
  by_contra hdiffer
  obtain ⟨place, hplace, _⟩ := h.at_reports loc hdiffer
  rw [hfault] at hplace
  cases hplace

/-- Two resets that say so leave the same files, wherever these differed at the report directory. -/
theorem same_of_reset (hentry : config.reportDir.IsEntryOf config.outputRoot)
    (hapart : config.FindsRootApart w.files) (hnested : w.files.tree.IsNested)
    (hnested' : w'.files.tree.IsNested) (hdiffer : config.AgreesOffReports w.files w'.files)
    (hreset : Report.reset config.reportDir w = (.ok true, w₁))
    (hreset' : Report.reset config.reportDir w' = (.ok true, w₁')) : w₁.files.Same w₁'.files := by
  have hpruned := Report.reset_pruned config.reportDir w
  have hpruned' := Report.reset_pruned config.reportDir w'
  rw [hreset] at hpruned
  rw [hreset'] at hpruned'
  have hcwd : w₁'.files.cwd = w₁.files.cwd := by
    rw [hpruned'.cwd_eq, hpruned.cwd_eq, hdiffer.cwd_eq]
  cases hplace : w.files.locate false config.reportDir.text with
  | error fault =>
    -- Neither reset has anything to take away.
    have hsame := hdiffer.same hplace
    have hunchanged {before after : FileSystem}
        (hlocate : before.locate false config.reportDir.text = .error fault)
        (h : before.Pruned config.reportDir.text after) : before.Same after := by
      refine AgreesOffReports.same ⟨h.cwd_eq, h.at_path⟩ hlocate
    have hfirst := hunchanged hplace hpruned
    have hsecond := hunchanged ((hsame.locate _ _).trans hplace) hpruned'
    refine ⟨hcwd, fun loc => ?_⟩
    rw [hsecond.get?_eq, hsame.get?_eq, hfirst.get?_eq]
  | ok place =>
    have hoff : w.files.tree.AgreesOff place w'.files.tree := by
      intro loc hloc
      by_contra hchange
      obtain ⟨there, hthere, hbelow⟩ := hdiffer.at_reports loc hchange
      obtain rfl : place = there := Except.ok.inj (hplace.symm.trans hthere)
      exact hloc hbelow
    have hplace' := hapart.locate hentry hplace hdiffer.cwd_eq hoff
    have hoff₁ := hpruned.agreesOff hplace
    have hoff₁' : w.files.tree.AgreesOff place w₁'.files.tree := fun loc hloc =>
      (hpruned'.agreesOff hplace' loc hloc).trans (hoff loc hloc)
    have hplace₁ := hapart.locate hentry hplace hpruned.cwd_eq hoff₁
    have hplace₁' := hapart.locate hentry hplace (hpruned'.cwd_eq.trans hdiffer.cwd_eq) hoff₁'
    refine ⟨hcwd, fun loc => ?_⟩
    by_cases hbelow : place <+: loc
    · rw [Report.get?_of_reset hnested hreset hplace₁ hbelow,
        Report.get?_of_reset hnested' hreset' hplace₁' hbelow]
    · rw [hoff₁' loc hbelow, hoff₁ loc hbelow]

/-- Nothing is left at the report directory and below, if it had a place. -/
theorem get?_of_reset (hentry : config.reportDir.IsEntryOf config.outputRoot)
    (hapart : config.FindsRootApart w.files) (hnested : w.files.tree.IsNested)
    (hreset : Report.reset config.reportDir w = (.ok true, w₁)) {place loc : Location}
    (hplace : w.files.locate false config.reportDir.text = .ok place) (hbelow : place <+: loc) :
    w₁.files.tree.get? loc = none := by
  have hpruned := Report.reset_pruned config.reportDir w
  rw [hreset] at hpruned
  have hplace₁ := hapart.locate hentry hplace hpruned.cwd_eq (hpruned.agreesOff hplace)
  exact Report.get?_of_reset hnested hreset hplace₁ hbelow

end Config

end ScanLauncher
