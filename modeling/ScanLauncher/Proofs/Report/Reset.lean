import ScanLauncher.Proofs.Action
import ScanLauncher.Proofs.Files.Locate
import ScanLauncher.Proofs.Files.Same
import ScanLauncher.Proofs.Files.Stable
import ScanLauncher.Report.Reset

namespace ScanLauncher

namespace FileSystem

/-- The files `after` are those of `before`, less some that stand where `path` led to or below. -/
structure Pruned (before : FileSystem) (path : Text) (after : FileSystem) : Prop where
  cwd_eq : after.cwd = before.cwd
  subset : ∀ loc entry, after.tree.get? loc = some entry → before.tree.get? loc = some entry
  at_path : ∀ loc, after.tree.get? loc ≠ before.tree.get? loc →
    ∃ place, before.locate false path = .ok place ∧ place <+: loc

namespace Pruned

variable {path : Text} {before after : FileSystem}

theorem refl (fs : FileSystem) (path : Text) : fs.Pruned path fs :=
  ⟨rfl, fun _ _ h => h, fun _ h => absurd rfl h⟩

/-- The path still leads where it led, if it leads anywhere. -/
theorem locate (h : Pruned before path after) {place : Location}
    (hplace : after.locate false path = .ok place) : before.locate false path = .ok place := by
  obtain ⟨text, hsystem, hempty, hsize, hwalk⟩ := locate_eq_ok.mp hplace
  rw [h.cwd_eq] at hwalk
  exact locate_eq_ok.mpr ⟨text, hsystem, hempty, hsize, walk_of_subset h.subset hwalk⟩

/-- More may be taken away, as long as it stands where the path leads to or below. -/
theorem filter (h : Pruned before path after) (keep : Location → Bool) {place : Location}
    (hplace : after.locate false path = .ok place)
    (hkeep : ∀ loc, keep loc = false → place <+: loc) :
    Pruned before path
      { after with tree := ⟨after.tree.entries.filter fun e => keep e.1⟩ } := by
  refine ⟨h.cwd_eq, fun loc entry hentry => ?_, fun loc hchange => ?_⟩
  · rw [Tree.get?_filter] at hentry
    split at hentry
    · exact h.subset loc entry hentry
    · cases hentry
  · rw [Tree.get?_filter] at hchange
    split at hchange
    · exact h.at_path loc hchange
    · rename_i hdropped
      have hdropped := (not_or.mp hdropped).2
      exact ⟨place, h.locate hplace, hkeep loc (eq_false_of_ne_true hdropped)⟩

theorem erase (h : Pruned before path after) {place : Location}
    (hplace : after.locate false path = .ok place) :
    Pruned before path { after with tree := after.tree.erase place } := by
  refine h.filter (· != place) hplace fun loc hloc => ?_
  obtain rfl : loc = place := by simpa using hloc
  exact List.prefix_rfl

theorem clear (h : Pruned before path after) {place : Location}
    (hplace : after.locate false path = .ok place) :
    Pruned before path { after with tree := after.tree.clear place } := by
  refine h.filter (!Tree.isBelow place ·) hplace fun loc hloc => ?_
  have hbelow : Tree.isBelow place loc = true := by simpa using hloc
  exact List.isPrefixOf_iff_prefix.mp (Bool.and_eq_true_iff.mp hbelow).1

theorem unlink (h : Pruned before path after) {removed : FileSystem}
    (hremoved : after.unlink path = .ok removed) : Pruned before path removed := by
  obtain ⟨place, entry, hlookup, _, rfl⟩ := unlink_eq_ok hremoved
  exact h.erase (lookup_eq_ok.mp hlookup).1

theorem removeTree (h : Pruned before path after) :
    Pruned before path (after.removeTree path).1 := by
  have hcase := after.removeTree_cases path
  generalize (after.removeTree path).1 = left at hcase ⊢
  cases hcase with
  | refused => exact h
  | cleared hlookup => exact h.clear (lookup_eq_ok.mp hlookup).1
  | removed hlookup hagain =>
    exact (h.clear (lookup_eq_ok.mp hlookup).1).erase (lookup_eq_ok.mp hagain).1

end Pruned

end FileSystem

namespace Report

variable {path : Path}

/-- The removal of what is a directory or not. -/
def removeAs (path : Path) (isTree : Bool) : Act Unit := do
  let faults := (← get).faults
  if isTree then
    if faults.isRemovalUnsafe then
      Act.log .debug .reset "shutil.rmtree is not symlink-attack safe on this platform"
    withFault faults.removeTree path (removeTree path)
  else withFault faults.unlink path (unlink path)

theorem remove_eq (path : Path) :
    remove path = (do
      let isLink ← ask FileSystem.isLink? path
      if isLink then removeAs path false
      else do removeAs path (← ask FileSystem.isDirectory? path)) := rfl

theorem keeps_hasEntry (inv : World → Prop) : (hasEntry path).Keeps inv :=
  Act.keeps_get.bind fun _ => Act.keeps_ofExcept _ _

theorem keeps_ask (inv : World → Prop) (question : FileSystem → Text → Except Errno Bool) :
    (ask question path).Keeps inv :=
  Act.keeps_get.bind fun _ => Act.keeps_ofExcept _ _

theorem keeps_withFault {inv : World → Prop} {call : Act Unit} (hcall : call.Keeps inv)
    (fault : Option FaultEffect) : (withFault fault path call).Keeps inv := by
  rcases fault with _ | _ | _ | _
  · exact hcall
  · exact Act.keeps_throw _
  · exact Act.keeps_throw _
  · exact Act.keeps_pure _

section Removal

variable {inv : World → Prop} (hnote : ∀ w level message, inv w → inv (w.note level .reset message))
  (hunlink : (unlink path).Keeps inv) (htree : (removeTree path).Keeps inv)

include hnote hunlink htree

theorem keeps_removeAs (isTree : Bool) : (removeAs path isTree).Keeps inv := by
  refine Act.keeps_get.bind fun w => ?_
  cases isTree with
  | true =>
    rw [if_pos rfl]
    exact .optional (Act.keeps_modify fun w h => hnote w _ _ h) (keeps_withFault htree _)
  | false => exact keeps_withFault hunlink w.faults.unlink

private theorem keeps_remove : (remove path).Keeps inv := by
  rw [remove_eq]
  refine (keeps_ask _ _).bind fun isLink => ?_
  cases isLink with
  | true => exact keeps_removeAs hnote hunlink htree false
  | false => exact (keeps_ask _ _).bind (keeps_removeAs hnote hunlink htree)

theorem keeps_reset : (reset path).Keeps inv := by
  have hlog (level : LogLevel) (message : Text) (answer : Bool) :
      (do Act.log level .reset message; return answer : Act Bool).Keeps inv :=
    Act.Keeps.bind (Act.keeps_modify fun w h => hnote w level message h) fun _ => Act.keeps_pure _
  refine (keeps_hasEntry _).bind fun isPresent => ?_
  cases isPresent with
  | false => exact hlog _ _ _
  | true =>
    refine (keeps_remove hnote hunlink htree).attempt.bind fun result => ?_
    cases result with
    | error failure =>
      cases failure with
      | os error => exact hlog _ _ _
      | _ => exact Act.keeps_throw _
    | ok _ =>
      refine (keeps_hasEntry _).bind fun isLeft => ?_
      cases isLeft <;> exact hlog _ _ _

end Removal

/-- What the two ways of removal keep of the files, a reset keeps. -/
theorem keepsFiles_reset {P : FileSystem → Prop}
    (hunlink : ∀ fs removed, P fs → fs.unlink path.text = .ok removed → P removed)
    (htree : ∀ fs, P fs → P (fs.removeTree path.text).1) : (reset path).Keeps fun w => P w.files := by
  refine keeps_reset (fun _ _ _ h => h) (fun w h => ?_) fun w h => ?_
  · simp only [unlink, Act.bind_apply, Act.get_apply]
    cases hremoved : w.files.unlink path.text with
    | error fault => exact h
    | ok removed => exact hunlink w.files removed h hremoved
  · have hremoved := htree w.files h
    rcases hresult : w.files.removeTree path.text with ⟨files, result⟩
    rw [hresult] at hremoved
    simp only [removeTree, Act.bind_apply, Act.get_apply, hresult, Act.modify_apply]
    cases result with
    | ok _ => exact hremoved
    | error _ => exact hremoved

/-- Apart from what it notes, a reset works on the files only. -/
theorem keeps_reset_of_files {inv : World → Prop}
    (hnote : ∀ w level message, inv w → inv (w.note level .reset message))
    (hfiles : ∀ w files, inv w → inv { w with files }) : (reset path).Keeps inv := by
  refine keeps_reset hnote (fun w h => ?_) fun w h => ?_
  · simp only [unlink, Act.bind_apply, Act.get_apply]
    cases w.files.unlink path.text with
    | error fault => exact h
    | ok removed => exact hfiles w removed h
  · simp only [removeTree, Act.bind_apply, Act.get_apply, Act.modify_apply]
    cases (w.files.removeTree path.text).2 with
    | ok _ => exact hfiles w _ h
    | error _ => exact hfiles w _ h

theorem reset_filesOnly (path : Path) (w : World) : w.FilesOnly (reset path w).2 :=
  keeps_reset_of_files (fun _ _ _ h => h.trans rfl) (fun _ _ h => h.trans rfl) w (.refl w)

/-- A reset changes nothing but what stands where the path leads to, and below. -/
theorem reset_pruned (path : Path) (w : World) :
    w.files.Pruned path.text (reset path w).2.files :=
  keepsFiles_reset (fun _ _ h => h.unlink) (fun _ h => h.removeTree) w (.refl w.files path.text)

section Failing

open Failure

theorem fails_hasEntry (path : Path) : (hasEntry path).Fails IsForeign :=
  Act.fails_get.bind fun _ => Act.fails_ofExcept (isForeign_ofPathFault _) _

theorem fails_ask (question : FileSystem → Text → Except Errno Bool) (path : Path) :
    (ask question path).Fails IsForeign := by
  have hfailure (e : Errno) : IsForeign (.os (.about e path.text)) := rfl
  exact Act.fails_get.bind fun _ => Act.fails_ofExcept hfailure _

theorem fails_withFault (fault : Option FaultEffect) (path : Path) {call : Act Unit}
    (hcall : call.Fails IsForeign) : (withFault fault path call).Fails IsForeign := by
  rcases fault with _ | _ | _ | _
  · exact hcall
  · exact Act.fails_throw rfl
  · exact Act.fails_throw rfl
  · exact Act.fails_pure _

private theorem fails_unlink (path : Path) : (unlink path).Fails IsForeign :=
  Act.fails_get.bind fun _ => (Act.fails_ofExcept (isForeign_ofPathFault _) _).bind fun _ =>
    Act.fails_modify _

private theorem fails_removeTree (path : Path) : (removeTree path).Fails IsForeign := by
  refine Act.fails_get.bind fun w => ?_
  exact (Act.fails_modify _).bind fun _ => Act.fails_ofExcept (isForeign_ofPathFault _) _

theorem fails_removeAs (path : Path) (isTree : Bool) : (removeAs path isTree).Fails IsForeign := by
  refine Act.fails_get.bind fun w => ?_
  cases isTree with
  | true =>
    rw [if_pos rfl]
    exact .optional (Act.fails_log _ _ _) (fails_withFault _ path (fails_removeTree path))
  | false => exact fails_withFault _ path (fails_unlink path)

private theorem fails_remove (path : Path) : (remove path).Fails IsForeign := by
  rw [remove_eq]
  refine (fails_ask _ path).bind fun isLink => ?_
  cases isLink with
  | true => exact fails_removeAs path false
  | false => exact (fails_ask _ path).bind (fails_removeAs path)

/-- A reset fails with nothing that the program raises by itself. -/
theorem fails_reset (path : Path) : (reset path).Fails IsForeign := by
  refine (fails_hasEntry path).bind fun isPresent => ?_
  cases isPresent with
  | false => exact (Act.fails_log _ _ _).bind fun _ => Act.fails_pure _
  | true =>
    refine (fails_remove path).bind_attempt (fun _ => ?_) fun failure hfailure => ?_
    · refine (fails_hasEntry path).bind fun isLeft => ?_
      cases isLeft <;> exact (Act.fails_log _ _ _).bind fun _ => Act.fails_pure _
    · cases failure with
      | os error => exact (Act.fails_log _ _ _).bind fun _ => Act.fails_pure _
      | _ => exact Act.fails_throw hfailure

end Failing

end Report

end ScanLauncher
