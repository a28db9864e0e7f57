import ScanLauncher.Proofs.Process.Independence
import ScanLauncher.Proofs.Report.Listing
import ScanLauncher.Proofs.Run.Transcript

namespace ScanLauncher

/-- The number of regular files. -/
def Tree.regularCount (tree : Tree) : Nat := tree.entries.countP (·.2.isRegular)

namespace FileSystem

private theorem isStableFor_regularCount (count : Nat) :
    IsStableFor (·.isRegular = false) (·.tree.regularCount ≤ count) where
  filter fs keep h := Nat.le_trans List.filter_sublist.countP_le h
  put fs _ _ place entry hentry h _ := by
    have hkept : (fs.tree.erase place).regularCount ≤ fs.tree.regularCount :=
      List.filter_sublist.countP_le
    have hput : (fs.tree.put place entry).regularCount = (fs.tree.erase place).regularCount := by
      simp [Tree.regularCount, Tree.put, Tree.erase, hentry]
    exact Nat.le_trans (hput ▸ hkept) h

private theorem regularCount_apply {fs fs' : FileSystem} {change : Change} (h : fs.apply change = .ok fs') :
    fs'.tree.regularCount ≤ fs.tree.regularCount + 1 := by
  have hstable := isStableFor_regularCount fs.tree.regularCount
  have hother (hentry : ∀ entry, change.entry? = some entry → entry.isRegular = false) :
      fs'.tree.regularCount ≤ fs.tree.regularCount :=
    hstable.apply rfl hentry (Nat.le_refl _) h
  cases change with
  | file path content isExecutable =>
    obtain ⟨made, hmade, hwrite⟩ := exists_made h
    obtain ⟨place, _, rfl⟩ := writeFile_eq_ok hwrite
    have hfirst := hstable.makeDirectories rfl (Nat.le_refl _) hmade
    have hkept : (made.tree.erase place).regularCount ≤ made.tree.regularCount :=
      List.filter_sublist.countP_le
    have hput : (made.tree.put place (.file content isExecutable)).regularCount =
        (made.tree.erase place).regularCount + 1 := by
      simp [Tree.regularCount, Tree.put, Tree.erase, Entry.isRegular]
    simp only [hput]
    omega
  | directory | link | fifo | remove =>
    exact Nat.le_succ_of_le (hother (by simp [Change.entry?, Entry.isRegular]))

private theorem regularCount_applyAll (fs : FileSystem) (changes : List Change) :
    (fs.applyAll changes).1.tree.regularCount ≤ fs.tree.regularCount + changes.length := by
  induction changes generalizing fs with
  | nil => exact Nat.le_refl _
  | cons change rest ih =>
    rw [applyAll, List.length_cons]
    split
    · rename_i made happly
      have hfirst := regularCount_apply happly
      have hrest := ih made
      omega
    · exact Nat.le_add_right _ _

end FileSystem

private theorem Tree.countP_children_le (tree : Tree) (loc : Location) :
    (tree.children loc).countP (·.2.isRegular) ≤ tree.regularCount := by
  rw [children, List.countP_filterMap]
  refine List.countP_mono_left fun e _ hregular => ?_
  cases hlast : e.1.getLast? with
  | none => simp [hlast] at hregular
  | some name =>
    by_cases hinside : e.1.dropLast = loc
    · simpa [hlast, hinside] using hregular
    · simp [hlast, hinside] at hregular

private theorem Report.length_list_le {path : Path} {w : World} {reports : List ReportFile}
    (hlist : (list path w).1 = .ok reports) : reports.length ≤ w.files.tree.regularCount := by
  obtain rfl | ⟨place, _, rfl⟩ := eq_regularNames_of_list hlist
  · exact Nat.zero_le _
  · rw [List.length_map, regularNames, List.length_mergeSort, List.length_map,
      ← List.countP_eq_length_filter]
    exact w.files.tree.countP_children_le place

namespace Session

private theorem changeCount_cons (step : OutputStep) (rest : List OutputStep) :
    Body.changeCount (step :: rest) = step.changes.length + Body.changeCount rest := by
  cases step <;> rfl

private theorem chunkBound_eq (session : Session) : session.chunkBound = session.child.unread.length + 1 := by
  unfold chunkBound Child.unread
  induction session.child.steps with
  | nil => simp
  | cons step rest ih =>
    cases step <;> simp_all [OutputStep.bytes]
    omega

/-- As many regular files as there can be when the output has ended. -/
def outlook (session : Session) (w : World) : Nat :=
  w.files.tree.regularCount + Body.changeCount session.child.steps

theorem Effect.outlook_le {session session' : Session} {w w' : World}
    (h : Effect session w session' w') : session'.outlook w' ≤ session.outlook w := by
  cases h with
  | @takeStep step rest _ hsteps =>
    have hmade := w.files.regularCount_applyAll step.changes
    have hcount := changeCount_cons step rest
    simp only [outlook, withChild, hsteps]
    omega
  | reach | signalChild | finish => simp [outlook, withChild, World.shown]
  | _ => exact Nat.le_refl _

theorem Effects.outlook_le {first session : Session} {w₀ w : World}
    (h : Effects first w₀ session w) : session.outlook w ≤ first.outlook w₀ :=
  h.of_step (motive := fun session w => session.outlook w ≤ first.outlook w₀)
    (fun heffect hinv => Nat.le_trans heffect.outlook_le hinv) (Nat.le_refl _)

namespace Produces

private theorem effects {session last : Session} {w w' : World} {chunks : List (List UInt8)}
    {result : Except Failure Unit} (h : session.Produces w chunks result last w')
    {first : Session} {w₀ : World} (hfirst : Effects first w₀ session w) :
    Effects first w₀ last w' := by
  induction h with
  | drained hnext | failed hnext =>
    have hlast := effects_next _ _ hfirst
    rwa [hnext] at hlast
  | chunk hnext _ ih =>
    have hafter := effects_next _ _ hfirst
    rw [hnext] at hafter
    exact ih hafter

theorem length_le {session last : Session} {w w' : World} {chunks : List (List UInt8)}
    {result : Except Failure Unit} (h : session.Produces w chunks result last w')
    (hreading : session.IsReading) : chunks.length ≤ session.child.unread.length := by
  induction h with
  | drained | failed => exact Nat.zero_le _
  | @chunk session after last w w' w'' chunk rest result hnext _ ih =>
    obtain ⟨_, _, _, hnext', hcase⟩ := Session.next_cases hreading w
    rw [hnext] at hnext'
    cases hnext'
    cases hcase with
    | chunk hchunk hunread hreading' =>
      have hpos := List.length_pos_iff.mpr hchunk
      have hrest := ih hreading'
      rw [← hunread, List.length_append, List.length_cons]
      omega

end Produces

end Session

namespace Transcript

private theorem length_lines_le (reports : List ReportFile) : (lines reports).length ≤ reports.length := by
  induction reports with
  | nil => exact Nat.le_refl 0
  | cons report rest ih =>
    unfold lines
    split
    · simpa using ih
    · exact Nat.zero_le _

variable {run : Run} {w : World} (t : Transcript run w)

private theorem length_reportItems_le : t.reportItems.length ≤ t.world.files.tree.regularCount := by
  unfold reportItems
  split
  · exact Nat.le_trans (length_lines_le _) (Report.length_list_le ‹_›)
  · exact Nat.zero_le _

/-- The bound of a body that has not been begun is above the number of its items. -/
theorem length_items_lt (hunread : t.session.exitStatus = none) :
    t.items.length < Body.itemBound { run } w := by
  have hreading : Session.IsReading { t.session with reader := .fresh } := ⟨.inl rfl, hunread⟩
  have hchunks := t.produces.length_le hreading
  have houtlook := (t.produces.effects .refl).outlook_le
  have hreports := t.length_reportItems_le
  have hlate : t.lateItems.length ≤ t.reportItems.length + 3 := by
    unfold lateItems
    split <;> simp
  have hregular : w.files.tree.regularCount ≤ w.files.tree.entries.length := List.countP_le_length
  have hitems : t.items.length = t.chunks.length + t.lateItems.length + 1 := by simp [items]
  have hbound : Body.itemBound { run } w = t.session.child.unread.length + 1 +
      Body.changeCount t.session.child.steps + (w.files.tree.entries.length + 8) := by
    simp [Body.itemBound, t.sessions_eq, Session.chunkBound_eq]
  simp only [Session.outlook] at houtlook hchunks
  rw [hitems, hbound]
  omega

end Transcript

end ScanLauncher
