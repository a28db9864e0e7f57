import Mathlib.Tactic.ByContra
import ScanLauncher.Proofs.Report.Emptied

namespace ScanLauncher

namespace FileSystem

variable {fs fs' : FileSystem} {path : Text} {place : Location} {entry : Entry}

private theorem walk_follow {tree : Tree} {hops : Nat} {here loc : Location} {names : List Text}
    (hloc : ∀ target, tree.get? loc ≠ some (.link target))
    (h : walk tree false hops here names = .ok loc) : walk tree true hops here names = .ok loc := by
  fun_induction walk tree false hops here names with
  | case1 hops here => rw [walk]; exact h
  | case2 | case5 | case7 | case10 => cases h
  | case3 hops here first rest hhere hfirst ih =>
    rw [walk_cons_idle hhere hfirst]
    exact ih h
  | case4 hops here first rest hhere hfirst hup ih =>
    rw [walk_cons_up hhere hfirst hup]
    exact ih h
  | case6 hops here first rest hhere hfirst hup hlong target hlink hend =>
    obtain rfl := Except.ok.inj h
    exact absurd hlink (hloc target)
  | case8 here first rest hhere hfirst hup hlong target hlink hmore hops ih =>
    rw [walk_cons_link hhere hfirst hup hlong hlink (by simp)]
    exact ih h
  | case9 hops here first rest hhere hfirst hup hlong hplain ih =>
    rw [walk_cons_plain hhere hfirst hup hlong hplain]
    exact ih h

private theorem lookup_follow (h : fs.lookup false path = .ok (place, entry))
    (hlink : entry.isLink = false) : fs.lookup true path = .ok (place, entry) := by
  obtain ⟨hplace, hentry⟩ := lookup_eq_ok.mp h
  obtain ⟨text, hsystem, hempty, hsize, hwalk⟩ := locate_eq_ok.mp hplace
  refine lookup_eq_ok.mpr ⟨locate_eq_ok.mpr ⟨text, hsystem, hempty, hsize, ?_⟩, hentry⟩
  refine walk_follow (fun target htarget => ?_) hwalk
  rw [hentry] at htarget
  obtain rfl := Option.some.inj htarget
  cases hlink

theorem isLink?_of_lookup (h : fs.lookup false path = .ok (place, entry)) :
    fs.isLink? path = .ok entry.isLink := by
  simp [isLink?, ask, h]

theorem isDirectory?_of_lookup (h : fs.lookup false path = .ok (place, entry))
    (hlink : entry.isLink = false) : fs.isDirectory? path = .ok entry.isDirectory := by
  simp [isDirectory?, ask, lookup_follow h hlink]

theorem hasEntry?_eq_true :
    fs.hasEntry? path = .ok true ↔ ∃ place entry, fs.lookup false path = .ok (place, entry) := by
  unfold hasEntry?
  cases hlookup : fs.lookup false path with
  | ok found =>
    obtain ⟨place, entry⟩ := found
    simp
  | error fault => cases fault <;> simp

private theorem exists_errno_of_locate {follow : Bool} {text : Text} {fault : PathFault}
    (hsystem : systemText path = .ok text) (h : fs.locate follow path = .error fault) :
    ∃ e, fault = .errno e := by
  simp only [locate, hsystem, bind, Except.bind] at h
  split at h
  · exact ⟨_, (Except.error.inj h).symm⟩
  split at h
  · exact ⟨_, (Except.error.inj h).symm⟩
  · cases hwalk : walk fs.tree follow linkLimit (start fs.cwd text) (names text) with
    | ok loc => simp [hwalk, Except.mapError] at h
    | error e =>
      rw [hwalk] at h
      exact ⟨e, (Except.error.inj h).symm⟩

/-- The system has an answer about every path that it takes. -/
theorem exists_hasEntry? {text : Text} (hsystem : systemText path = .ok text) :
    ∃ answer, fs.hasEntry? path = .ok answer := by
  unfold hasEntry? lookup
  cases hlocate : fs.locate false path with
  | error fault =>
    obtain ⟨e, rfl⟩ := exists_errno_of_locate hsystem hlocate
    exact ⟨false, rfl⟩
  | ok loc => cases hloc : fs.tree.get? loc <;> simp [bind, Except.bind, hloc, pure, Except.pure]

private theorem not_errno_of_hasEntry? {fault : PathFault} (h : fs.hasEntry? path = .error fault)
    (e : Errno) : fault ≠ .errno e := by
  rintro rfl
  unfold hasEntry? at h
  split at h
  · cases h
  · cases h
  · rename_i hother _
    exact hother e (Except.error.inj h)

/-- Nothing is at a path whose place was emptied. -/
theorem Pruned.hasEntry?_eq_false (h : fs.Pruned path fs')
    (hlookup : fs.lookup false path = .ok (place, entry)) (hplace : fs'.tree.get? place = none) :
    fs'.hasEntry? path = .ok false := by
  obtain ⟨hlocate, hentry⟩ := lookup_eq_ok.mp hlookup
  obtain ⟨text, hsystem, _⟩ := locate_eq_ok.mp hlocate
  obtain ⟨answer, hanswer⟩ := fs'.exists_hasEntry? hsystem
  cases answer with
  | false => exact hanswer
  | true =>
    -- What is left at the path would stand where the path led to before.
    obtain ⟨there, left, hleft⟩ := hasEntry?_eq_true.mp hanswer
    obtain ⟨hthere, hentry'⟩ := lookup_eq_ok.mp hleft
    obtain rfl : place = there := Except.ok.inj (hlocate.symm.trans (h.locate hthere))
    rw [hplace] at hentry'
    cases hentry'

/-- What goes with an entry: the entry, and all that is below it if it is a directory. -/
def Takes (place : Location) (entry : Entry) (loc : Location) : Prop :=
  loc = place ∨ entry = .directory ∧ Tree.isBelow place loc = true

/-- The files `fs'` are those of `fs` less one entry and what goes with it. -/
structure Loses (fs : FileSystem) (place : Location) (entry : Entry) (fs' : FileSystem) : Prop where
  cwd_eq : fs'.cwd = fs.cwd
  gone : ∀ loc, Takes place entry loc → fs'.tree.get? loc = none
  kept : ∀ loc, ¬ Takes place entry loc → fs'.tree.get? loc = fs.tree.get? loc

private theorem Loses.pruned (hloses : fs.Loses place entry fs')
    (hlookup : fs.lookup false path = .ok (place, entry)) : fs.Pruned path fs' := by
  refine ⟨hloses.cwd_eq, fun loc found hfound => ?_, fun loc hchange => ?_⟩
  · by_cases htakes : Takes place entry loc
    · rw [hloses.gone loc htakes] at hfound
      cases hfound
    · rw [← hfound, hloses.kept loc htakes]
  · refine ⟨place, (lookup_eq_ok.mp hlookup).1, ?_⟩
    by_contra hoff
    refine hchange (hloses.kept loc ?_)
    rintro (rfl | ⟨_, hbelow⟩)
    · exact hoff List.prefix_rfl
    · exact hoff (List.isPrefixOf_iff_prefix.mp (Bool.and_eq_true_iff.mp hbelow).1)

private theorem unlink_of_lookup (h : fs.lookup false path = .ok (place, entry))
    (hentry : entry.isDirectory = false) :
    ∃ fs', fs.unlink path = .ok fs' ∧ fs.Loses place entry fs' := by
  have hplace : place ≠ [] := by
    rintro rfl
    obtain rfl := Option.some.inj (lookup_eq_ok.mp h).2
    cases hentry
  have htakes (loc : Location) : Takes place entry loc ↔ loc = place := by
    refine or_iff_left ?_
    rintro ⟨rfl, _⟩
    cases hentry
  refine ⟨{ fs with tree := fs.tree.erase place }, ?_, rfl, fun loc hloc => ?_, fun loc hloc => ?_⟩
  · cases entry with
    | directory => cases hentry
    | file | link | fifo => simp [unlink, h, bind, Except.bind, pure, Except.pure]
  · obtain rfl := (htakes loc).mp hloc
    simp [Tree.erase, Tree.get?_filter fs.tree (· != loc), hplace]
  · have hother : loc ≠ place := fun hsame => hloc ((htakes loc).mpr hsame)
    simp [Tree.erase, Tree.get?_filter fs.tree (· != place), hother]

end FileSystem

/-- The last name of the path of an entry is neither a dot nor a double dot. -/
theorem Path.IsEntryOf.getLast?_names {path base : Path} (hentry : path.IsEntryOf base) :
    ∃ name, Config.isComponent name = true ∧
      (FileSystem.names path.text).getLast? = some name := by
  obtain ⟨name, hname, rfl⟩ := hentry
  obtain ⟨_, hslash, _⟩ := Config.isComponent_iff.mp hname
  have hlast (front : Text) :
      (FileSystem.names (front ++ "/" ++ name)).getLast? = some name := by
    rw [FileSystem.names_append_slash front hslash, List.getLast?_concat]
  refine ⟨name, hname, ?_⟩
  obtain ⟨anchor, parts⟩ := base
  cases parts with
  | cons part rest =>
    rw [text_concat (List.cons_ne_nil part rest)]
    exact hlast _
  | nil =>
    rw [text_singleton]
    cases anchor with
    | relative => exact congrArg List.getLast? (FileSystem.names_of_no_slash hslash)
    | root => exact hlast ""
    | doubleRoot => exact hlast "/"

namespace FileSystem

variable {fs : FileSystem} {path base : Path} {place : Location}

private theorem removeTree_of_lookup (hentry : path.IsEntryOf base) (hbase : base.IsProper)
    (hapart : fs.FindsApart path base) (h : fs.lookup false path.text = .ok (place, .directory)) :
    ∃ fs', fs.removeTree path.text = (fs', .ok ()) ∧ fs.Loses place .directory fs' := by
  obtain ⟨hplace, hdirectory⟩ := lookup_eq_ok.mp h
  obtain ⟨root, name, hroot, rfl⟩ := hentry.locate hbase hplace
  have hcleared (loc : Location) : (fs.tree.clear (root ++ [name])).get? loc =
      if Tree.isBelow (root ++ [name]) loc then none else fs.tree.get? loc := by
    rw [Tree.clear, fs.tree.get?_filter fun loc => !Tree.isBelow (root ++ [name]) loc]
    by_cases hloc : loc = []
    · subst hloc
      simp [Tree.isBelow]
    · cases Tree.isBelow (root ++ [name]) loc <;> simp [hloc]
  have hself : Tree.isBelow (root ++ [name]) (root ++ [name]) = false := by simp [Tree.isBelow]
  -- The way to the directory does not need what was in it.
  have hagain : { fs with tree := fs.tree.clear (root ++ [name]) }.locate false path.text =
      .ok (root ++ [name]) := by
    refine hapart.locate hentry hbase hplace rfl fun loc hoff => ?_
    have hbelow : Tree.isBelow (root ++ [name]) loc = false := by
      simp only [Tree.isBelow, Bool.and_eq_false_imp]
      intro hprefix
      exact absurd (List.isPrefixOf_iff_prefix.mp hprefix) hoff
    exact (hcleared loc).trans (by simp [hbelow])
  obtain ⟨last, hlast, hnames⟩ := hentry.getLast?_names
  obtain ⟨_, _, hdot, hdots⟩ := Config.isComponent_iff.mp hlast
  refine ⟨{ fs with tree := (fs.tree.clear (root ++ [name])).erase (root ++ [name]) }, ?_, rfl,
    fun loc hloc => ?_, fun loc hloc => ?_⟩
  · simp [removeTree, removeDirectory, h, hagain, hcleared, hself, hdirectory, hnames, bind,
      Except.bind, pure, Except.pure, dot, doubleDot, hdot, hdots]
  · rw [Tree.erase, Tree.get?_filter _ (· != root ++ [name]), hcleared]
    rcases hloc with rfl | ⟨_, hbelow⟩
    · simp
    · simp [hbelow]
  · obtain ⟨hother, hbelow⟩ := not_or.mp hloc
    rw [Tree.erase, Tree.get?_filter _ (· != root ++ [name]), hcleared]
    simp [hother, eq_false_of_ne_true fun h => hbelow ⟨rfl, h⟩]

end FileSystem

namespace Report

variable {path base : Path} {w : World} {place : Location} {entry : Entry}

/-- A call that a fault is set for fails as the system does or does nothing, and leaves all as it
is. -/
theorem withFault_apply (effect : FaultEffect) (path : Path) (call : Act Unit) (w : World) :
    ∃ result, withFault (some effect) path call w = (result, w) ∧
      ∀ failure, result = .error failure → ∃ error, failure = .os error := by
  cases effect with
  | silent => exact ⟨.ok (), rfl, nofun⟩
  | errno e => exact ⟨_, rfl, fun _ h => ⟨_, (Except.error.inj h).symm⟩⟩
  | text s => exact ⟨_, rfl, fun _ h => ⟨_, (Except.error.inj h).symm⟩⟩

theorem ask_apply {question : FileSystem → Text → Except Errno Bool} {answer : Bool}
    (h : question w.files path.text = .ok answer) : ask question path w = (.ok answer, w) := by
  simp only [ask, Act.bind_apply, Act.get_apply, h]
  rfl

private theorem remove_of_other (h : w.files.lookup false path.text = .ok (place, entry))
    (hentry : entry.isDirectory = false) :
    remove path w = withFault w.faults.unlink path (unlink path) w := by
  have hlink := ask_apply (FileSystem.isLink?_of_lookup h)
  unfold remove
  cases hkind : entry.isLink with
  | true => simp [hlink, hkind]
  | false =>
    have hdirectory := ask_apply (FileSystem.isDirectory?_of_lookup h hkind)
    simp [hlink, hkind, hdirectory, hentry]

private theorem remove_of_directory (h : w.files.lookup false path.text = .ok (place, .directory)) :
    ∃ w₁, w.RecordsOnly w₁ ∧
      remove path w = withFault w.faults.removeTree path (removeTree path) w₁ := by
  have hlink := ask_apply (FileSystem.isLink?_of_lookup h)
  have hdirectory := ask_apply (FileSystem.isDirectory?_of_lookup h rfl)
  unfold remove
  cases hunsafe : w.faults.isRemovalUnsafe with
  | true =>
    refine ⟨w.note .debug .reset "shutil.rmtree is not symlink-attack safe on this platform",
      w.recordsOnly_note .debug .reset _, ?_⟩
    simp [hlink, hdirectory, hunsafe, Entry.isLink, Entry.isDirectory]
  | false =>
    refine ⟨w, .refl w, ?_⟩
    simp [hlink, hdirectory, hunsafe, Entry.isLink, Entry.isDirectory]

/-- How the removal of an entry can go: a fault leaves everything there, or the entry goes. -/
inductive RemoveCase (w : World) (place : Location) (entry : Entry) :
    Except Failure Unit × World → Prop
  | faulty {result : Except Failure Unit} {w' : World}
      (hresult : ∀ failure, result = .error failure → ∃ error, failure = .os error)
      (hrecords : w.RecordsOnly w') : RemoveCase w place entry (result, w')
  | removed {w' : World} (hloses : w.files.Loses place entry w'.files) :
      RemoveCase w place entry (.ok (), w')

private theorem remove_cases (hentry : path.IsEntryOf base) (hbase : base.IsProper)
    (hapart : w.files.FindsApart path base)
    (h : w.files.lookup false path.text = .ok (place, entry)) :
    RemoveCase w place entry (remove path w) := by
  cases hkind : entry.isDirectory with
  | false =>
    rw [remove_of_other h hkind]
    cases w.faults.unlink with
    | some effect =>
      obtain ⟨result, happly, hresult⟩ := withFault_apply effect path (unlink path) w
      rw [happly]
      exact .faulty hresult (.refl w)
    | none =>
      obtain ⟨files, hunlink, hloses⟩ := FileSystem.unlink_of_lookup h hkind
      have happly : withFault none path (unlink path) w = (.ok (), { w with files }) := by
        simp only [withFault, unlink, Act.bind_apply, Act.get_apply, hunlink]
        rfl
      exact happly ▸ .removed hloses
  | true =>
    obtain rfl : entry = .directory := by
      cases entry with
      | directory => rfl
      | file | link | fifo => cases hkind
    obtain ⟨w₁, hrecords, hremove⟩ := remove_of_directory h
    rw [hremove]
    cases w.faults.removeTree with
    | some effect =>
      obtain ⟨result, happly, hresult⟩ := withFault_apply effect path (removeTree path) w₁
      rw [happly]
      exact .faulty hresult hrecords
    | none =>
      obtain ⟨files, htree, hloses⟩ := FileSystem.removeTree_of_lookup hentry hbase hapart h
      have happly : withFault none path (removeTree path) w₁ = (.ok (), { w₁ with files }) := by
        simp only [withFault, removeTree, Act.bind_apply, Act.get_apply, Act.modify_apply,
          hrecords.files_eq, htree]
        rfl
      exact happly ▸ .removed hloses

/-- How a reset can go. -/
inductive ResetCase (path : Path) (w : World) : Except Failure Bool × World → Prop
  /-- No system takes such a path. -/
  | refused {fault : PathFault} (hfault : w.files.hasEntry? path.text = .error fault) :
      ResetCase path w (.error (.ofPathFault path.text fault), w)
  | absent {message : Text} (habsent : w.files.hasEntry? path.text = .ok false) :
      ResetCase path w (.ok true, w.note .debug .reset message)
  /-- A fault was in the way, and the entry is still there. -/
  | kept {w' : World} (hpresent : w.files.hasEntry? path.text = .ok true)
      (hrecords : w.RecordsOnly w') : ResetCase path w (.ok false, w')
  | removed {place : Location} {entry : Entry} {w' : World}
      (hpresent : w.files.lookup false path.text = .ok (place, entry))
      (hloses : w.files.Loses place entry w'.files)
      (habsent : w'.files.hasEntry? path.text = .ok false) : ResetCase path w (.ok true, w')

private theorem reset_cases (hentry : path.IsEntryOf base) (hbase : base.IsProper)
    (hapart : w.files.FindsApart path base) : ResetCase path w (reset path w) := by
  cases hfirst : w.files.hasEntry? path.text with
  | error fault =>
    have hreset : reset path w = (.error (.ofPathFault path.text fault), w) := by
      unfold reset
      rw [Act.bind_apply, hasEntry_apply, hfirst]
      rfl
    exact hreset ▸ .refused hfirst
  | ok isPresent =>
    cases isPresent with
    | false =>
      obtain ⟨message, hreset⟩ := reset_of_absent hfirst
      exact hreset ▸ .absent hfirst
    | true =>
      unfold reset
      rw [Act.bind_apply, hasEntry_apply, hfirst]
      obtain ⟨place, entry, hlookup⟩ := FileSystem.hasEntry?_eq_true.mp hfirst
      have hcases := remove_cases hentry hbase hapart hlookup
      simp only [Except.mapError, Bool.not_true, Bool.false_eq_true, if_false, Act.bind_apply,
        Act.attempt_apply]
      generalize remove path w = removal at hcases
      cases hcases with
      | @faulty result w' hresult hrecords =>
        cases result with
        | error failure =>
          obtain ⟨error, rfl⟩ := hresult failure rfl
          exact .kept hfirst (hrecords.trans (w'.recordsOnly_note _ _ _))
        | ok _ =>
          have hstill : w'.files.hasEntry? path.text = .ok true := hrecords.files_eq ▸ hfirst
          simp only [Act.bind_apply, hasEntry_apply, hstill]
          exact .kept hfirst (hrecords.trans (w'.recordsOnly_note _ _ _))
      | @removed w' hloses =>
        have hgone := hloses.gone place (.inl rfl)
        have habsent := (hloses.pruned hlookup).hasEntry?_eq_false hlookup hgone
        simp only [Act.bind_apply, hasEntry_apply, habsent]
        exact .removed hlookup hloses habsent

namespace ResetCase

variable {result : Except Failure Bool} {w' : World}

private theorem result_eq (h : ResetCase path w (result, w')) :
    result = ((w'.files.hasEntry? path.text).map (!·)).mapError (.ofPathFault path.text) := by
  cases h with
  | refused hfault => rw [hfault]; rfl
  | absent habsent =>
    change _ = ((w.files.hasEntry? path.text).map (!·)).mapError _
    rw [habsent]
    rfl
  | kept hpresent hrecords => rw [hrecords.files_eq, hpresent]; rfl
  | removed _ _ habsent => rw [habsent]; rfl

/-- What a reset changes is what goes with the entry at the path. -/
theorem confined (h : ResetCase path w (result, w')) {loc : Location}
    (hchange : w'.files.tree.get? loc ≠ w.files.tree.get? loc) :
    w'.files.tree.get? loc = none ∧
      ∃ place entry, w.files.lookup false path.text = .ok (place, entry) ∧
        FileSystem.Takes place entry loc := by
  cases h with
  | refused => exact absurd rfl hchange
  | absent => exact absurd rfl hchange
  | kept _ hrecords => exact absurd (by rw [hrecords.files_eq]) hchange
  | @removed place entry _ hpresent hloses =>
    have htakes : FileSystem.Takes place entry loc := by
      by_contra hkept
      exact hchange (hloses.kept loc hkept)
    exact ⟨hloses.gone loc htakes, place, entry, hpresent, htakes⟩

end ResetCase

/-- What can be relied on when the path `path` is reset. -/
structure ResetsHonestly (path : Path) (w : World) : Prop where
  /-- There is an answer for every path that the system takes. -/
  answers : ∀ text, FileSystem.systemText path.text = .ok text →
    ∃ answer, (reset path w).1 = .ok answer
  /-- No error of the system is raised, for whatever path. -/
  raises_none : ∀ error, (reset path w).1 ≠ .error (.os error)
  /-- The answer is yes if and only if nothing is at the path afterwards, not even a link that leads
  nowhere. -/
  yes_iff : (reset path w).1 = .ok true ↔ (reset path w).2.files.hasEntry? path.text = .ok false
  no_iff : (reset path w).1 = .ok false ↔ (reset path w).2.files.hasEntry? path.text = .ok true
  filesOnly : w.FilesOnly (reset path w).2
  cwd_eq : (reset path w).2.files.cwd = w.files.cwd
  /-- What changes is gone, and it was the entry at the path or stood below this entry, a directory
  and not a link to one. -/
  confined : ∀ loc, (reset path w).2.files.tree.get? loc ≠ w.files.tree.get? loc →
    (reset path w).2.files.tree.get? loc = none ∧
      ∃ place entry, w.files.lookup false path.text = .ok (place, entry) ∧
        FileSystem.Takes place entry loc
  /-- After a yes another reset says yes and only notes that there was nothing to do, whatever
  faults it would have met. -/
  again : (reset path w).1 = .ok true → ∀ faults, ∃ message,
    reset path { (reset path w).2 with faults } =
      (.ok true, { (reset path w).2 with faults }.note .debug .reset message)

/-- A reset of an entry is honest, idempotent and confined: for all files, with links wherever they
are and lead to, and for all faults, as long as the way to the entry does not lead through the entry
itself. -/
theorem resetsHonestly (hentry : path.IsEntryOf base) (hbase : base.IsProper)
    (hapart : w.files.FindsApart path base) : ResetsHonestly path w := by
  have hcases : ResetCase path w ((reset path w).1, (reset path w).2) :=
    reset_cases hentry hbase hapart
  have hresult := hcases.result_eq
  refine
    { answers := fun text hsystem => ?_
      raises_none := fun error herror => ?_
      yes_iff := ?_
      no_iff := ?_
      filesOnly := reset_filesOnly path w
      cwd_eq := (reset_pruned path w).cwd_eq
      confined := fun loc => hcases.confined
      again := fun hyes faults => ?_ }
  · obtain ⟨answer, hanswer⟩ := (reset path w).2.files.exists_hasEntry? hsystem
    exact ⟨!answer, hresult.trans (by rw [hanswer]; rfl)⟩
  · rw [hresult] at herror
    cases hafter : (reset path w).2.files.hasEntry? path.text with
    | ok answer => simp [hafter, Except.map, Except.mapError] at herror
    | error fault =>
      have herrno := FileSystem.not_errno_of_hasEntry? hafter
      rw [hafter] at herror
      cases fault with
      | errno e => exact herrno e rfl
      | nul => cases herror
      | unencodable => cases herror
  · rw [hresult]
    rcases (reset path w).2.files.hasEntry? path.text with _ | _ | _ <;>
      simp [Except.map, Except.mapError]
  · rw [hresult]
    rcases (reset path w).2.files.hasEntry? path.text with _ | _ | _ <;>
      simp [Except.map, Except.mapError]
  · have habsent := hasEntry?_of_reset (Prod.ext hyes rfl)
    exact reset_of_absent habsent

/-- What is outside a report directory `out/r`, with a link above it. -/
def outsideEntries : List (Location × Entry) :=
  [(["srv"], .directory), (["out"], .link "srv"), (["srv", "kept"], .file [0x31] false)]

/-- A report directory with links to the directory around it, to a file beside it and to nothing. -/
def insideEntries : List (Location × Entry) :=
  [(["srv", "r"], .directory), (["srv", "r", "up"], .link ".."),
    (["srv", "r", "beside"], .link "../kept"), (["srv", "r", "lost"], .link "nowhere")]

/-- A world with links above the report directory and in it. -/
def linkedWorld : World where
  files := { tree := ⟨outsideEntries ++ insideEntries⟩, cwd := [] }

/-- The links go, and what they lead to stays. -/
theorem resetsHonestly_linkedWorld :
    ResetsHonestly ⟨.relative, ["out", "r"]⟩ linkedWorld ∧
      (reset ⟨.relative, ["out", "r"]⟩ linkedWorld).1 = .ok true ∧
      (reset ⟨.relative, ["out", "r"]⟩ linkedWorld).2.files.tree.entries = outsideEntries := by
  have hentry : (⟨.relative, ["out", "r"]⟩ : Path).IsEntryOf ⟨.relative, ["out"]⟩ :=
    ⟨"r", by decide +kernel, rfl⟩
  have hbase : (⟨.relative, ["out"]⟩ : Path).IsProper := by
    intro part hpart
    obtain rfl := List.mem_singleton.mp hpart
    rfl
  have hplace : linkedWorld.files.locate false (⟨.relative, ["out", "r"]⟩ : Path).text =
      .ok ["srv", "r"] := by cbv
  have hapart : linkedWorld.files.FindsApart ⟨.relative, ["out", "r"]⟩ ⟨.relative, ["out"]⟩ := by
    intro place hlocate
    obtain rfl := Except.ok.inj (hplace.symm.trans hlocate)
    cbv
  exact ⟨resetsHonestly hentry hbase hapart, by cbv, by cbv⟩

end Report

end ScanLauncher
