import ScanLauncher.Files.Walk

namespace ScanLauncher.FileSystem

section Step

variable {tree : Tree} {follow : Bool} {hops : Nat} {here : Location} {name : Text}
  {rest : List Text} (hhere : tree.get? here = some .directory)

include hhere

theorem walk_cons_idle (hname : (name.isEmpty || name == dot) = true) :
    walk tree follow hops here (name :: rest) = walk tree follow hops here rest := by
  rw [walk]
  simp only [hhere, hname, if_true]

variable (hdot : ¬ (name.isEmpty || name == dot) = true)

include hdot

theorem walk_cons_up (hname : (name == doubleDot) = true) :
    walk tree follow hops here (name :: rest) = walk tree follow hops here.dropLast rest := by
  rw [walk]
  simp only [hhere, hdot, hname, if_true, Bool.false_eq_true, if_false]

variable (hdots : ¬ (name == doubleDot) = true)

include hdots

theorem walk_cons_long (hlong : byteSize name > nameLimit) :
    walk tree follow hops here (name :: rest) = .error .nameTooLong := by
  rw [walk]
  simp only [hhere, hdot, hdots, hlong, if_true, Bool.false_eq_true, if_false]

variable (hshort : ¬ byteSize name > nameLimit)

include hshort

theorem walk_cons_last {target : Text} (hlink : tree.get? (here ++ [name]) = some (.link target))
    (hend : (rest.isEmpty && !follow) = true) :
    walk tree follow hops here (name :: rest) = .ok (here ++ [name]) := by
  rw [walk]
  simp only [hhere, hdot, hdots, hshort, hlink, hend, if_true, Bool.false_eq_true, if_false]

theorem walk_cons_link {target : Text} (hlink : tree.get? (here ++ [name]) = some (.link target))
    (hmore : ¬ (rest.isEmpty && !follow) = true) :
    walk tree follow (hops + 1) here (name :: rest) =
      walk tree follow hops (start here target) (names target ++ rest) := by
  rw [walk]
  simp only [hhere, hdot, hdots, hshort, hlink, hmore, Bool.false_eq_true, if_false]

theorem walk_cons_loop {target : Text} (hlink : tree.get? (here ++ [name]) = some (.link target))
    (hmore : ¬ (rest.isEmpty && !follow) = true) :
    walk tree follow 0 here (name :: rest) = .error .linkLoop := by
  rw [walk]
  simp only [hhere, hdot, hdots, hshort, hlink, hmore, Bool.false_eq_true, if_false]

theorem walk_cons_plain (hplain : ∀ target, tree.get? (here ++ [name]) ≠ some (.link target)) :
    walk tree follow hops here (name :: rest) = walk tree follow hops (here ++ [name]) rest := by
  rw [walk]
  simp only [hhere, hdot, hdots, hshort, Bool.false_eq_true, if_false]

end Step

theorem walk_cons_directory {tree : Tree} {follow : Bool} {hops : Nat} {here loc : Location}
    {name : Text} {rest : List Text} (h : walk tree follow hops here (name :: rest) = .ok loc) :
    tree.get? here = some .directory := by
  rw [walk] at h
  split at h
  · cases h
  · assumption
  · cases h

/-- A way that goes on behind some names first leads to where these names lead, with all their links
followed. -/
theorem walk_append (tree : Tree) (follow : Bool) (hops : Nat) (here : Location) (names : List Text)
    {rest : List Text} (hrest : rest ≠ []) :
    ∃ left, walk tree follow hops here (names ++ rest) =
      (walk tree true hops here names).bind fun place => walk tree follow left place rest := by
  -- There are still names to come behind `names`, so that a link at the end of `names` is followed
  -- either way.
  have hmore (names : List Text) : ¬ ((names ++ rest).isEmpty && !follow) = true := by simp [hrest]
  fun_induction walk tree true hops here names with
  | case1 hops here => exact ⟨hops, rfl⟩
  | case2 hops here first names hhere =>
    refine ⟨0, ?_⟩
    rw [List.cons_append, walk]
    simp only [hhere, Except.bind]
  | case3 hops here first names hhere hfirst ih =>
    rw [List.cons_append, walk_cons_idle hhere hfirst]
    exact ih
  | case4 hops here first names hhere hfirst hup ih =>
    rw [List.cons_append, walk_cons_up hhere hfirst hup]
    exact ih
  | case5 hops here first names hhere hfirst hup hlong =>
    rw [List.cons_append, walk_cons_long hhere hfirst hup hlong]
    exact ⟨0, rfl⟩
  | case6 _ _ _ _ _ _ _ _ _ _ hend => simp at hend
  | case7 here first names hhere hfirst hup hlong target hlink _ =>
    rw [List.cons_append, walk_cons_loop hhere hfirst hup hlong hlink (hmore names)]
    exact ⟨0, rfl⟩
  | case8 here first names hhere hfirst hup hlong target hlink _ hops ih =>
    rw [List.cons_append, walk_cons_link hhere hfirst hup hlong hlink (hmore names),
      ← List.append_assoc]
    exact ih
  | case9 hops here first names hhere hfirst hup hlong hplain ih =>
    rw [List.cons_append, walk_cons_plain hhere hfirst hup hlong hplain]
    exact ih
  | case10 hops here first names entry hentry hhere =>
    refine ⟨0, ?_⟩
    rw [List.cons_append, walk]
    simp only [hhere, Except.bind]

/-- Whoever walks to an entry by its name comes past the directory that the entry is in, wherever
links have led to. -/
theorem walk_append_name_iff {tree : Tree} {hops : Nat} {here loc : Location} (names : List Text)
    {name : Text} (hdot : ¬ (name.isEmpty || name == dot) = true)
    (hdots : ¬ (name == doubleDot) = true) :
    walk tree false hops here (names ++ [name]) = .ok loc ↔ byteSize name ≤ nameLimit ∧
      ∃ place, walk tree true hops here names = .ok place ∧ tree.get? place = some .directory ∧
        loc = place ++ [name] := by
  obtain ⟨left, hwalk⟩ := walk_append tree false hops here names (List.cons_ne_nil name [])
  have hname (place : Location) : walk tree false left place [name] = .ok loc ↔
      byteSize name ≤ nameLimit ∧ tree.get? place = some .directory ∧ loc = place ++ [name] := by
    by_cases hplace : tree.get? place = some .directory
    · by_cases hlong : byteSize name > nameLimit
      · simp [walk_cons_long hplace hdot hdots hlong, Nat.not_le.mpr hlong]
      by_cases hlink : ∃ target, tree.get? (place ++ [name]) = some (.link target)
      · obtain ⟨target, hlink⟩ := hlink
        rw [walk_cons_last hplace hdot hdots hlong hlink rfl]
        simp [hplace, Nat.not_lt.mp hlong, eq_comm]
      · rw [walk_cons_plain hplace hdot hdots hlong (not_exists.mp hlink), walk]
        simp [hplace, Nat.not_lt.mp hlong, eq_comm]
    · exact ⟨fun h => absurd (walk_cons_directory h) hplace, fun h => absurd h.2.1 hplace⟩
  rw [hwalk]
  cases walk tree true hops here names with
  | error e => simp [Except.bind]
  | ok place => simp [Except.bind, hname]

/-- Standing still at the end of a way changes nothing, except that there must be a directory. -/
theorem walk_append_idle_iff {tree : Tree} {hops : Nat} {here place : Location} {names : List Text}
    {name : Text} (hname : (name.isEmpty || name == dot) = true) :
    walk tree true hops here (names ++ [name]) = .ok place ↔
      walk tree true hops here names = .ok place ∧ tree.get? place = some .directory := by
  obtain ⟨left, hwalk⟩ := walk_append tree true hops here names (List.cons_ne_nil name [])
  rw [hwalk]
  cases walk tree true hops here names with
  | error e => simp [Except.bind]
  | ok there =>
    by_cases hthere : tree.get? there = some .directory
    · simp only [Except.bind, walk_cons_idle hthere hname, walk, Except.ok.injEq]
      constructor
      · rintro rfl
        exact ⟨rfl, hthere⟩
      · exact And.left
    · simp only [Except.bind, Except.ok.injEq]
      refine ⟨fun h => absurd (walk_cons_directory h) hthere, fun h => ?_⟩
      exact absurd (h.1 ▸ h.2) hthere

/-- Where something was taken away, a way that does not follow its last link leads where it led
before, or nowhere. -/
theorem walk_of_subset {tree tree' : Tree}
    (hsub : ∀ loc entry, tree'.get? loc = some entry → tree.get? loc = some entry) {hops : Nat}
    {here loc : Location} {names : List Text} (h : walk tree' false hops here names = .ok loc) :
    walk tree false hops here names = .ok loc := by
  fun_induction walk tree' false hops here names with
  | case1 hops here => rw [walk]; exact h
  | case2 | case5 | case7 | case10 => cases h
  | case3 hops here first rest hhere hfirst ih =>
    rw [walk_cons_idle (hsub _ _ hhere) hfirst]
    exact ih h
  | case4 hops here first rest hhere hfirst hup ih =>
    rw [walk_cons_up (hsub _ _ hhere) hfirst hup]
    exact ih h
  | case6 hops here first rest hhere hfirst hup hlong target hlink hend =>
    rw [walk_cons_last (hsub _ _ hhere) hfirst hup hlong (hsub _ _ hlink) hend]
    exact h
  | case8 here first rest hhere hfirst hup hlong target hlink hmore hops ih =>
    rw [walk_cons_link (hsub _ _ hhere) hfirst hup hlong (hsub _ _ hlink) hmore]
    exact ih h
  | case9 hops here first rest hhere hfirst hup hlong hplain ih =>
    by_cases hlink : ∃ target, tree.get? (here ++ [first]) = some (.link target)
    · -- A link that was taken away: only the end of the way can be there.
      obtain ⟨target, hlink⟩ := hlink
      cases rest with
      | nil =>
        rw [walk_cons_last (hsub _ _ hhere) hfirst hup hlong hlink rfl]
        rwa [walk] at h
      | cons next rest =>
        have hnext := hsub _ _ (walk_cons_directory h)
        rw [hlink] at hnext
        cases hnext
    · rw [walk_cons_plain (hsub _ _ hhere) hfirst hup hlong (not_exists.mp hlink)]
      exact ih h

end ScanLauncher.FileSystem
