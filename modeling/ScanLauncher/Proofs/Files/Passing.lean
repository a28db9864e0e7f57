import ScanLauncher.Proofs.Files.Locate

namespace ScanLauncher.FileSystem

/-- Whoever walks along `names` from `here` comes past `there`, with the names `left` still to go. Links
are followed, also the last one. -/
inductive Passes (tree : Tree) :
    (hops : Nat) → (here : Location) → (names : List Text) → (there : Location) → (left : List Text) → Prop
  | here {hops : Nat} {here : Location} {names : List Text} : Passes tree hops here names here names
  | idle {hops : Nat} {here there : Location} {name : Text} {rest left : List Text}
      (hhere : tree.get? here = some .directory) (hname : (name.isEmpty || name == dot) = true)
      (h : Passes tree hops here rest there left) : Passes tree hops here (name :: rest) there left
  | up {hops : Nat} {here there : Location} {name : Text} {rest left : List Text}
      (hhere : tree.get? here = some .directory) (hdot : ¬ (name.isEmpty || name == dot) = true)
      (hname : (name == doubleDot) = true) (h : Passes tree hops here.dropLast rest there left) :
      Passes tree hops here (name :: rest) there left
  | link {hops : Nat} {here there : Location} {name target : Text} {rest left : List Text}
      (hhere : tree.get? here = some .directory) (hdot : ¬ (name.isEmpty || name == dot) = true)
      (hdots : ¬ (name == doubleDot) = true) (hshort : ¬ byteSize name > nameLimit)
      (hlink : tree.get? (here ++ [name]) = some (.link target))
      (h : Passes tree hops (start here target) (names target ++ rest) there left) :
      Passes tree (hops + 1) here (name :: rest) there left
  | entry {hops : Nat} {here there : Location} {name : Text} {rest left : List Text}
      (hhere : tree.get? here = some .directory) (hdot : ¬ (name.isEmpty || name == dot) = true)
      (hdots : ¬ (name == doubleDot) = true) (hshort : ¬ byteSize name > nameLimit)
      (hplain : ∀ target, tree.get? (here ++ [name]) ≠ some (.link target))
      (h : Passes tree hops (here ++ [name]) rest there left) :
      Passes tree hops here (name :: rest) there left

section Walk

variable {tree : Tree} {hops : Nat} {here there : Location} {names left : List Text}

private theorem passes_of_walk (h : walk tree true hops here names = .ok there) :
    Passes tree hops here names there [] := by
  fun_induction walk tree true hops here names with
  | case1 hops here =>
    obtain rfl := Except.ok.inj h
    exact .here
  | case2 | case5 | case7 | case10 => cases h
  | case3 hops here name rest hhere hname ih => exact .idle hhere hname (ih h)
  | case4 hops here name rest hhere hdot hup ih => exact .up hhere hdot hup (ih h)
  | case6 _ _ _ _ _ _ _ _ _ _ hend => simp at hend
  | case8 here name rest hhere hdot hdots hshort target hlink _ hops ih =>
    exact .link hhere hdot hdots hshort hlink (ih h)
  | case9 hops here name rest hhere hdot hdots hshort hplain ih =>
    exact .entry hhere hdot hdots hshort hplain (ih h)

/-- What is still to come does not depend on the way so far, except for the links that may follow. -/
theorem Passes.walk_eq (h : Passes tree hops here names there left) :
    ∃ remaining, walk tree true hops here names = walk tree true remaining there left := by
  induction h with
  | here => exact ⟨_, rfl⟩
  | idle hhere hname _ ih =>
    rw [walk_cons_idle hhere hname]
    exact ih
  | up hhere hdot hname _ ih =>
    rw [walk_cons_up hhere hdot hname]
    exact ih
  | link hhere hdot hdots hshort hlink _ ih =>
    rw [walk_cons_link hhere hdot hdots hshort hlink (by simp)]
    exact ih
  | entry hhere hdot hdots hshort hplain _ ih =>
    rw [walk_cons_plain hhere hdot hdots hshort hplain]
    exact ih

private theorem passes_nil_iff :
    Passes tree hops here names there [] ↔ walk tree true hops here names = .ok there := by
  refine ⟨fun h => ?_, passes_of_walk⟩
  obtain ⟨remaining, hwalk⟩ := h.walk_eq
  rw [hwalk, walk]

private theorem Passes.walk_of_ne_directory {name : Text} {rest : List Text}
    (h : Passes tree hops here names there (name :: rest)) (hthere : tree.get? there ≠ some .directory) :
    walk tree true hops here names = .error .notFound ∨
      walk tree true hops here names = .error .notDirectory := by
  obtain ⟨remaining, hwalk⟩ := h.walk_eq
  rw [hwalk, walk]
  cases hentry : tree.get? there with
  | none => exact .inl rfl
  | some entry =>
    cases entry with
    | directory => exact absurd hentry hthere
    | file | link | fifo => exact .inr rfl

end Walk

/-- Following a path leads past a place, with some names still to go behind it. -/
def LeadsPast (fs : FileSystem) (path : Text) (there : Location) (left : List Text) : Prop :=
  ∃ text, systemText path = .ok text ∧ text.isEmpty = false ∧ byteSize text < pathLimit ∧
    Passes fs.tree linkLimit (start fs.cwd text) (names text) there left

section Lookup

variable {fs : FileSystem} {path : Text} {there : Location} {left : List Text}

/-- A path leads to a place if the walk comes past it at its very end. -/
theorem leadsPast_nil_iff : fs.LeadsPast path there [] ↔ fs.locate true path = .ok there := by
  simp only [LeadsPast, locate_eq_ok, passes_nil_iff]

private theorem locate_eq_walk (fs : FileSystem) {text : Text} (hsystem : systemText path = .ok text)
    (hempty : text.isEmpty = false) (hsize : byteSize text < pathLimit) :
    fs.locate true path =
      (walk fs.tree true linkLimit (start fs.cwd text) (names text)).mapError .errno := by
  simp [locate, hsystem, bind, Except.bind, hempty, Nat.not_le.mpr hsize]

/-- A path on which something is missing or no directory leads to no directory. -/
theorem LeadsPast.list_eq (h : fs.LeadsPast path there left)
    (hthere : fs.tree.get? there ≠ some .directory) :
    fs.list path = .error (.errno .notFound) ∨ fs.list path = .error (.errno .notDirectory) := by
  cases left with
  | nil =>
    have hplace := leadsPast_nil_iff.mp h
    cases hentry : fs.tree.get? there with
    | none => exact .inl (by simp [list, lookup, hplace, hentry, bind, Except.bind])
    | some entry =>
      cases entry with
      | directory => exact absurd hentry hthere
      | file | link | fifo =>
        exact .inr (by simp [list, lookup, hplace, hentry, bind, Except.bind, pure, Except.pure])
  | cons name rest =>
    obtain ⟨text, hsystem, hempty, hsize, hpasses⟩ := h
    have hlocate := locate_eq_walk fs hsystem hempty hsize
    rcases hpasses.walk_of_ne_directory hthere with hwalk | hwalk
    · exact .inl (by simp [list, lookup, hlocate, hwalk, Except.mapError, bind, Except.bind])
    · exact .inr (by simp [list, lookup, hlocate, hwalk, Except.mapError, bind, Except.bind])

end Lookup

end ScanLauncher.FileSystem
