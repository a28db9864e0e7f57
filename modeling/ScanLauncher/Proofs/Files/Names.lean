import ScanLauncher.Proofs.Files.Locate
import ScanLauncher.Proofs.Files.Stable

namespace ScanLauncher

/-- No name on the way to a place has a slash. -/
def Location.IsNamed (loc : Location) : Prop := ∀ name ∈ loc, Glyph.char '/' ∉ name.glyphs

namespace Location.IsNamed

variable {loc loc' : Location}

theorem of_subset (h : loc.IsNamed) (hsubset : loc' ⊆ loc) : IsNamed loc' :=
  fun name hname => h name (hsubset hname)

theorem append (h : loc.IsNamed) (h' : loc'.IsNamed) : IsNamed (loc ++ loc') := by
  intro name hname
  rcases List.mem_append.mp hname with hfirst | hsecond
  · exact h name hfirst
  · exact h' name hsecond

end Location.IsNamed

namespace FileSystem

theorem isNamed_names (path : Text) : Location.IsNamed (names path) := by
  have hparts : Location.IsNamed (path.splitOn '/') := fun _ => Text.not_mem_of_mem_splitOn
  refine Location.IsNamed.append (hparts.of_subset fun name hname => ?_) fun name hname => ?_
  · exact List.dropLast_subset _ (List.mem_filter.mp hname).1
  · rw [List.mem_singleton.mp hname]
    have hne : path.splitOn '/' ≠ [] := by simp [Text.splitOn, List.splitOn_ne_nil]
    rw [List.getLastD_eq_getLast?, List.getLast?_eq_some_getLast hne]
    exact hparts _ (List.getLast_mem hne)

private theorem isNamed_walk {tree : Tree} {follow : Bool} {hops : Nat} {here loc : Location}
    {names : List Text} (hhere : here.IsNamed) (hnames : Location.IsNamed names)
    (h : walk tree follow hops here names = .ok loc) : loc.IsNamed := by
  have hnext {here : Location} {name : Text} {rest : List Text} (hhere : here.IsNamed)
      (hnames : Location.IsNamed (name :: rest)) : Location.IsNamed (here ++ [name]) :=
    hhere.append (hnames.of_subset (by simp))
  have hrest {name : Text} {rest : List Text} (hnames : Location.IsNamed (name :: rest)) :
      Location.IsNamed rest := hnames.of_subset (List.subset_cons_self name rest)
  fun_induction walk tree follow hops here names with
  | case1 hops here => exact Except.ok.inj h ▸ hhere
  | case2 | case5 | case7 | case10 => cases h
  | case3 hops here name rest _ _ ih => exact ih hhere (hrest hnames) h
  | case4 hops here name rest _ _ _ ih =>
    exact ih (hhere.of_subset (List.dropLast_subset here)) (hrest hnames) h
  | case6 => exact Except.ok.inj h ▸ hnext hhere hnames
  | case8 here name rest _ _ _ _ target _ _ hops ih =>
    refine ih ?_ ((isNamed_names target).append (hrest hnames)) h
    unfold start
    split
    · exact fun _ hmem => absurd hmem List.not_mem_nil
    · exact hhere
  | case9 hops here name rest _ _ _ _ _ ih => exact ih (hnext hhere hnames) (hrest hnames) h

/-- No name has a slash, neither in the tree nor on the way to the current directory. -/
structure IsNamed (fs : FileSystem) : Prop where
  cwd : fs.cwd.IsNamed
  entries : ∀ e ∈ fs.tree.entries, Location.IsNamed e.1

theorem IsNamed.locate {fs : FileSystem} (h : fs.IsNamed) {follow : Bool} {path : Text}
    {loc : Location} (hlocate : fs.locate follow path = .ok loc) : loc.IsNamed := by
  obtain ⟨text, _, _, _, hwalk⟩ := locate_eq_ok.mp hlocate
  refine isNamed_walk ?_ (isNamed_names text) hwalk
  unfold start
  split
  · exact fun _ hmem => absurd hmem List.not_mem_nil
  · exact h.cwd

theorem isStable_isNamed : IsStable IsNamed where
  filter fs keep h := ⟨h.cwd, fun e he => h.entries e (List.mem_filter.mp he).1⟩
  put fs follow path loc entry _ h hlocate := by
    refine ⟨h.cwd, fun e he => ?_⟩
    rcases List.mem_append.mp he with hold | hnew
    · exact h.entries e (List.mem_filter.mp hold).1
    · rw [List.mem_singleton.mp hnew]
      exact h.locate hlocate

end FileSystem

end ScanLauncher
