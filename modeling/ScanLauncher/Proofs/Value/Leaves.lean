import ScanLauncher.Value.Basic

namespace ScanLauncher.Value

mutual

/-- The values inside a value that are neither lists nor mappings, in order; keys are not among them. -/
def leaves : Value → List Value
  | list items => leavesOfItems items
  | map entries => leavesOfEntries entries
  | leaf => [leaf]

/-- The leaves of the items of a list. -/
def leavesOfItems : List Value → List Value
  | [] => []
  | item :: rest => leaves item ++ leavesOfItems rest

/-- The leaves of the values of a mapping. -/
def leavesOfEntries : List (Value × Value) → List Value
  | [] => []
  | (_, value) :: rest => leaves value ++ leavesOfEntries rest

end

mutual

/-- A value with nothing in the place of its leaves. -/
def skeleton : Value → Value
  | list items => list (skeletonOfItems items)
  | map entries => map (skeletonOfEntries entries)
  | _ => null

/-- The skeletons of the items of a list. -/
def skeletonOfItems : List Value → List Value
  | [] => []
  | item :: rest => skeleton item :: skeletonOfItems rest

/-- The skeletons of the values of a mapping, under their keys. -/
def skeletonOfEntries : List (Value × Value) → List (Value × Value)
  | [] => []
  | (key, value) :: rest => (key, skeleton value) :: skeletonOfEntries rest

end

/-- Neither a list nor a mapping. -/
structure IsLeaf (value : Value) : Prop where
  not_list : ∀ items, value ≠ list items
  not_map : ∀ entries, value ≠ map entries

/-- What holds of all leaves, and of every list and mapping if it holds of the values in it, holds of
all values. -/
@[elab_as_elim]
theorem induction {motive : Value → Prop} (onLeaf : ∀ value, IsLeaf value → motive value)
    (onList : ∀ items, (∀ item ∈ items, motive item) → motive (list items))
    (onMap : ∀ entries, (∀ entry ∈ entries, motive entry.2) → motive (map entries)) :
    ∀ value, motive value := by
  apply @Value.rec motive (fun items => ∀ item ∈ items, motive item)
    (fun entries => ∀ entry ∈ entries, motive entry.2) (fun entry => motive entry.2)
  case list => exact onList
  case map => exact onMap
  case mk => exact fun _ _ _ hvalue => hvalue
  case cons | cons =>
    intro first rest hfirst hrest item hitem
    cases hitem with
    | head => exact hfirst
    | tail _ hitem => exact hrest item hitem
  case nil | nil => exact nofun
  all_goals
    intros
    exact onLeaf _ ⟨nofun, nofun⟩

theorem leaves_list (items : List Value) : (list items).leaves = items.flatMap leaves := by
  rw [leaves]
  induction items with
  | nil => rfl
  | cons item rest ih => rw [leavesOfItems, ih, List.flatMap_cons]

theorem leaves_map (entries : List (Value × Value)) :
    (map entries).leaves = entries.flatMap fun entry => entry.2.leaves := by
  rw [leaves]
  induction entries with
  | nil => rfl
  | cons entry rest ih => rw [leavesOfEntries, ih, List.flatMap_cons]

theorem IsLeaf.leaves_eq {value : Value} (h : value.IsLeaf) : value.leaves = [value] := by
  rw [leaves]
  · exact h.not_list
  · exact h.not_map

theorem skeleton_list (items : List Value) : (list items).skeleton = list (items.map skeleton) := by
  have hitems : skeletonOfItems items = items.map skeleton := by
    induction items with
    | nil => rfl
    | cons item rest ih => rw [skeletonOfItems, ih, List.map_cons]
  rw [skeleton, hitems]

theorem skeleton_map (entries : List (Value × Value)) :
    (map entries).skeleton = map (entries.map fun entry => (entry.1, entry.2.skeleton)) := by
  have hentries :
      skeletonOfEntries entries = entries.map fun entry => (entry.1, entry.2.skeleton) := by
    induction entries with
    | nil => rfl
    | cons entry rest ih => rw [skeletonOfEntries, ih, List.map_cons]
  rw [skeleton, hentries]

theorem IsLeaf.skeleton_eq {value : Value} (h : value.IsLeaf) : value.skeleton = null := by
  rw [skeleton]
  · exact h.not_list
  · exact h.not_map

theorem isLeaf_or (value : Value) :
    value.IsLeaf ∨ (∃ items, value = list items) ∨ ∃ entries, value = map entries := by
  cases value with
  | list items => exact .inr (.inl ⟨items, rfl⟩)
  | map entries => exact .inr (.inr ⟨entries, rfl⟩)
  | _ => exact .inl ⟨nofun, nofun⟩

section Skeleton

variable {value : Value}

private theorem isLeaf_of_skeleton (h : value.skeleton = null) : value.IsLeaf := by
  rcases value.isLeaf_or with hleaf | ⟨items, rfl⟩ | ⟨entries, rfl⟩
  · exact hleaf
  · rw [skeleton_list] at h
    cases h
  · rw [skeleton_map] at h
    cases h

private theorem exists_items_of_skeleton {items : List Value}
    (h : (list items).skeleton = value.skeleton) :
    ∃ others, value = list others ∧ items.map skeleton = others.map skeleton := by
  rw [skeleton_list] at h
  rcases value.isLeaf_or with hleaf | ⟨others, rfl⟩ | ⟨entries, rfl⟩
  · rw [hleaf.skeleton_eq] at h
    cases h
  · rw [skeleton_list] at h
    exact ⟨others, rfl, list.inj h⟩
  · rw [skeleton_map] at h
    cases h

private theorem exists_entries_of_skeleton {entries : List (Value × Value)}
    (h : (map entries).skeleton = value.skeleton) :
    ∃ others, value = map others ∧ entries.map (fun entry => (entry.1, entry.2.skeleton)) =
      others.map fun entry => (entry.1, entry.2.skeleton) := by
  rw [skeleton_map] at h
  rcases value.isLeaf_or with hleaf | ⟨items, rfl⟩ | ⟨others, rfl⟩
  · rw [hleaf.skeleton_eq] at h
    cases h
  · rw [skeleton_list] at h
    cases h
  · rw [skeleton_map] at h
    exact ⟨others, rfl, map.inj h⟩

end Skeleton

/-- Lists are equal if their items can be told, one after the other, by a shape and by what they
start with. -/
theorem eq_of_flatMap_append {α β γ : Type} {shape : α → β} {parts : α → List γ} {items : List α}
    (h : ∀ item ∈ items, ∀ other behind behind', shape item = shape other →
      parts item ++ behind = parts other ++ behind' → item = other ∧ behind = behind')
    {others : List α} {behind behind' : List γ} (hshape : items.map shape = others.map shape)
    (hparts : items.flatMap parts ++ behind = others.flatMap parts ++ behind') :
    items = others ∧ behind = behind' := by
  induction items generalizing others with
  | nil =>
    obtain rfl := List.map_eq_nil_iff.mp hshape.symm
    exact ⟨rfl, hparts⟩
  | cons item rest ih =>
    obtain ⟨other, others, rfl, hother, hothers⟩ := List.map_eq_cons_iff.mp hshape.symm
    rw [List.flatMap_cons, List.flatMap_cons, List.append_assoc, List.append_assoc] at hparts
    obtain ⟨rfl, hrest⟩ := h item (.head _) other _ _ hother.symm hparts
    obtain ⟨rfl, hend⟩ := ih (fun other hother => h other (.tail _ hother)) hothers.symm hrest
    exact ⟨rfl, hend⟩

/-- Values of one skeleton that start a list with the same leaves are equal, and so are the leaves
that follow. -/
theorem eq_of_skeleton_append (value other : Value) (behind behind' : List Value)
    (hskeleton : value.skeleton = other.skeleton)
    (hleaves : value.leaves ++ behind = other.leaves ++ behind') :
    value = other ∧ behind = behind' := by
  induction value using induction generalizing other behind behind' with
  | onLeaf value hleaf =>
    rw [hleaf.skeleton_eq] at hskeleton
    rw [hleaf.leaves_eq, (isLeaf_of_skeleton hskeleton.symm).leaves_eq] at hleaves
    exact List.cons.inj hleaves
  | onList items ih =>
    obtain ⟨others, rfl, hshape⟩ := exists_items_of_skeleton hskeleton
    rw [leaves_list, leaves_list] at hleaves
    obtain ⟨rfl, hbehind⟩ := eq_of_flatMap_append ih hshape hleaves
    exact ⟨rfl, hbehind⟩
  | onMap entries ih =>
    obtain ⟨others, rfl, hshape⟩ := exists_entries_of_skeleton hskeleton
    rw [leaves_map, leaves_map] at hleaves
    have hentry : ∀ entry ∈ entries, ∀ other behind behind',
        (entry.1, entry.2.skeleton) = (other.1, other.2.skeleton) →
        entry.2.leaves ++ behind = other.2.leaves ++ behind' → entry = other ∧ behind = behind' := by
      intro entry hmem other behind behind' hsame hparts
      obtain ⟨hkey, hvalue⟩ := Prod.mk.inj hsame
      obtain ⟨hvalue, hend⟩ := ih entry hmem other.2 behind behind' hvalue hparts
      exact ⟨Prod.ext hkey hvalue, hend⟩
    obtain ⟨rfl, hbehind⟩ := eq_of_flatMap_append hentry hshape hleaves
    exact ⟨rfl, hbehind⟩

/-- A value is made up by its skeleton and its leaves. -/
theorem eq_of_skeleton {value other : Value} (hskeleton : value.skeleton = other.skeleton)
    (hleaves : value.leaves = other.leaves) : value = other :=
  (eq_of_skeleton_append value other [] [] hskeleton (congrArg (· ++ []) hleaves)).1

end ScanLauncher.Value
