import ScanLauncher.Config.Expand
import ScanLauncher.Proofs.Config.Merge

namespace ScanLauncher

namespace Entries

/-- No text is the key of two entries. -/
def NamesOnce (entries : Entries) : Prop :=
  ∀ name : Text, (entries.map Prod.fst).countP (·.sameKey (.text name)) ≤ 1

private theorem map_fst_insert (entries : Entries) (key value : Value) :
    (entries.insert key value).map Prod.fst = entries.map Prod.fst ∨
      (∀ k ∈ entries.map Prod.fst, k.sameKey key = false) ∧
        (entries.insert key value).map Prod.fst = entries.map Prod.fst ++ [key] := by
  induction entries with
  | nil => exact .inr ⟨nofun, rfl⟩
  | cons entry rest ih =>
    obtain ⟨first, old⟩ := entry
    rw [Entries.insert]
    cases hfirst : first.sameKey key with
    | true => exact .inl (by simp)
    | false =>
      rw [if_neg Bool.false_ne_true]
      rcases ih with hsame | ⟨hnone, hadded⟩
      · exact .inl (by simp [hsame])
      · refine .inr ⟨?_, by simp [hadded]⟩
        rintro k (_ | ⟨_, hk⟩)
        · exact hfirst
        · exact hnone k hk

theorem NamesOnce.insert {entries : Entries} (h : entries.NamesOnce) (key value : Value) :
    (entries.insert key value).NamesOnce := by
  intro name
  rcases map_fst_insert entries key value with hsame | ⟨hnone, hadded⟩
  · rw [hsame]
    exact h name
  · rw [hadded, List.countP_append, List.countP_singleton]
    split
    · rename_i hkey
      obtain rfl := Value.sameKey_text.mp hkey
      have hzero : (entries.map Prod.fst).countP (·.sameKey (.text name)) = 0 :=
        List.countP_eq_zero.mpr fun k hk => by simp [hnone k hk]
      omega
    · exact h name

/-- The values of entries that were put in are among those given. -/
theorem mem_insert {entries : Entries} {key value : Value} {entry : Value × Value}
    (h : entry ∈ entries.insert key value) : entry ∈ entries ∨ entry.2 = value := by
  induction entries with
  | nil => exact .inr (by rw [List.mem_singleton.mp h])
  | cons first rest ih =>
    obtain ⟨k, v⟩ := first
    rw [Entries.insert] at h
    split at h
    · rcases List.mem_cons.mp h with rfl | hrest
      · exact .inr rfl
      · exact .inl (.tail _ hrest)
    · rcases List.mem_cons.mp h with rfl | hrest
      · exact .inl (.head _)
      · rcases ih hrest with hold | hnew
        · exact .inl (.tail _ hold)
        · exact .inr hnew

theorem namesOnce_ofPairs (pairs : List (Value × Value)) :
    (ofPairs pairs).NamesOnce ∧ ∀ entry ∈ ofPairs pairs, ∃ pair ∈ pairs, pair.2 = entry.2 := by
  have hfold (put : List (Value × Value)) (entries : Entries) (hentries : entries.NamesOnce)
      (hmem : ∀ entry ∈ entries, ∃ pair ∈ pairs, pair.2 = entry.2) (hput : put ⊆ pairs) :
      let made := put.foldl (fun entries entry => Entries.insert entries entry.1 entry.2) entries
      made.NamesOnce ∧ ∀ entry ∈ made, ∃ pair ∈ pairs, pair.2 = entry.2 := by
    induction put generalizing entries with
    | nil => exact ⟨hentries, hmem⟩
    | cons pair rest ih =>
      refine ih _ (hentries.insert _ _) (fun entry hentry => ?_) fun p hp => hput (.tail _ hp)
      rcases mem_insert hentry with hold | hnew
      · exact hmem entry hold
      · exact ⟨pair, hput (.head _), hnew.symm⟩
  exact hfold pairs [] (fun _ => Nat.zero_le 1) nofun (List.Subset.refl pairs)

/-- Then there is one entry under a text, or none. -/
theorem NamesOnce.under {entries : Entries} (h : entries.NamesOnce) (name : Text) :
    entries.under name = [] ∨ ∃ key value, entries.under name = [(key, value)] := by
  have hcount := h name
  rw [List.countP_map, List.countP_eq_length_filter] at hcount
  cases hunder : entries.under name with
  | nil => exact .inl rfl
  | cons first rest =>
    have hlength : (entries.under name).length ≤ 1 := hcount
    rw [hunder, List.length_cons] at hlength
    obtain rfl : rest = [] := List.eq_nil_of_length_eq_zero (by omega)
    exact .inr ⟨first.1, first.2, rfl⟩

end Entries

/-- A mapping names no text twice, and neither do the mappings directly inside it. -/
def Value.IsTidy (value : Value) : Prop :=
  ∀ entries, value = .map entries → Entries.NamesOnce entries ∧
    ∀ entry ∈ entries, ∀ inner, entry.2 = .map inner → Entries.NamesOnce inner

/-- Whether a value is a mapping. -/
def Value.isMapping : Value → Bool
  | map _ => true
  | _ => false

theorem Value.isTidy_of_isMapping {value : Value} (h : value.isMapping = false) : value.IsTidy := by
  rintro entries rfl
  cases h

namespace Config

theorem isMapping_mergeValue (base : Option Value) (value : Value) :
    (mergeValue base value).isMapping = value.isMapping := by
  cases value with
  | map entries =>
    unfold mergeValue
    split <;> rfl
  | _ => simp [mergeValue]

theorem expandEntries_eq_map (env : Environment) (entries : Entries) :
    expandEntries env entries = entries.map fun entry => (entry.1, expand env entry.2) := by
  induction entries with
  | nil => rw [expandEntries]; rfl
  | cons entry rest ih =>
    obtain ⟨key, value⟩ := entry
    rw [expandEntries, ih]
    rfl

theorem namesOnce_expandEntries (env : Environment) {entries : Entries} (h : entries.NamesOnce) :
    Entries.NamesOnce (expandEntries env entries) := by
  have hkeys : (expandEntries env entries).map Prod.fst = entries.map Prod.fst := by
    rw [expandEntries_eq_map, List.map_map]
    rfl
  rw [Entries.NamesOnce, hkeys]
  exact h

/-- An expanded mapping is tidy if the mapping is. -/
theorem isTidy_expandEntries (env : Environment) {entries : Entries}
    (h : (Value.map entries).IsTidy) : (Value.map (expandEntries env entries)).IsTidy := by
  rintro _ ⟨⟩
  obtain ⟨hnames, hinner⟩ := h entries rfl
  refine ⟨namesOnce_expandEntries env hnames, fun entry hentry inner hmap => ?_⟩
  rw [expandEntries_eq_map] at hentry
  obtain ⟨⟨key, value⟩, hvalue, rfl⟩ := List.mem_map.mp hentry
  cases value with
  | map below =>
    simp only [expand, Value.map.injEq] at hmap
    exact hmap ▸ namesOnce_expandEntries env (hinner _ hvalue below rfl)
  | _ => simp [expand] at hmap

/-- In data that names no text twice, the value under a text is laid over what is below, and where
there is none the value below stays. -/
theorem field?_merge_of_namesOnce (base : Entries) {overlay : Entries} (h : overlay.NamesOnce)
    (name : Text) :
    (merge base overlay).field? name = match overlay.field? name with
      | some value => some (mergeValue (base.field? name) value)
      | none => base.field? name := by
  rw [field?_merge, Entries.field?_eq_under overlay]
  rcases h.under name with hunder | ⟨key, value, hunder⟩
  · rw [hunder]
    rfl
  · rw [hunder]
    rfl

end Config

end ScanLauncher
