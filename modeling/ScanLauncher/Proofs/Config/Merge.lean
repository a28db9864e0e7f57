import ScanLauncher.Config.Merge
import ScanLauncher.Proofs.Value.Key

namespace ScanLauncher

namespace Value

/-- A text is no other key's equal. -/
@[simp] theorem sameKey_text {key : Value} {name : Text} :
    key.sameKey (.text name) = true ↔ key = .text name := by
  cases key <;> simp [sameKey, asNumber]

@[simp] theorem text_sameKey {key : Value} {name : Text} :
    (Value.text name).sameKey key = true ↔ key = .text name := by
  cases key <;> simp [sameKey, asNumber]
  exact eq_comm

theorem sameKey_text_of_ne {name other : Text} (h : name ≠ other) :
    (Value.text name).sameKey (.text other) = false := by
  simpa [sameKey, asNumber] using h

end Value

namespace Entries

/-- An insertion changes the value under its own key only. -/
theorem field?_insert (entries : Entries) (key value : Value) (name : Text) :
    (entries.insert key value).field? name =
      if key.sameKey (.text name) then some value else entries.field? name :=
  get?_insert entries key value (.text name)

/-- The entries under a text. -/
def under (entries : Entries) (name : Text) : Entries :=
  entries.filter fun entry => entry.1.sameKey (.text name)

theorem field?_eq_under (entries : Entries) (name : Text) :
    entries.field? name = (entries.under name).head?.map (·.2) := by
  rw [field?, get?, under, List.head?_filter]

end Entries

namespace Config

theorem mergeValue_map_map (below entries : Entries) :
    mergeValue (some (.map below)) (.map entries) = .map (merge below entries) := by
  rw [mergeValue]

/-- The upper value stands unless both are mappings. -/
theorem mergeValue_of_not_both {base : Option Value} {value : Value}
    (h : ∀ below entries, base = some (.map below) → value ≠ .map entries) :
    mergeValue base value = value := by
  cases value with
  | map entries =>
    rw [mergeValue]
    exact fun below hbelow => h below entries hbelow rfl
  | _ => rw [mergeValue]; exact nofun

theorem mergeValue_none (value : Value) : mergeValue none value = value :=
  mergeValue_of_not_both nofun

/-- The values under a text are laid over each other in order, and nothing else reaches them. -/
theorem field?_merge (base overlay : Entries) (name : Text) :
    (merge base overlay).field? name =
      (overlay.under name).foldl (fun value entry => some (mergeValue value entry.2))
        (base.field? name) := by
  induction overlay generalizing base with
  | nil => rw [merge]; rfl
  | cons entry rest ih =>
    obtain ⟨key, value⟩ := entry
    rw [merge, ih, Entries.field?_insert, Entries.under, Entries.under, List.filter_cons]
    by_cases hkey : key.sameKey (.text name)
    · obtain rfl := Value.sameKey_text.mp hkey
      simp only [hkey, if_true, List.foldl_cons, Entries.field?]
    · simp only [hkey, Bool.false_eq_true, if_false]

/-- Whatever a mapping is laid over, the texts in it stand in the result. -/
theorem mergeValue_map (base : Option Value) (entries : Entries) :
    ∃ merged : Entries, mergeValue base (.map entries) = .map merged ∧
      ∀ name value : Text, entries.under name = [(.text name, .text value)] →
        merged.field? name = some (.text value) := by
  have halone (name value : Text) (hunder : entries.under name = [(.text name, .text value)]) :
      entries.field? name = some (.text value) := by
    rw [Entries.field?_eq_under, hunder]
    rfl
  cases base with
  | none => exact ⟨entries, by simp [mergeValue], halone⟩
  | some value =>
    cases value with
    | map below =>
      refine ⟨merge below entries, by simp [mergeValue], fun name value hunder => ?_⟩
      rw [field?_merge, hunder]
      simp [mergeValue]
    | _ => exact ⟨entries, by simp [mergeValue], halone⟩

end Config

end ScanLauncher
