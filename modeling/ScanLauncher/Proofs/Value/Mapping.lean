import ScanLauncher.Proofs.Value.Key
import ScanLauncher.Proofs.Value.Tidy

namespace ScanLauncher

namespace Entries

/-- The keys of a mapping, in order. -/
def keys (entries : Entries) : List Value := entries.map Prod.fst

/-- Whether a mapping has a key. -/
def hasKey (entries : Entries) (key : Value) : Bool := entries.keys.any (·.sameKey key)

/-- No key is there twice, and none is a NaN. -/
structure KeysOnce (entries : Entries) : Prop where
  definite : ∀ key ∈ entries.keys, key.IsDefiniteKey
  distinct : entries.keys.Pairwise fun key key' => key.sameKey key' = false

end Entries

namespace Value

/-- Every mapping that a path of keys leads to has its keys once. -/
inductive KeysOnce : Value → Prop
  | map {entries : Entries} (keys : entries.KeysOnce) (values : ∀ entry ∈ entries, KeysOnce entry.2) :
      KeysOnce (map entries)
  | other {value : Value} (h : value.isMapping = false) : KeysOnce value

/-- The value at the end of a path of keys. -/
def at? : Value → List Value → Option Value
  | value, [] => some value
  | map entries, key :: rest => (Entries.get? entries key).bind fun value => value.at? rest
  | _, _ :: _ => none

end Value

instance (value : Value) : Decidable value.IsDefiniteKey :=
  match value with
  | .null | .bool _ | .int _ | .text _ | .bytes _ | .date _ | .moment _ => .isTrue trivial
  | .float x _ => inferInstanceAs (Decidable (x ≠ .nan))
  | .list _ | .pair _ _ | .map _ | .set _ | .cycle _ => .isFalse id

instance (entries : Entries) : Decidable entries.KeysOnce :=
  decidable_of_iff ((∀ key ∈ entries.keys, key.IsDefiniteKey) ∧
    entries.keys.Pairwise fun key key' => key.sameKey key' = false)
    ⟨fun h => ⟨h.1, h.2⟩, fun h => ⟨h.1, h.2⟩⟩

namespace Entries

variable {entries : Entries} {key key' value : Value}

theorem keys_cons (first : Value × Value) (rest : Entries) :
    keys (first :: rest) = first.1 :: keys rest := rfl

theorem hasKey_cons (first : Value × Value) (rest : Entries) (key : Value) :
    hasKey (first :: rest) key = (first.1.sameKey key || hasKey rest key) := rfl

theorem isSome_get? (entries : Entries) (key : Value) :
    (entries.get? key).isSome = entries.hasKey key := by
  induction entries with
  | nil => rfl
  | cons first rest ih =>
    rw [get?_cons, hasKey_cons, ← ih]
    cases first.1.sameKey key <;> rfl

theorem get?_eq_none_iff : entries.get? key = none ↔ entries.hasKey key = false := by
  rw [← isSome_get?, Option.isSome_eq_false_iff, Option.isNone_iff_eq_none]

theorem keys_insert (entries : Entries) (key value : Value) :
    (entries.insert key value).keys = entries.keys ++ if entries.hasKey key then [] else [key] := by
  induction entries with
  | nil => rfl
  | cons first rest ih =>
    obtain ⟨k, v⟩ := first
    rw [Entries.insert, hasKey_cons]
    cases k.sameKey key with
    | true => exact (List.append_nil _).symm
    | false =>
      rw [if_neg Bool.false_ne_true, Bool.false_or]
      exact congrArg (k :: ·) ih

namespace KeysOnce

theorem of_cons {first : Value × Value} {rest : Entries} (h : KeysOnce (first :: rest)) :
    KeysOnce rest :=
  ⟨fun key hkey => h.definite key (.tail _ hkey), (List.pairwise_cons.mp h.distinct).2⟩

/-- What follows an entry has no such key. -/
theorem hasKey_rest {first : Value × Value} {rest : Entries} (h : KeysOnce (first :: rest))
    (hkey : first.1.sameKey key = true) : hasKey rest key = false := by
  refine List.any_eq_false.mpr fun key' hkey' => ?_
  have hother := (List.pairwise_cons.mp h.distinct).1 key' hkey'
  rw [key'.sameKey_comm, ← Value.sameKey_congr hkey, hother]
  exact Bool.false_ne_true

/-- Every entry is found under its key. -/
theorem get?_of_mem (h : entries.KeysOnce) {entry : Value × Value} (hentry : entry ∈ entries) :
    entries.get? entry.1 = some entry.2 := by
  induction entries with
  | nil => cases hentry
  | cons first rest ih =>
    rw [get?_cons]
    rcases List.mem_cons.mp hentry with rfl | hrest
    · rw [if_pos (h.definite entry.1 (.head _)).sameKey_self]
    · have hother := (List.pairwise_cons.mp h.distinct).1 entry.1 (List.mem_map_of_mem hrest)
      rw [hother, if_neg Bool.false_ne_true]
      exact ih h.of_cons hrest

/-- A mapping is given by its keys and what is found under them. -/
theorem ext {other : Entries} (h : entries.KeysOnce) (hkeys : other.keys = entries.keys)
    (hget : ∀ key, other.get? key = entries.get? key) : other = entries := by
  induction entries generalizing other with
  | nil => exact List.map_eq_nil_iff.mp hkeys
  | cons first rest ih =>
    obtain ⟨first', rest', rfl, hfirst, hrest⟩ := List.map_eq_cons_iff.mp hkeys
    have hself := (h.definite first.1 (.head _)).sameKey_self
    have hvalue := hget first.1
    rw [get?_cons, get?_cons, hfirst, if_pos hself, if_pos hself] at hvalue
    have hbehind (key : Value) : get? rest' key = get? rest key := by
      cases hkey : first.1.sameKey key with
      | true =>
        have hnone := h.hasKey_rest hkey
        rw [get?_eq_none_iff.mpr hnone, get?_eq_none_iff, hasKey, keys, hrest]
        exact hnone
      | false => simpa [get?_cons, hfirst, hkey] using hget key
    rw [Prod.ext hfirst (Option.some.inj hvalue), ih h.of_cons hrest hbehind]

theorem namesOnce (h : entries.KeysOnce) : entries.NamesOnce := by
  intro name
  induction entries with
  | nil => exact Nat.zero_le 1
  | cons first rest ih =>
    rw [List.map_cons, List.countP_cons]
    by_cases hfirst : first.1.sameKey (.text name) = true
    · have hnone : (rest.map Prod.fst).countP (·.sameKey (.text name)) = 0 :=
        List.countP_eq_zero.mpr (List.any_eq_false.mp (h.hasKey_rest hfirst))
      simp [hnone, hfirst]
    · rw [if_neg hfirst]
      exact ih h.of_cons

end KeysOnce

end Entries

namespace Value

theorem KeysOnce.entries {entries : Entries} (h : (Value.map entries).KeysOnce) :
    entries.KeysOnce ∧ ∀ entry ∈ entries, entry.2.KeysOnce := by
  cases h with
  | map keys values => exact ⟨keys, values⟩
  | other h => cases h

theorem KeysOnce.of_get? {entries : Entries} (h : (Value.map entries).KeysOnce) {key value : Value}
    (hvalue : entries.get? key = some value) : value.KeysOnce := by
  obtain ⟨entry, hentry, _, rfl⟩ := Entries.exists_mem_of_get? hvalue
  exact h.entries.2 entry hentry

theorem KeysOnce.flat {entries : Entries} (keys : entries.KeysOnce)
    (hflat : ∀ entry ∈ entries, entry.2.isMapping = false) : (Value.map entries).KeysOnce :=
  .map keys fun entry hentry => .other (hflat entry hentry)

theorem KeysOnce.isTidy {value : Value} (h : value.KeysOnce) : value.IsTidy := by
  rintro entries rfl
  refine ⟨h.entries.1.namesOnce, fun entry hentry inner hinner => ?_⟩
  have hvalue := h.entries.2 entry hentry
  rw [hinner] at hvalue
  exact hvalue.entries.1.namesOnce

theorem at?_nil (value : Value) : value.at? [] = some value := by cases value <;> rfl

theorem at?_map (entries : Entries) (key : Value) (rest : List Value) :
    (map entries).at? (key :: rest) = (entries.get? key).bind (·.at? rest) := rfl

theorem at?_of_not_mapping {value : Value} (h : value.isMapping = false) (key : Value)
    (rest : List Value) : value.at? (key :: rest) = none := by
  cases value with
  | map => cases h
  | _ => rfl

theorem KeysOnce.of_at? {value found : Value} {path : List Value} (h : value.KeysOnce)
    (hfound : value.at? path = some found) : found.KeysOnce := by
  induction path generalizing value with
  | nil =>
    rw [at?_nil] at hfound
    exact Option.some.inj hfound ▸ h
  | cons key rest ih =>
    cases value with
    | map entries =>
      rw [at?_map] at hfound
      obtain ⟨inner, hinner, hfound⟩ := Option.bind_eq_some_iff.mp hfound
      exact ih (h.of_get? hinner) hfound
    | _ => cases hfound

end Value

end ScanLauncher
