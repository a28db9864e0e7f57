import Mathlib.Data.List.Basic
import ScanLauncher.Proofs.Value.Leaves
import ScanLauncher.Proofs.Value.Mapping

namespace ScanLauncher.Config

/-- One mapping is laid over another one, entry after entry; two mappings under one key are laid over
each other first. A derivation is finite, and so is the work that it describes. -/
inductive LaidOver : Entries → Entries → Entries → Prop
  | done (base : Entries) : LaidOver base [] base
  | within {base below above inner rest result : Entries} {key : Value}
      (hbelow : base.get? key = some (.map below)) (hinner : LaidOver below above inner)
      (hrest : LaidOver (base.insert key (.map inner)) rest result) :
      LaidOver base ((key, .map above) :: rest) result
  | replaced {base rest result : Entries} {key value : Value}
      (hother : ∀ below above, base.get? key = some (.map below) → value ≠ .map above)
      (hrest : LaidOver (base.insert key value) rest result) :
      LaidOver base ((key, value) :: rest) result

/-- A value says something on a path: something stands at its end, or something that is no mapping on the
way. -/
def SaysOn (value : Value) (path : List Value) : Prop :=
  ∃ front rest found, path = front ++ rest ∧ value.at? front = some found ∧
    (rest = [] ∨ found.isMapping = false)

/-- The result of laying one mapping over another one, path by path. -/
structure IsLayered (base overlay result : Entries) : Prop where
  /-- No mapping in the result has a key twice. -/
  keysOnce : (Value.map result).KeysOnce
  /-- Where the upper mapping says nothing, the lower one stands. -/
  below : ∀ path, ¬ SaysOn (.map overlay) path →
    (Value.map result).at? path = (Value.map base).at? path
  /-- Where both have mappings, the one is laid over the other: keys of the lower one stay, in their
  order, and the others follow in theirs. -/
  within : ∀ (path : List Value) (under cover : Entries), (Value.map base).at? path = some (.map under) →
    (Value.map overlay).at? path = some (.map cover) →
      (Value.map result).at? path = some (.map (merge under cover)) ∧
        (merge under cover).keys = under.keys ++ cover.keys.filter fun key => !under.hasKey key
  /-- Everywhere else the upper one stands. -/
  above : ∀ path, SaysOn (.map overlay) path →
    (∀ under cover, (Value.map base).at? path = some (.map under) →
      (Value.map overlay).at? path ≠ some (.map cover)) →
      (Value.map result).at? path = (Value.map overlay).at? path

section Loop

variable {base overlay result : Entries}

private theorem laidOver_merge_of_forall (h : ∀ entry ∈ overlay, ∀ cover, entry.2 = .map cover →
    ∀ under, LaidOver under cover (merge under cover)) (base : Entries) :
    LaidOver base overlay (merge base overlay) := by
  induction overlay generalizing base with
  | nil =>
    rw [merge]
    exact .done base
  | cons entry rest ih =>
    obtain ⟨key, value⟩ := entry
    have hrest := ih fun entry hentry => h entry (.tail _ hentry)
    rw [merge]
    by_cases hboth : ∀ under cover, base.get? key = some (.map under) → value ≠ .map cover
    · rw [mergeValue_of_not_both hboth]
      exact .replaced hboth (hrest _)
    · push Not at hboth
      obtain ⟨under, cover, hunder, rfl⟩ := hboth
      rw [hunder, mergeValue_map_map]
      exact .within hunder (h _ (.head _) cover rfl under) (hrest _)

private theorem laidOver_merge (base overlay : Entries) : LaidOver base overlay (merge base overlay) := by
  have hvalue (value : Value) :
      ∀ cover, value = .map cover → ∀ under, LaidOver under cover (merge under cover) := by
    induction value using Value.induction with
    | onLeaf value hleaf => exact fun cover h => absurd h (hleaf.not_map cover)
    | onList items ih => exact fun cover h => nomatch h
    | onMap entries ih =>
      rintro cover ⟨⟩ under
      exact laidOver_merge_of_forall ih under
  exact hvalue (.map overlay) overlay rfl base

private theorem laidOver_iff : LaidOver base overlay result ↔ result = merge base overlay := by
  constructor
  · intro h
    induction h with
    | done base => rw [merge]
    | within hbelow _ _ ihinner ihrest =>
      rw [merge, hbelow, mergeValue_map_map, ← ihinner]
      exact ihrest
    | replaced hother _ ihrest =>
      rw [merge, mergeValue_of_not_both hother]
      exact ihrest
  · rintro rfl
    exact laidOver_merge base overlay

end Loop

section Keys

variable {base overlay : Entries}

/-- What the upper mapping has under a key is merged with what is there, and where it has nothing the
lower one stands. -/
theorem get?_merge (base : Entries) (h : overlay.KeysOnce) (key : Value) :
    (merge base overlay).get? key = match overlay.get? key with
      | some value => some (mergeValue (base.get? key) value)
      | none => base.get? key := by
  induction overlay generalizing base with
  | nil =>
    rw [merge]
    rfl
  | cons entry rest ih =>
    obtain ⟨first, value⟩ := entry
    rw [merge, ih _ h.of_cons, Entries.get?_insert, Entries.get?_cons]
    cases hkey : first.sameKey key with
    | true =>
      have hrest : Entries.get? rest key = none := Entries.get?_eq_none_iff.mpr (h.hasKey_rest hkey)
      simp [hrest, Entries.get?_congr hkey]
    | false => simp

theorem hasKey_merge (base : Entries) (h : overlay.KeysOnce) (key : Value) :
    (merge base overlay).hasKey key = (base.hasKey key || overlay.hasKey key) := by
  rw [← Entries.isSome_get?, ← Entries.isSome_get?, ← Entries.isSome_get?, get?_merge base h]
  cases overlay.get? key <;> simp

/-- The keys of the lower mapping stay as they are, and those that only the upper one has follow. -/
theorem keys_merge (base : Entries) (h : overlay.KeysOnce) :
    (merge base overlay).keys = base.keys ++ overlay.keys.filter fun key => !base.hasKey key := by
  induction overlay generalizing base with
  | nil =>
    rw [merge]
    exact (List.append_nil _).symm
  | cons entry rest ih =>
    obtain ⟨first, value⟩ := entry
    have hother := (List.pairwise_cons.mp h.distinct).1
    -- The entry that was put in is none of those that follow.
    have hrest : (Entries.keys rest).filter
          (fun key => !(base.insert first (mergeValue (base.get? first) value)).hasKey key) =
        (Entries.keys rest).filter fun key => !base.hasKey key := by
      refine List.filter_congr fun key hkey => ?_
      rw [← Entries.isSome_get?, Entries.get?_insert, hother key hkey, if_neg Bool.false_ne_true,
        Entries.isSome_get?]
    rw [merge, ih _ h.of_cons, hrest, Entries.keys_insert, List.append_assoc]
    congr 1
    rw [Entries.keys_cons, List.filter_cons]
    cases base.hasKey first <;> rfl

theorem keysOnce_merge (hbase : base.KeysOnce) (h : overlay.KeysOnce) :
    (merge base overlay).KeysOnce := by
  constructor
  · intro key hkey
    rw [keys_merge base h] at hkey
    rcases List.mem_append.mp hkey with hold | hnew
    · exact hbase.definite key hold
    · exact h.definite key (List.mem_filter.mp hnew).1
  · rw [keys_merge base h, List.pairwise_append]
    refine ⟨hbase.distinct, h.distinct.filter _, fun key hkey key' hkey' => ?_⟩
    have hnot := (List.mem_filter.mp hkey').2
    rw [Bool.not_eq_true'] at hnot
    exact eq_false_of_ne_true (List.any_eq_false.mp hnot key hkey)

/-- Merged values have their keys once if both values have. -/
theorem keysOnce_mergeValue {base : Option Value} {value : Value}
    (hbase : ∀ lower, base = some lower → lower.KeysOnce) (h : value.KeysOnce) :
    (mergeValue base value).KeysOnce := by
  induction h generalizing base with
  | @other value hvalue => exact .other (by rw [isMapping_mergeValue, hvalue])
  | @map cover hkeys hvalues ih =>
    by_cases hboth : ∀ under cover', base = some (.map under) → Value.map cover ≠ .map cover'
    · rw [mergeValue_of_not_both hboth]
      exact .map hkeys hvalues
    · push Not at hboth
      obtain ⟨under, _, rfl, ⟨⟩⟩ := hboth
      have hunder := hbase (.map under) rfl
      have hmerged := keysOnce_merge hunder.entries.1 hkeys
      rw [mergeValue_map_map]
      refine .map hmerged fun entry hentry => ?_
      have hfound := hmerged.get?_of_mem hentry
      rw [get?_merge under hkeys] at hfound
      cases hupper : cover.get? entry.1 with
      | none =>
        rw [hupper] at hfound
        exact hunder.of_get? hfound
      | some upper =>
        rw [hupper] at hfound
        obtain ⟨entry', hentry', _, rfl⟩ := Entries.exists_mem_of_get? hupper
        rw [← Option.some.inj hfound]
        exact ih entry' hentry' fun lower hlower => hunder.of_get? hlower

end Keys

section Paths

private theorem saysOn_nil (value : Value) : SaysOn value [] := ⟨[], [], value, rfl, value.at?_nil, .inl rfl⟩

private theorem saysOn_of_not_mapping {value : Value} (h : value.isMapping = false) (path : List Value) :
    SaysOn value path := ⟨[], path, value, rfl, value.at?_nil, .inr h⟩

theorem saysOn_of_at? {value found : Value} {path : List Value} (h : value.at? path = some found) :
    SaysOn value path := ⟨path, [], found, (List.append_nil path).symm, h, .inl rfl⟩

private theorem saysOn_cons_iff {entries : Entries} {key : Value} {rest : List Value} :
    SaysOn (.map entries) (key :: rest) ↔ ∃ value, entries.get? key = some value ∧ SaysOn value rest := by
  constructor
  · rintro ⟨front, behind, found, hpath, hfound, hend⟩
    cases front with
    | nil =>
      rw [Value.at?_nil] at hfound
      obtain rfl := Option.some.inj hfound
      rcases hend with rfl | hend
      · cases hpath
      · cases hend
    | cons first front =>
      obtain ⟨rfl, rfl⟩ := List.cons.inj hpath
      rw [Value.at?_map] at hfound
      obtain ⟨value, hvalue, hfound⟩ := Option.bind_eq_some_iff.mp hfound
      exact ⟨value, hvalue, front, behind, found, rfl, hfound, hend⟩
  · rintro ⟨value, hvalue, front, behind, found, rfl, hfound, hend⟩
    refine ⟨key :: front, behind, found, rfl, ?_, hend⟩
    rw [Value.at?_map, hvalue]
    exact hfound

/-- Under a path the upper value is merged with what is there, and where it says nothing the lower one
stands. -/
theorem at?_mergeValue {value : Value} (h : value.KeysOnce) (base : Option Value) (path : List Value) :
    (SaysOn value path → (mergeValue base value).at? path =
      (value.at? path).map (mergeValue (base.bind (·.at? path)))) ∧
    (¬ SaysOn value path → (mergeValue base value).at? path = base.bind (·.at? path)) := by
  induction path generalizing base value with
  | nil =>
    refine ⟨fun _ => ?_, fun hnot => absurd (saysOn_nil value) hnot⟩
    have hbase : (base.bind fun lower => lower.at? []) = base := by
      simp only [Value.at?_nil, Option.bind_fun_some]
    rw [Value.at?_nil, Value.at?_nil, hbase]
    rfl
  | cons key rest ih =>
    cases h with
    | other hvalue =>
      refine ⟨fun _ => ?_, fun hnot => absurd (saysOn_of_not_mapping hvalue _) hnot⟩
      rw [Value.at?_of_not_mapping hvalue, Value.at?_of_not_mapping]
      · rfl
      · rw [isMapping_mergeValue, hvalue]
    | @map cover hkeys hvalues =>
      have hcover : (Value.map cover).KeysOnce := .map hkeys hvalues
      by_cases hmapping : ∃ under : Entries, base = some (.map under)
      · obtain ⟨under, rfl⟩ := hmapping
        rw [mergeValue_map_map, saysOn_cons_iff, Option.bind_some, Value.at?_map, Value.at?_map,
          Value.at?_map, get?_merge under hkeys]
        cases hupper : cover.get? key with
        | none => simp
        | some upper => simpa using ih (hcover.of_get? hupper) (under.get? key)
      · -- No path leads into a value that is no mapping.
        have hnowhere : (base.bind fun lower => lower.at? (key :: rest)) = none := by
          refine Option.bind_eq_none_iff.mpr fun lower hlower => ?_
          cases lower with
          | map under => exact absurd ⟨under, hlower⟩ hmapping
          | _ => rfl
        rw [hnowhere, mergeValue_of_not_both fun under _ h => absurd ⟨under, h⟩ hmapping,
          Option.map_congr fun upper _ => mergeValue_none upper, Option.map_id']
        refine ⟨fun _ => rfl, fun hnot => ?_⟩
        cases hfound : (Value.map cover).at? (key :: rest) with
        | none => rfl
        | some found => exact absurd (saysOn_of_at? hfound) hnot

end Paths

/-- Laying one mapping over another one comes to an end whatever the two are, and to one end only. The keys
of the result are those of the lower mapping, as they are there, and behind them those that only the upper
one has; and under every path stands what the lower mapping has there if the upper one says nothing on the
path, the one mapping laid over the other if both have mappings there, and else what the upper one has. -/
theorem merge_represents (base overlay : Entries) (hbase : (Value.map base).KeysOnce)
    (hoverlay : (Value.map overlay).KeysOnce) :
    (∀ result, LaidOver base overlay result ↔ result = merge base overlay) ∧
      (merge base overlay).keys = base.keys ++ overlay.keys.filter (fun key => !base.hasKey key) ∧
      IsLayered base overlay (merge base overlay) := by
  have hmerged : mergeValue (some (.map base)) (.map overlay) = .map (merge base overlay) :=
    mergeValue_map_map base overlay
  have hpath (path : List Value) := at?_mergeValue hoverlay (some (.map base)) path
  rw [hmerged] at hpath
  refine ⟨fun result => laidOver_iff, keys_merge base hoverlay.entries.1, ?_⟩
  constructor
  case keysOnce =>
    rw [← hmerged]
    exact keysOnce_mergeValue (fun lower hlower => Option.some.inj hlower ▸ hbase) hoverlay
  case below => exact fun path => (hpath path).2
  case within =>
    intro path under cover hunder hcover
    refine ⟨?_, keys_merge under (hoverlay.of_at? hcover).entries.1⟩
    rw [(hpath path).1 (saysOn_of_at? hcover), hcover, Option.bind_some, hunder, Option.map_some,
      mergeValue_map_map]
  case above =>
    intro path hsays hother
    rw [(hpath path).1 hsays]
    cases hfound : (Value.map overlay).at? path with
    | none => rfl
    | some found =>
      rw [Option.map_some, mergeValue_of_not_both]
      rintro under cover hunder rfl
      exact hother under cover hunder hfound

/-- A lower layer with a number for a key. -/
def lowerLayer : Entries :=
  [(.int 1, .text "one"), (.text "tool", .map [(.bool true, .int 1), (.text "x", .null)]),
    (.text "s", .map [])]

/-- An upper layer that writes the same number in other ways. -/
def upperLayer : Entries :=
  [(.text "tool", .map [(.text "y", .int 3), (.float (.finite false 1 0) 0, .int 2)]),
    (.bool true, .text "yes"), (.text "s", .int 5), (.null, .map [])]

theorem keysOnce_layers :
    (Value.map lowerLayer).KeysOnce ∧ (Value.map upperLayer).KeysOnce := by
  constructor <;> refine .map (by decide) fun entry hentry => ?_
  · obtain rfl | rfl | rfl : entry = _ ∨ entry = _ ∨ entry = _ := by
      simpa [lowerLayer] using hentry
    · exact .other rfl
    · exact .flat (by decide) (by decide)
    · exact .flat (by decide) nofun
  · obtain rfl | rfl | rfl | rfl : entry = _ ∨ entry = _ ∨ entry = _ ∨ entry = _ := by
      simpa [upperLayer] using hentry
    · exact .flat (by decide) (by decide)
    · exact .other rfl
    · exact .other rfl
    · exact .flat (by decide) nofun

/-- The keys keep their places and their first spelling, in the section as well. -/
theorem merge_represents_numberKeys :
    ((Value.map lowerLayer).KeysOnce ∧ (Value.map upperLayer).KeysOnce) ∧
      (merge lowerLayer upperLayer).keys = [.int 1, .text "tool", .text "s", .null] ∧
      ∃ inner, (Value.map (merge lowerLayer upperLayer)).at? [.text "tool"] = some (.map inner) ∧
        Entries.keys inner = [.bool true, .text "x", .text "y"] := by
  obtain ⟨_, hkeys, hlayered⟩ :=
    merge_represents lowerLayer upperLayer keysOnce_layers.1 keysOnce_layers.2
  obtain ⟨hinner, hinnerKeys⟩ := hlayered.within [.text "tool"] _ _ rfl rfl
  exact ⟨keysOnce_layers, hkeys, _, hinner, hinnerKeys⟩

end ScanLauncher.Config
