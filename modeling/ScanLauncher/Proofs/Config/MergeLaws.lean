import ScanLauncher.Proofs.Config.Layering

namespace ScanLauncher.Config

/-- At the end of a path the lowest and the topmost layer have mappings, and the one between them has
something else. -/
structure Hides (bottom : Option Value) (middle top : Value) (path : List Value) (under cover : Entries) :
    Prop where
  bottom : (bottom.bind fun lower => lower.at? path) = some (.map under)
  middle : ∃ found, middle.at? path = some found ∧ found.isMapping = false
  top : top.at? path = some (.map cover)

theorem mergeValue_of_not_mapping {value : Value} (h : value.isMapping = false) (base : Option Value) :
    mergeValue base value = value := by
  refine mergeValue_of_not_both fun below entries _ hmap => ?_
  rw [hmap] at h
  cases h

theorem mergeValue_of_base_not_mapping {base : Value} (h : base.isMapping = false) (value : Value) :
    mergeValue (some base) value = value := by
  refine mergeValue_of_not_both ?_
  rintro below _ ⟨⟩
  cases h

theorem at?_mergeValue_of_at? {value found : Value} (h : value.KeysOnce) (base : Option Value)
    {path : List Value} (hfound : value.at? path = some found) :
    (mergeValue base value).at? path = some (mergeValue (base.bind (·.at? path)) found) := by
  rw [(at?_mergeValue h base path).1 (saysOn_of_at? hfound), hfound, Option.map_some]

section Identity

variable {entries : Entries}

private theorem merge_nil (entries : Entries) : merge entries [] = entries := by
  rw [merge]

private theorem nil_merge (h : entries.KeysOnce) : merge [] entries = entries := by
  refine h.ext ?_ fun key => ?_
  · rw [keys_merge [] h]
    exact List.filter_eq_self.mpr fun _ _ => rfl
  · rw [get?_merge [] h]
    cases entries.get? key with
    | none => rfl
    | some value => exact congrArg some (mergeValue_none value)

private theorem mergeValue_self {value : Value} (h : value.KeysOnce) : mergeValue (some value) value = value := by
  induction h with
  | other hplain => exact mergeValue_of_not_mapping hplain _
  | @map entries hkeys hvalues ih =>
    rw [mergeValue_map_map]
    congr 1
    refine hkeys.ext ?_ fun key => ?_
    · -- The mapping has all the keys that it has.
      have hnone : (entries.keys.filter fun key => !entries.hasKey key) = [] := by
        refine List.filter_eq_nil_iff.mpr fun key hkey => ?_
        have hself := (hkeys.definite key hkey).sameKey_self
        rw [show entries.hasKey key = true from List.any_eq_true.mpr ⟨key, hkey, hself⟩]
        exact Bool.false_ne_true
      rw [keys_merge entries hkeys, hnone, List.append_nil]
    · rw [get?_merge entries hkeys]
      cases hvalue : entries.get? key with
      | none => rfl
      | some value =>
        obtain ⟨entry, hentry, _, rfl⟩ := Entries.exists_mem_of_get? hvalue
        exact congrArg some (ih entry hentry)

theorem merge_self (h : (Value.map entries).KeysOnce) : merge entries entries = entries := by
  have hself := mergeValue_self h
  rw [mergeValue_map_map] at hself
  exact Value.map.inj hself

end Identity

section Grouping

variable {bottom : Option Value} {middle top : Value} {under between cover : Entries}

private theorem merge_assoc_of_forall (hunder : under.KeysOnce) (hbetween : between.KeysOnce)
    (hcover : cover.KeysOnce)
    (h : ∀ key middle top, between.get? key = some middle → cover.get? key = some top →
      mergeValue (some (mergeValue (under.get? key) middle)) top =
        mergeValue (under.get? key) (mergeValue (some middle) top)) :
    merge (merge under between) cover = merge under (merge between cover) := by
  have hupper := keysOnce_merge hbetween hcover
  refine (keysOnce_merge hunder hupper).ext ?_ fun key => ?_
  · rw [keys_merge _ hcover, keys_merge _ hbetween, keys_merge _ hupper, keys_merge _ hcover,
      List.filter_append, List.filter_filter, List.append_assoc]
    congr 2
    refine List.filter_congr fun key _ => ?_
    rw [hasKey_merge under hbetween, Bool.not_or]
  · rw [get?_merge _ hcover, get?_merge _ hbetween, get?_merge _ hupper, get?_merge _ hcover]
    cases htop : cover.get? key with
    | none => rfl
    | some top =>
      cases hmiddle : between.get? key with
      | none => exact congrArg (fun value => some (mergeValue _ value)) (mergeValue_none top).symm
      | some middle => exact congrArg some (h key middle top hmiddle htop)

/-- A path leads on from a key as it does from the values under it. -/
theorem Hides.cons {key : Value} {path : List Value} {below above : Entries}
    (hmiddle : between.get? key = some middle) (htop : cover.get? key = some top)
    (h : Hides (under.get? key) middle top path below above) :
    Hides (some (.map under)) (.map between) (.map cover) (key :: path) below above := by
  refine ⟨?_, ?_, ?_⟩
  · exact h.bottom
  · rw [Value.at?_map, hmiddle]
    exact h.middle
  · rw [Value.at?_map, htop]
    exact h.top

private theorem mergeValue_assoc (hbottom : ∀ lower, bottom = some lower → lower.KeysOnce)
    (hmiddle : middle.KeysOnce) (htop : top.KeysOnce)
    (h : ∀ path under cover, Hides bottom middle top path under cover → merge under cover = cover) :
    mergeValue (some (mergeValue bottom middle)) top = mergeValue bottom (mergeValue (some middle) top) := by
  induction hmiddle generalizing bottom top with
  | @other middle hplain =>
    rw [mergeValue_of_not_mapping hplain, mergeValue_of_base_not_mapping hplain]
    by_cases hboth : ∀ under cover, bottom = some (.map under) → top ≠ .map cover
    · rw [mergeValue_of_not_both hboth]
    · push Not at hboth
      obtain ⟨under, cover, rfl, rfl⟩ := hboth
      have hhides : Hides (some (.map under)) middle (.map cover) [] under cover :=
        ⟨Value.at?_nil _, ⟨middle, Value.at?_nil _, hplain⟩, Value.at?_nil _⟩
      rw [mergeValue_map_map, h [] under cover hhides]
  | @map between hkeys hvalues ih =>
    cases htop with
    | other hplain => simp only [mergeValue_of_not_mapping hplain]
    | @map cover hcover hcovers =>
      rw [mergeValue_map_map]
      by_cases hmapping : ∃ under : Entries, bottom = some (.map under)
      · obtain ⟨under, rfl⟩ := hmapping
        have hunder := hbottom _ rfl
        rw [mergeValue_map_map, mergeValue_map_map, mergeValue_map_map]
        congr 1
        refine merge_assoc_of_forall hunder.entries.1 hkeys hcover fun key middle top hmiddle htop => ?_
        obtain ⟨entry, hentry, _, rfl⟩ := Entries.exists_mem_of_get? hmiddle
        have htopOnce := (Value.KeysOnce.map hcover hcovers).of_get? htop
        exact ih entry hentry (fun lower hlower => hunder.of_get? hlower) htopOnce
          fun path below above hhides => h (key :: path) below above (hhides.cons hmiddle htop)
      · have hplain (entries : Entries) : mergeValue bottom (.map entries) = .map entries :=
          mergeValue_of_not_both fun under _ hunder => absurd ⟨under, hunder⟩ hmapping
        rw [hplain, hplain, mergeValue_map_map]

/-- The grouping of three layers matters only where the middle one hides a mapping of the lowest one from a
mapping of the topmost one that leaves something of it. -/
theorem merge_assoc_iff (hunder : (Value.map under).KeysOnce) (hbetween : (Value.map between).KeysOnce)
    (hcover : (Value.map cover).KeysOnce) :
    merge (merge under between) cover = merge under (merge between cover) ↔
      ∀ path below above, Hides (some (.map under)) (.map between) (.map cover) path below above →
        merge below above = above := by
  have hlower := mergeValue_map_map under between
  have hupper := mergeValue_map_map between cover
  have hupperOnce : (Value.map (merge between cover)).KeysOnce :=
    hupper ▸ keysOnce_mergeValue (fun _ hvalue => Option.some.inj hvalue ▸ hbetween) hcover
  constructor
  · intro hassoc path below above hhides
    obtain ⟨found, hfound, hplain⟩ := hhides.middle
    -- What stands at the end of the path if the lower two layers come together first.
    have hfirst : (Value.map (merge under between)).at? path = some found := by
      rw [← hlower, at?_mergeValue_of_at? hbetween _ hfound, mergeValue_of_not_mapping hplain]
    have hleft : (Value.map (merge (merge under between) cover)).at? path = some (.map above) := by
      rw [← mergeValue_map_map, at?_mergeValue_of_at? hcover _ hhides.top, Option.bind_some, hfirst,
        mergeValue_of_base_not_mapping hplain]
    -- And what stands there if the upper two do.
    have hfirst' : (Value.map (merge between cover)).at? path = some (.map above) := by
      rw [← hupper, at?_mergeValue_of_at? hcover _ hhides.top, Option.bind_some, hfound,
        mergeValue_of_base_not_mapping hplain]
    have hright : (Value.map (merge under (merge between cover))).at? path =
        some (.map (merge below above)) := by
      rw [← mergeValue_map_map, at?_mergeValue_of_at? hupperOnce _ hfirst', hhides.bottom,
        mergeValue_map_map]
    rw [hassoc, hright] at hleft
    exact Value.map.inj (Option.some.inj hleft)
  · intro h
    have hassoc := mergeValue_assoc (fun _ hvalue => Option.some.inj hvalue ▸ hunder) hbetween hcover h
    rw [hlower, hupper, mergeValue_map_map, mergeValue_map_map] at hassoc
    exact Value.map.inj hassoc

-- The number hides a mapping with an entry, which the topmost layer then leaves as it is.
example :
    merge (merge [(.text "s", .map [(.text "x", .int 1)])] [(.text "s", .int 5)]) [(.text "s", .map [])] =
        [(.text "s", .map [])] ∧
      merge [(.text "s", .map [(.text "x", .int 1)])] (merge [(.text "s", .int 5)] [(.text "s", .map [])]) =
        [(.text "s", .map [(.text "x", .int 1)])] :=
  ⟨rfl, rfl⟩

end Grouping

/-- Nothing changes when an empty layer is laid over another one or under it, when a layer is laid over
itself, and when a layer is laid over once more. Of three layers it does not matter, not even for the order
of the keys, which two come together first, if the middle one nowhere has something else where both of the
others have mappings. -/
theorem merge_laws {bottom middle top : Entries} (hbottom : (Value.map bottom).KeysOnce)
    (hmiddle : (Value.map middle).KeysOnce) (htop : (Value.map top).KeysOnce) :
    merge bottom [] = bottom ∧ merge [] bottom = bottom ∧ merge bottom bottom = bottom ∧
      merge (merge bottom middle) middle = merge bottom middle ∧
      ((∀ path under cover, ¬ Hides (some (.map bottom)) (.map middle) (.map top) path under cover) →
        merge (merge bottom middle) top = merge bottom (merge middle top)) := by
  refine ⟨merge_nil bottom, nil_merge hbottom.entries.1, merge_self hbottom, ?_, fun hnone => ?_⟩
  · -- A layer hides nothing of its own.
    rw [(merge_assoc_iff hbottom hmiddle hmiddle).mpr, merge_self hmiddle]
    rintro path under cover ⟨_, ⟨found, hfound, hplain⟩, htop⟩
    rw [hfound] at htop
    cases htop
    cases hplain
  · exact (merge_assoc_iff hbottom hmiddle htop).mpr fun path under cover hhides =>
      absurd hhides (hnone path under cover)

/-- Paths lead to no mapping in a mapping that has none for a value. -/
theorem eq_nil_of_at?_flat {entries inner : Entries} {path : List Value}
    (hflat : ∀ entry ∈ entries, entry.2.isMapping = false)
    (h : (Value.map entries).at? path = some (.map inner)) : path = [] := by
  cases path with
  | nil => rfl
  | cons key rest =>
    rw [Value.at?_map] at h
    obtain ⟨value, hvalue, h⟩ := Option.bind_eq_some_iff.mp h
    obtain ⟨entry, hentry, _, rfl⟩ := Entries.exists_mem_of_get? hvalue
    have hplain := hflat entry hentry
    cases rest with
    | nil =>
      rw [Value.at?_nil] at h
      rw [Option.some.inj h] at hplain
      cases hplain
    | cons key' rest =>
      rw [Value.at?_of_not_mapping hplain] at h
      cases h

/-- A layer with mappings on top of `upperLayer`. -/
def topLayer : Entries :=
  [(.null, .map [(.text "x", .int 1)]), (.text "tool", .map [(.int 1, .null), (.text "z", .list [])])]

theorem keysOnce_topLayer : (Value.map topLayer).KeysOnce := by
  refine .map (by decide) fun entry hentry => ?_
  obtain rfl | rfl : entry = _ ∨ entry = _ := by
    simpa [topLayer] using hentry
  · exact .flat (by decide) (by decide)
  · exact .flat (by decide) (by decide)

private theorem not_hides_layers (path : List Value) (under cover : Entries) :
    ¬ Hides (some (.map lowerLayer)) (.map upperLayer) (.map topLayer) path under cover := by
  rintro ⟨hbottom, ⟨found, hfound, hplain⟩, htop⟩
  cases path with
  | nil =>
    rw [Value.at?_nil] at hfound
    cases hfound
    cases hplain
  | cons key rest =>
    rw [Option.bind_some, Value.at?_map] at hbottom
    rw [Value.at?_map] at hfound htop
    obtain ⟨value, hvalue, htop⟩ := Option.bind_eq_some_iff.mp htop
    obtain ⟨entry, hentry, hkey, rfl⟩ := Entries.exists_mem_of_get? hvalue
    rw [← Entries.get?_congr hkey] at hbottom hfound
    obtain rfl | rfl : entry = _ ∨ entry = _ := by
      simpa [topLayer] using hentry
    · cases hbottom
    · obtain rfl := eq_nil_of_at?_flat (by decide) htop
      cases hfound
      cases hplain

/-- Three layers that write one number in three ways. -/
theorem merge_laws_numberKeys :
    (((Value.map lowerLayer).KeysOnce ∧ (Value.map upperLayer).KeysOnce) ∧
        (Value.map topLayer).KeysOnce) ∧
      merge (merge lowerLayer upperLayer) topLayer = merge lowerLayer (merge upperLayer topLayer) := by
  obtain ⟨_, _, _, _, hassoc⟩ := merge_laws keysOnce_layers.1 keysOnce_layers.2 keysOnce_topLayer
  exact ⟨⟨keysOnce_layers, keysOnce_topLayer⟩, hassoc not_hides_layers⟩

end ScanLauncher.Config
