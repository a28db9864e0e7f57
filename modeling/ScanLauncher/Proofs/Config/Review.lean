import Mathlib.Data.List.Basic
import ScanLauncher.Proofs.Config.Merge
import ScanLauncher.Proofs.Config.Setting

namespace ScanLauncher.Config

namespace Review

theorem append_eq (a b : Review) :
    a ++ b = if a.stop.isNone then ⟨a.problems ++ b.problems, b.stop⟩ else a := rfl

theorem stop_append (a b : Review) : (a ++ b).stop = a.stop.or b.stop := by
  rw [append_eq]
  cases h : a.stop with
  | none => rfl
  | some stop => exact h

/-- Up to what stopped it, a review lists everything. -/
theorem problems_append {a : Review} (h : a.stop = none) (b : Review) :
    (a ++ b).problems = a.problems ++ b.problems := by
  rw [append_eq, h]
  rfl

theorem append_assoc (a b c : Review) : a ++ b ++ c = a ++ (b ++ c) := by
  simp only [append_eq]
  cases ha : a.stop with
  | none => cases hb : b.stop <;> simp [hb]
  | some stop => simp [ha]

private theorem clean_append (a : Review) : clean ++ a = a := rfl

private theorem append_clean (a : Review) : a ++ clean = a := by
  obtain ⟨problems, stop⟩ := a
  cases stop with
  | none => simp [append_eq, clean]
  | some stop => rfl

theorem foldl_append (a : Review) (reviews : List Review) :
    reviews.foldl append a = a ++ all reviews := by
  induction reviews generalizing a with
  | nil => exact (append_clean a).symm
  | cons r rest ih =>
    calc rest.foldl append (a ++ r)
        = a ++ r ++ all rest := ih (a ++ r)
      _ = a ++ (clean ++ r ++ all rest) := by rw [append_assoc, clean_append]
      _ = a ++ rest.foldl append (clean ++ r) := by rw [ih (clean ++ r)]

theorem all_cons (r : Review) (rest : List Review) : all (r :: rest) = r ++ all rest :=
  foldl_append (clean ++ r) rest

theorem stop_all (reviews : List Review) : (all reviews).stop = reviews.findSome? Review.stop := by
  induction reviews with
  | nil => rfl
  | cons r rest ih =>
    rw [all_cons, stop_append, ih, List.findSome?_cons]
    cases r.stop <;> rfl

theorem problems_all {reviews : List Review} (h : ∀ r ∈ reviews, r.stop = none) :
    (all reviews).problems = reviews.flatMap Review.problems := by
  induction reviews with
  | nil => rfl
  | cons r rest ih =>
    rw [all_cons, problems_append (h r (.head _)), ih fun r' hr' => h r' (.tail _ hr'),
      List.flatMap_cons]

/-- Reviews that can be stopped in one way only are stopped in this way if one of them is. -/
theorem stop_all_of_mem {reviews : List Review} {stop : ReviewStop}
    (h : ∀ r ∈ reviews, r.stop = none ∨ r.stop = some stop) {r : Review} (hr : r ∈ reviews)
    (hstop : r.stop = some stop) : (all reviews).stop = some stop := by
  rw [stop_all]
  cases hfirst : reviews.findSome? Review.stop with
  | none =>
    have hnone := List.findSome?_eq_none_iff.mp hfirst r hr
    rw [hstop] at hnone
    cases hnone
  | some other =>
    obtain ⟨r', hr', hother⟩ := List.exists_of_findSome?_eq_some hfirst
    rcases h r' hr' with hnone | hsame
    · rw [hnone] at hother
      cases hother
    · rw [← hother, hsame]

theorem stop_all_or {reviews : List Review} {stop : ReviewStop}
    (h : ∀ r ∈ reviews, r.stop = none ∨ r.stop = some stop) :
    (all reviews).stop = none ∨ (all reviews).stop = some stop := by
  by_cases hall : ∀ r ∈ reviews, r.stop = none
  · left
    rw [stop_all, List.findSome?_eq_none_iff]
    exact hall
  · push Not at hall
    obtain ⟨r, hr, hstop⟩ := hall
    exact .inr (stop_all_of_mem h hr ((h r hr).resolve_left hstop))

theorem stop_when (holds : Bool) (p : Problem) : (when holds p).stop = none := by
  cases holds <;> rfl

theorem mem_problems_when {holds : Bool} {p q : Problem} :
    q ∈ (when holds p).problems ↔ holds = true ∧ q = p := by
  cases holds <;> simp [when, one, clean]

end Review

/-- An entry of some data: at the top, or inside a section that is a mapping. -/
inductive HasEntry (data : Entries) : Option Section → Value × Value → Prop where
  | top {entry : Value × Value} (h : entry ∈ data) : HasEntry data none entry
  | inside {s : Section} {entries : Entries} {entry : Value × Value}
      (hsection : data.field? s.name = some (.map entries)) (h : entry ∈ entries) :
      HasEntry data (some s) entry

private theorem hasEntry_none_iff {data : Entries} {entry : Value × Value} :
    HasEntry data none entry ↔ entry ∈ data := by
  constructor
  · rintro ⟨h⟩
    exact h
  · exact .top

theorem hasEntry_some_iff {data : Entries} {s : Section} {entry : Value × Value} :
    HasEntry data (some s) entry ↔
      ∃ entries, data.field? s.name = some (.map entries) ∧ entry ∈ entries := by
  constructor
  · intro h
    cases h with
    | inside hsection h => exact ⟨_, hsection, h⟩
  · rintro ⟨entries, hsection, h⟩
    exact .inside hsection h

/-- A key that is known in its place. -/
def IsKnown : Option Section → Value → Prop
  | none, key => ∃ s : Section, key = .text s.name
  | some s, key => ∃ k : Key, k.place = s ∧ key = .text k.name

/-- A key that can be compared with the known ones. -/
def IsSearchable (key : Value) : Prop := (∃ t, key = .text t) ∨ ∃ content, key = .bytes content

/-- The problem of a key that is not known in its place. -/
def unknownAt : Option Section → Value → Option Text → Problem
  | none, key, suggestion => .unknownTopKey key suggestion
  | some s, key, suggestion => .unknownKey s key suggestion

/-- The names that are known in a place. -/
def knownNames : Option Section → List Text
  | none => topKeys
  | some s => s.keys

/-- What may have been meant by a key. -/
def suggestionAt (place : Option Section) : Value → Option Text
  | .text t => suggest t (knownNames place)
  | _ => none

/-- The review of an entry in its place. -/
def reviewAt : Option Section → Value × Value → Review
  | none, entry => reviewTopKey entry.1
  | some s, entry => reviewEntry s entry.1 entry.2

section Entry

variable {place : Option Section} {entry : Value × Value}

theorem isKnown_text {key : Value} (h : IsKnown place key) : ∃ t, key = .text t := by
  cases place with
  | none =>
    obtain ⟨s, rfl⟩ := h
    exact ⟨s.name, rfl⟩
  | some s =>
    obtain ⟨k, _, rfl⟩ := h
    exact ⟨k.name, rfl⟩

theorem IsKnown.isSearchable {key : Value} (h : IsKnown place key) : IsSearchable key :=
  .inl (isKnown_text h)

theorem topKeys_contains_iff {t : Text} : topKeys.contains t = true ↔ IsKnown none (.text t) := by
  rw [List.contains_iff_mem]
  constructor
  · intro h
    obtain ⟨s, _, rfl⟩ := List.mem_map.mp h
    exact ⟨s, rfl⟩
  · rintro ⟨s, hs⟩
    obtain rfl := Value.text.inj hs
    cases s <;> decide

private theorem lookup_settings_eq_none_iff {s : Section} {t : Text} :
    s.settings.lookup t = none ↔ ¬ IsKnown (some s) (.text t) := by
  constructor
  · rintro h ⟨k, hplace, hname⟩
    obtain rfl := Value.text.inj hname
    rw [Key.lookup_settings_iff.mpr ⟨k, hplace, rfl, rfl⟩] at h
    cases h
  · intro h
    cases hlookup : s.settings.lookup t with
    | none => rfl
    | some kinds =>
      obtain ⟨k, hplace, hname, _⟩ := Key.lookup_settings_iff.mp hlookup
      exact absurd ⟨k, hplace, congrArg Value.text hname.symm⟩ h

private theorem Key.kinds_eq {key other : Key} (hplace : key.place = other.place)
    (hname : key.name = other.name) : key.kinds = other.kinds := by
  have hkey := Key.lookup_settings_iff.mpr ⟨key, hplace, hname, rfl⟩
  rw [Key.lookup_settings_iff.mpr ⟨other, rfl, rfl, rfl⟩] at hkey
  exact (Option.some.inj hkey).symm

/-- A key that is not known is reviewed as such, wherever it stands. -/
theorem reviewAt_of_not_isKnown (h : ¬ IsKnown place entry.1) :
    reviewAt place entry =
      reviewUnknown entry.1 (knownNames place) (unknownAt place entry.1) := by
  obtain ⟨key, value⟩ := entry
  cases place with
  | none =>
    cases key with
    | text t =>
      have hnot : ¬ topKeys.contains t = true := fun hcontains => h (topKeys_contains_iff.mp hcontains)
      rw [reviewAt, reviewTopKey, if_neg hnot]
      rfl
    | _ => rfl
  | some s =>
    cases key with
    | text t =>
      rw [reviewAt, reviewEntry, lookup_settings_eq_none_iff.mpr h]
      rfl
    | _ => rfl

theorem reviewUnknown_of_isSearchable {key : Value} (h : IsSearchable key) :
    reviewUnknown key (knownNames place) (unknownAt place key) =
      .one (unknownAt place key (suggestionAt place key)) := by
  obtain ⟨t, rfl⟩ | ⟨content, rfl⟩ := h
  · rfl
  · rfl

theorem reviewAt_top_of_isKnown (h : IsKnown none entry.1) : reviewAt none entry = .clean := by
  obtain ⟨key, value⟩ := entry
  obtain ⟨t, rfl⟩ := isKnown_text h
  rw [reviewAt, reviewTopKey, if_pos (topKeys_contains_iff.mpr h)]

theorem reviewAt_key (key : Key) (value : Value) :
    reviewAt (some key.place) (.text key.name, value) =
      .when (!key.kinds.any (·.accepts value)) (.wrongKind key.place key.name key.kinds value.kind) := by
  rw [reviewAt, reviewEntry, Key.lookup_settings_iff.mpr ⟨key, rfl, rfl, rfl⟩]
  rfl

theorem stop_reviewAt (h : IsSearchable entry.1) : (reviewAt place entry).stop = none := by
  by_cases hknown : IsKnown place entry.1
  · obtain ⟨name, value⟩ := entry
    cases place with
    | none => rw [reviewAt_top_of_isKnown hknown]; rfl
    | some s =>
      obtain ⟨key, rfl, rfl⟩ := hknown
      rw [reviewAt_key, Review.stop_when]
  · rw [reviewAt_of_not_isKnown hknown, reviewUnknown_of_isSearchable h]
    rfl

theorem stop_reviewAt_of_not (h : ¬ IsSearchable entry.1) :
    (reviewAt place entry).stop = some .wrongKind := by
  rw [reviewAt_of_not_isKnown fun hknown => h hknown.isSearchable]
  unfold reviewUnknown
  split
  · rename_i t ht
    exact absurd (.inl ⟨t, ht⟩) h
  · rename_i content hcontent
    exact absurd (.inr ⟨content, hcontent⟩) h
  · rfl

/-- What is found at an entry: that its key is not known, or that its value is of a wrong kind. -/
theorem mem_problems_reviewAt (h : IsSearchable entry.1) {p : Problem} :
    p ∈ (reviewAt place entry).problems ↔
      (¬ IsKnown place entry.1 ∧ p = unknownAt place entry.1 (suggestionAt place entry.1)) ∨
      ∃ key : Key, place = some key.place ∧ entry.1 = .text key.name ∧
        key.kinds.any (·.accepts entry.2) = false ∧
        p = .wrongKind key.place key.name key.kinds entry.2.kind := by
  by_cases hknown : IsKnown place entry.1
  · obtain ⟨name, value⟩ := entry
    cases place with
    | none => simp [reviewAt_top_of_isKnown hknown, hknown, Review.clean]
    | some s =>
      obtain ⟨key, rfl, rfl⟩ := id hknown
      rw [reviewAt_key, Review.mem_problems_when]
      constructor
      · rintro ⟨hkinds, rfl⟩
        exact .inr ⟨key, rfl, rfl, by simpa using hkinds, rfl⟩
      · rintro (⟨hnot, _⟩ | ⟨other, hplace, hname, hkinds, rfl⟩)
        · exact absurd hknown hnot
        · have hsame : key.place = other.place := Option.some.inj hplace
          have hname : key.name = other.name := Value.text.inj hname
          have hkinds' : key.kinds = other.kinds := Key.kinds_eq hsame hname
          rw [hsame, hname, hkinds']
          exact ⟨by simpa using hkinds, rfl⟩
  · rw [reviewAt_of_not_isKnown hknown, reviewUnknown_of_isSearchable h]
    constructor
    · intro hp
      exact .inl ⟨hknown, List.mem_singleton.mp hp⟩
    · rintro (⟨_, rfl⟩ | ⟨key, rfl, hname, _⟩)
      · exact .head _
      · exact absurd ⟨key, rfl, hname⟩ hknown

end Entry

/-- The reviews of single keys' ranges. -/
def Key.check : Key → Value → Review
  | .timeout, value => .when (isNegative value) .negativeTimeout
  | .chunkSize, value => .when (isNotPositive value) .noChunkSize
  | .directoryName, value => reviewDirectoryName value
  | .port, value => reviewPort value
  | .busyWait, value => .when (isNegative value) .negativeBusyWait
  | _, _ => .clean

/-- The keys whose ranges are reviewed. -/
def rangeKeys : List Key := [.timeout, .chunkSize, .directoryName, .port, .busyWait]

/-- The review of the range of a key's value, where it has one. -/
def reviewKey (data : Entries) (key : Key) : Review := ((key.value? data).map key.check).getD .clean

private theorem reviewRange_eq (data : Entries) (key : Key) :
    reviewRange data key.place key.name key.check = reviewKey data key := by
  rw [reviewRange, reviewKey, Key.value?, sectionOf]
  cases data.field? key.place.name with
  | none => rfl
  | some value => cases value <;> rfl

theorem reviewRanges_eq (data : Entries) :
    reviewRanges data = .all (rangeKeys.map (reviewKey data)) := by
  simp only [rangeKeys, List.map_cons, ← reviewRange_eq]
  rfl

/-- An integer that is too long to be shown. -/
def IsLong (n : Int) : Prop := powerOfTen Numeral.digitLimit ≤ n.natAbs

/-- A port that is too long to be shown. -/
def HasLongPort (data : Entries) : Prop := ∃ n, Key.port.value? data = some (.int n) ∧ IsLong n

section Range

theorem ofInt?_eq_none_iff {n : Int} : Numeral.ofInt? n = none ↔ IsLong n := by
  simp [Numeral.ofInt?, IsLong]

theorem IsLong.large {n : Int} (h : IsLong n) : 65536 ≤ n.natAbs := by
  have hpower (k : Nat) (hk : 5 ≤ k) : powerOfTen 5 ≤ powerOfTen k :=
    Nat.pow_le_pow_right (by decide) hk
  calc 65536
      ≤ powerOfTen 5 := by decide
    _ ≤ powerOfTen Numeral.digitLimit := hpower _ (by decide)
    _ ≤ n.natAbs := h

theorem isNegative_int {n : Int} : isNegative (.int n) = false ↔ 0 ≤ n := by
  simp [isNegative, compareNumber?, Int.compare_eq_lt]

theorem isNotPositive_int {n : Int} : isNotPositive (.int n) = false ↔ 0 < n := by
  simp [isNotPositive, compareNumber?, Int.compare_eq_lt]
  omega

theorem isBadPort_int {n : Int} : isBadPort (.int n) = false ↔ 0 < n ∧ n < 65536 := by
  simp [isBadPort, isNumber, compareNumber?, Int.compare_eq_lt, Int.compare_eq_gt]

theorem IsLong.isBadPort {n : Int} (h : IsLong n) : isBadPort (.int n) = true := by
  have hlarge := h.large
  rw [← Bool.not_eq_false, isBadPort_int]
  omega

theorem plain?_int (n : Int) : (Value.int n).plain? = (Numeral.ofInt? n).map Text.ofString := by
  rw [Value.plain?, Value.nested?]
  all_goals nofun

theorem isSome_plain?_of_isNumber {value : Value} (h : isNumber value = true)
    (hint : ∀ n, value = .int n → ¬ IsLong n) : ∃ shown, value.plain? = some shown := by
  cases value with
  | int n =>
    cases hshown : Numeral.ofInt? n with
    | none => exact absurd (ofInt?_eq_none_iff.mp hshown) (hint n rfl)
    | some digits => exact ⟨digits, by rw [plain?_int, hshown]; rfl⟩
  | float x label =>
    refine ⟨x.text, ?_⟩
    rw [Value.plain?, Value.nested?]
    all_goals nofun
  | _ => cases h

private theorem isNumber_of_isBadPort {value : Value} (h : isBadPort value = true) : isNumber value = true :=
  (Bool.and_eq_true_iff.mp h).1

/-- The review of a port that can be shown. -/
theorem reviewPort_eq {value : Value} (h : ∀ n, value = .int n → ¬ IsLong n) :
    ∃ shown, reviewPort value = .when (isBadPort value) (.port shown) := by
  unfold reviewPort
  cases hbad : isBadPort value with
  | false => exact ⟨"", rfl⟩
  | true =>
    obtain ⟨shown, hshown⟩ := isSome_plain?_of_isNumber (isNumber_of_isBadPort hbad) h
    exact ⟨shown, by rw [hshown]; rfl⟩

private theorem stop_reviewPort_of_isLong {n : Int} (h : IsLong n) :
    (reviewPort (.int n)).stop = some .longNumber := by
  rw [reviewPort, if_pos h.isBadPort, plain?_int, ofInt?_eq_none_iff.mpr h]
  rfl

/-- The range of a value is reviewed to the end unless it is a port that is too long. -/
theorem stop_check {key : Key} {value : Value} (h : key = .port → ∀ n, value = .int n → ¬ IsLong n) :
    (key.check value).stop = none := by
  cases key with
  | port =>
    obtain ⟨shown, hshown⟩ := reviewPort_eq (h rfl)
    rw [Key.check, hshown, Review.stop_when]
  | directoryName =>
    cases value with
    | text name => exact Review.stop_when _ _
    | _ => rfl
  | timeout | chunkSize | busyWait => exact Review.stop_when _ _
  | _ => rfl

end Range

section Whole

variable {data : Entries}

theorem review_map (data : Entries) :
    review (.map data) = .all (data.map (reviewAt none)) ++
      .all (Section.all.map (reviewSection data)) ++ reviewRanges data := rfl

theorem Section.mem_all (s : Section) : s ∈ Section.all := by cases s <;> decide

theorem mem_rangeKeys_or (key : Key) (value : Value) :
    key ∈ rangeKeys ∨ key.check value = .clean := by
  cases key <;> first | exact .inr rfl | exact .inl (by decide)

/-- The cases of what stands under the key of a section. -/
theorem reviewSection_cases (data : Entries) (s : Section) :
    (∃ entries, data.field? s.name = some (.map entries) ∧
      reviewSection data s = .all (entries.map (reviewAt (some s)))) ∨
    (∃ value, data.field? s.name = some value ∧ value ≠ .null ∧ (∀ entries, value ≠ .map entries) ∧
      reviewSection data s = .one (.sectionNotMapping s value.kind)) ∨
    ((data.field? s.name = none ∨ data.field? s.name = some .null) ∧
      reviewSection data s = .clean) := by
  unfold reviewSection
  split
  · rename_i h
    exact .inr (.inr ⟨.inl h, rfl⟩)
  · rename_i h
    exact .inr (.inr ⟨.inr h, rfl⟩)
  · rename_i entries h
    exact .inl ⟨entries, h, rfl⟩
  · rename_i value hnull hmap h
    exact .inr (.inl ⟨value, h, hnull, hmap, rfl⟩)

/-- Every key of some data can be compared with the known ones. -/
def IsSearched (data : Entries) : Prop :=
  ∀ place entry, HasEntry data place entry → IsSearchable entry.1

theorem stop_tops (h : IsSearched data) : ∀ r ∈ data.map (reviewAt none), r.stop = none := by
  intro r hr
  obtain ⟨entry, hentry, rfl⟩ := List.mem_map.mp hr
  exact stop_reviewAt (h none entry (.top hentry))

theorem stop_inside (h : IsSearched data) {s : Section} {entries : Entries}
    (hsection : data.field? s.name = some (.map entries)) :
    ∀ r ∈ entries.map (reviewAt (some s)), r.stop = none := by
  intro r hr
  obtain ⟨entry, hentry, rfl⟩ := List.mem_map.mp hr
  exact stop_reviewAt (h (some s) entry (.inside hsection hentry))

private theorem stop_reviewSection (h : IsSearched data) (s : Section) :
    (reviewSection data s).stop = none := by
  obtain ⟨entries, hsection, heq⟩ | ⟨value, _, _, _, heq⟩ | ⟨_, heq⟩ := reviewSection_cases data s
  · rw [heq, Review.stop_all, List.findSome?_eq_none_iff]
    exact stop_inside h hsection
  · rw [heq]
    rfl
  · rw [heq]
    rfl

theorem stop_sections (h : IsSearched data) :
    ∀ r ∈ Section.all.map (reviewSection data), r.stop = none := by
  intro r hr
  obtain ⟨s, _, rfl⟩ := List.mem_map.mp hr
  exact stop_reviewSection h s

private theorem stop_reviewKey (h : ¬ HasLongPort data) (key : Key) : (reviewKey data key).stop = none := by
  rw [reviewKey]
  cases hvalue : key.value? data with
  | none => rfl
  | some value =>
    apply stop_check
    rintro rfl n rfl hlong
    exact h ⟨n, hvalue, hlong⟩

theorem stop_keys (h : ¬ HasLongPort data) :
    ∀ r ∈ rangeKeys.map (reviewKey data), r.stop = none := by
  intro r hr
  obtain ⟨key, _, rfl⟩ := List.mem_map.mp hr
  exact stop_reviewKey h key

private theorem stop_reviewAt_or (place : Option Section) (entry : Value × Value) :
    (reviewAt place entry).stop = none ∨ (reviewAt place entry).stop = some .wrongKind := by
  by_cases h : IsSearchable entry.1
  · exact .inl (stop_reviewAt h)
  · exact .inr (stop_reviewAt_of_not h)

theorem stop_map_reviewAt_or (place : Option Section) (entries : Entries) :
    ∀ r ∈ entries.map (reviewAt place), r.stop = none ∨ r.stop = some .wrongKind := by
  intro r hr
  obtain ⟨entry, _, rfl⟩ := List.mem_map.mp hr
  exact stop_reviewAt_or place entry

private theorem stop_reviewSection_or (data : Entries) :
    ∀ r ∈ Section.all.map (reviewSection data), r.stop = none ∨ r.stop = some .wrongKind := by
  intro r hr
  obtain ⟨s, _, rfl⟩ := List.mem_map.mp hr
  obtain ⟨entries, _, heq⟩ | ⟨value, _, _, _, heq⟩ | ⟨_, heq⟩ := reviewSection_cases data s
  · rw [heq]
    exact Review.stop_all_or (stop_map_reviewAt_or (some s) entries)
  · rw [heq]
    exact .inl rfl
  · rw [heq]
    exact .inl rfl

/-- A key that cannot be compared stops the review before the ranges. -/
theorem stop_review_of_not_isSearched (h : ¬ IsSearched data) :
    (review (.map data)).stop = some .wrongKind := by
  unfold IsSearched at h
  push Not at h
  obtain ⟨place, entry, hentry, hkey⟩ := h
  have hstop : (reviewAt place entry).stop = some .wrongKind := stop_reviewAt_of_not hkey
  rw [review_map, Review.stop_append, Review.stop_append]
  cases hentry with
  | top hmem =>
    rw [Review.stop_all_of_mem (stop_map_reviewAt_or none data) (List.mem_map_of_mem hmem) hstop]
    rfl
  | @inside s entries _ hsection hmem =>
    have hinside : (reviewSection data s).stop = some .wrongKind := by
      rw [reviewSection, hsection]
      exact Review.stop_all_of_mem (stop_map_reviewAt_or (some s) entries)
        (List.mem_map_of_mem hmem) hstop
    rw [Review.stop_all_of_mem (stop_reviewSection_or data)
      (List.mem_map_of_mem (Section.mem_all s)) hinside]
    rcases Review.stop_all_or (stop_map_reviewAt_or none data) with htops | htops
    · rw [htops]
      rfl
    · rw [htops]
      rfl

theorem stop_keyReviews (h : IsSearched data) :
    (Review.all (data.map (reviewAt none)) ++ .all (Section.all.map (reviewSection data))).stop =
      none := by
  rw [Review.stop_append, Review.stop_all, Review.stop_all,
    List.findSome?_eq_none_iff.mpr (stop_tops h), List.findSome?_eq_none_iff.mpr (stop_sections h)]
  rfl

theorem stop_review_of_hasLongPort (h : IsSearched data) (hport : HasLongPort data) :
    (review (.map data)).stop = some .longNumber := by
  obtain ⟨n, hvalue, hlong⟩ := hport
  have hstop : (reviewKey data .port).stop = some .longNumber := by
    rw [reviewKey, hvalue, Option.map_some, Option.getD_some, Key.check]
    exact stop_reviewPort_of_isLong hlong
  have hkeys : ∀ r ∈ rangeKeys.map (reviewKey data), r.stop = none ∨ r.stop = some .longNumber := by
    intro r hr
    obtain ⟨key, _, rfl⟩ := List.mem_map.mp hr
    by_cases hkey : key = .port
    · rw [hkey]
      exact .inr hstop
    · left
      rw [reviewKey]
      cases key.value? data with
      | none => rfl
      | some value => exact stop_check fun hport => absurd hport hkey
  rw [review_map, Review.stop_append, stop_keyReviews h, reviewRanges_eq,
    Review.stop_all_of_mem hkeys (List.mem_map_of_mem (by decide)) hstop]
  rfl

theorem stop_review (h : IsSearched data) (hport : ¬ HasLongPort data) :
    (review (.map data)).stop = none := by
  rw [review_map, Review.stop_append, stop_keyReviews h, reviewRanges_eq, Review.stop_all,
    List.findSome?_eq_none_iff.mpr (stop_keys hport)]
  rfl

/-- The problems of the entries at the top, of the sections, and of the ranges. -/
theorem problems_review (h : IsSearched data) (hport : ¬ HasLongPort data) :
    (review (.map data)).problems = data.flatMap (fun entry => (reviewAt none entry).problems) ++
      Section.all.flatMap (fun s => (reviewSection data s).problems) ++
      rangeKeys.flatMap (fun key => (reviewKey data key).problems) := by
  have htops : (Review.all (data.map (reviewAt none))).stop = none := by
    rw [Review.stop_all, List.findSome?_eq_none_iff]
    exact stop_tops h
  rw [review_map, Review.problems_append (stop_keyReviews h), Review.problems_append htops,
    reviewRanges_eq, Review.problems_all (stop_tops h), Review.problems_all (stop_sections h),
    Review.problems_all (stop_keys hport), List.flatMap_map, List.flatMap_map, List.flatMap_map]

/-- What there is to complain about in some data. -/
inductive Complaint (data : Entries) : Problem → Prop where
  /-- A key that is not known. -/
  | unknown {place : Option Section} {entry : Value × Value} (h : HasEntry data place entry)
      (hkey : ¬ IsKnown place entry.1) :
      Complaint data (unknownAt place entry.1 (suggestionAt place entry.1))
  /-- A section that is neither a mapping nor null. -/
  | notMapping {s : Section} {value : Value} (h : data.field? s.name = some value)
      (hnull : value ≠ .null) (hmap : ∀ entries, value ≠ .map entries) :
      Complaint data (.sectionNotMapping s value.kind)
  /-- A value of a kind that its key does not take. -/
  | wrongKind {key : Key} {value : Value} (h : HasEntry data (some key.place) (.text key.name, value))
      (hkind : key.kinds.any (·.accepts value) = false) :
      Complaint data (.wrongKind key.place key.name key.kinds value.kind)
  /-- A value that is out of range. -/
  | outOfRange {key : Key} {value : Value} {p : Problem} (h : key.value? data = some value)
      (hp : p ∈ (key.check value).problems) : Complaint data p

theorem mem_problems_reviewSection (h : IsSearched data) {s : Section} {p : Problem} :
    p ∈ (reviewSection data s).problems ↔
      (∃ value, data.field? s.name = some value ∧ value ≠ .null ∧ (∀ entries, value ≠ .map entries) ∧
        p = .sectionNotMapping s value.kind) ∨
      ∃ entry, HasEntry data (some s) entry ∧ p ∈ (reviewAt (some s) entry).problems := by
  simp only [hasEntry_some_iff]
  obtain ⟨entries, hsection, heq⟩ | ⟨value, hsection, hnull, hmap, heq⟩ | ⟨hsection, heq⟩ :=
    reviewSection_cases data s
  · rw [heq, Review.problems_all (stop_inside h hsection), List.flatMap_map, List.mem_flatMap, hsection]
    constructor
    · rintro ⟨entry, hentry, hp⟩
      exact .inr ⟨entry, ⟨entries, rfl, hentry⟩, hp⟩
    · rintro (⟨_, ⟨⟩, _, hmap, _⟩ | ⟨entry, ⟨_, ⟨⟩, hentry⟩, hp⟩)
      · exact absurd rfl (hmap entries)
      · exact ⟨entry, hentry, hp⟩
  · rw [heq, hsection]
    constructor
    · intro hp
      exact .inl ⟨value, rfl, hnull, hmap, List.mem_singleton.mp hp⟩
    · rintro (⟨_, ⟨⟩, _, _, rfl⟩ | ⟨_, ⟨entries, hentries, _⟩, _⟩)
      · exact .head _
      · exact absurd (Option.some.inj hentries) (hmap entries)
  · rw [heq]
    constructor
    · nofun
    · rintro (⟨value, hvalue, hnull, _⟩ | ⟨_, ⟨entries, hentries, _⟩, _⟩)
      · rcases hsection with hnone | hnull'
        · rw [hnone] at hvalue
          cases hvalue
        · rw [hnull'] at hvalue
          exact absurd (Option.some.inj hvalue).symm hnull
      · rcases hsection with hnone | hnull
        · rw [hnone] at hentries
          cases hentries
        · rw [hnull] at hentries
          cases hentries

theorem mem_problems_reviewKey {key : Key} {p : Problem} :
    p ∈ (reviewKey data key).problems ↔
      ∃ value, key.value? data = some value ∧ p ∈ (key.check value).problems := by
  rw [reviewKey]
  cases key.value? data with
  | none => exact ⟨nofun, nofun⟩
  | some value => simp

/-- A review that is not stopped lists just what there is to complain about. -/
theorem mem_problems_review (h : IsSearched data) (hport : ¬ HasLongPort data) {p : Problem} :
    p ∈ (review (.map data)).problems ↔ Complaint data p := by
  simp only [problems_review h hport, List.mem_append, List.mem_flatMap, or_assoc]
  constructor
  · rintro (⟨entry, hentry, hp⟩ | ⟨s, _, hp⟩ | ⟨key, _, hp⟩)
    · have hentry : HasEntry data none entry := .top hentry
      obtain ⟨hkey, rfl⟩ | ⟨key, hplace, _⟩ := (mem_problems_reviewAt (h _ _ hentry)).mp hp
      · exact .unknown hentry hkey
      · cases hplace
    · obtain ⟨value, hvalue, hnull, hmap, rfl⟩ | ⟨entry, hentry, hp⟩ :=
        (mem_problems_reviewSection h).mp hp
      · exact .notMapping hvalue hnull hmap
      · obtain ⟨hkey, rfl⟩ | ⟨key, ⟨⟩, hname, hkinds, rfl⟩ :=
          (mem_problems_reviewAt (h _ _ hentry)).mp hp
        · exact .unknown hentry hkey
        · obtain ⟨name, value⟩ := entry
          obtain rfl : name = .text key.name := hname
          exact .wrongKind hentry hkinds
    · obtain ⟨value, hvalue, hp⟩ := mem_problems_reviewKey.mp hp
      exact .outOfRange hvalue hp
  · intro hp
    cases hp with
    | @unknown place entry hentry hkey =>
      have hfound := (mem_problems_reviewAt (h place entry hentry)).mpr (.inl ⟨hkey, rfl⟩)
      cases place with
      | none => exact .inl ⟨entry, hasEntry_none_iff.mp hentry, hfound⟩
      | some s =>
        exact .inr (.inl ⟨s, s.mem_all, (mem_problems_reviewSection h).mpr (.inr ⟨entry, hentry, hfound⟩)⟩)
    | @notMapping s value hvalue hnull hmap =>
      exact .inr (.inl ⟨s, s.mem_all,
        (mem_problems_reviewSection h).mpr (.inl ⟨value, hvalue, hnull, hmap, rfl⟩)⟩)
    | @wrongKind key value hentry hkinds =>
      have hfound := (mem_problems_reviewAt (h _ _ hentry)).mpr (.inr ⟨key, rfl, rfl, hkinds, rfl⟩)
      exact .inr (.inl ⟨key.place, Section.mem_all _,
        (mem_problems_reviewSection h).mpr (.inr ⟨_, hentry, hfound⟩)⟩)
    | @outOfRange key value p hvalue hp =>
      rcases mem_rangeKeys_or key value with hkey | hclean
      · exact .inr (.inr ⟨key, hkey, mem_problems_reviewKey.mpr ⟨value, hvalue, hp⟩⟩)
      · rw [hclean] at hp
        cases hp

end Whole

end ScanLauncher.Config
