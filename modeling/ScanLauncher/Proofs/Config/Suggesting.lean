import ScanLauncher.Proofs.Config.Similarity
import ScanLauncher.Proofs.Number.Rounding
import ScanLauncher.Proofs.Text.Order

namespace ScanLauncher.Config

namespace Similarity

/-- What the similarity amounts to that a number of characters makes. -/
def amount (count length : Nat) : ℚ :=
  if length = 0 then Binary64.rounded 1 1 else Binary64.rounded (2 * count) length

theorem toRat?_ratio {count length : Nat} (hle : 2 * count ≤ length) :
    (ratio count length).toRat? = some (amount count length) := by
  by_cases hempty : length = 0
  · rw [amount, if_pos hempty, ratio, hempty]
    exact Binary64.toRat?_ofRatio_of_le (Nat.le_refl 1)
  · have hlength : (length == 0) = false := by simpa using hempty
    rw [amount, if_neg hempty, ratio, hlength]
    exact Binary64.toRat?_ofRatio_of_le hle

private theorem amount_mono {count count' length : Nat} (h : count ≤ count') (hle : 2 * count' ≤ length) :
    amount count length ≤ amount count' length := by
  unfold amount
  split
  · exact le_rfl
  · exact Binary64.rounded_mono (Nat.mul_le_mul_left 2 h) hle

theorem isClose_iff {similarity : Binary64} {q : ℚ} (h : similarity.toRat? = some q) :
    isClose similarity = true ↔ Binary64.rounded 3 5 ≤ q := by
  have hthreshold : threshold.toRat? = some (Binary64.rounded 3 5) :=
    Binary64.toRat?_ofRatio_of_le (by decide)
  rw [isClose, Binary64.compare?_of_toRat? h hthreshold, ← not_lt, ← compare_lt_iff_lt]
  cases compare q (Binary64.rounded 3 5) <;> simp

theorem isClose_ratio_mono {count count' length : Nat} (h : count ≤ count')
    (hle : 2 * count' ≤ length) (hclose : isClose (ratio count length) = true) :
    isClose (ratio count' length) = true := by
  rw [isClose_iff (toRat?_ratio (by omega))] at hclose
  rw [isClose_iff (toRat?_ratio hle)]
  exact hclose.trans (amount_mono h hle)

theorem twice_common_le (known given : Text) :
    2 * common known.glyphs given.glyphs ≤ known.length + given.length := by
  have hmin : common known.glyphs given.glyphs ≤ min known.length given.length :=
    common_le_min known.glyphs given.glyphs
  omega

/-- The estimates turn no key away that is close enough. -/
theorem passes_iff (given known : Text) : passes given known = isClose (of known given) := by
  by_cases hclose : isClose (of known given) = true
  · have hglyphs : isClose (ofGlyphs known given) = true :=
      isClose_ratio_mono (shared_le_common _ _) (twice_common_le known given) hclose
    have hlengths : isClose (ofLengths known given) = true :=
      isClose_ratio_mono (common_le_min _ _) (by simp only [Text.length]; omega) hglyphs
    simp [passes, hclose, hglyphs, hlengths]
  · simp [passes, hclose]

theorem exists_toRat?_of (known given : Text) : ∃ q, (of known given).toRat? = some q := by
  have hshared := shared_le_common known.glyphs given.glyphs
  have hcommon := twice_common_le known given
  exact ⟨_, toRat?_ratio (by omega)⟩

end Similarity

/-- A candidate for a suggestion is no better than another: less similar, or as similar and no later
in text order. -/
def NoBetter (a b : Binary64 × Text) : Prop :=
  a.1.compare? b.1 = some .lt ∨ a.1.compare? b.1 = some .eq ∧ a.2.le b.2 = true

section NoBetter

variable {a b c : Binary64 × Text}

/-- The similarity of a candidate is a number. -/
def IsRated (a : Binary64 × Text) : Prop := ∃ q, a.1.toRat? = some q

theorem noBetter_iff {q r : ℚ} (ha : a.1.toRat? = some q) (hb : b.1.toRat? = some r) :
    NoBetter a b ↔ q < r ∨ q = r ∧ a.2.le b.2 = true := by
  rw [NoBetter, Binary64.compare?_of_toRat? ha hb, Option.some.injEq, Option.some.injEq,
    compare_lt_iff_lt, compare_eq_iff_eq]

theorem noBetter_refl (ha : IsRated a) : NoBetter a a := by
  obtain ⟨q, hq⟩ := ha
  have hself : a.2.le a.2 = true := by simpa using Text.le_total a.2 a.2
  exact (noBetter_iff hq hq).mpr (.inr ⟨rfl, hself⟩)

theorem NoBetter.trans (hab : NoBetter a b) (hbc : NoBetter b c) (ha : IsRated a) (hb : IsRated b)
    (hc : IsRated c) : NoBetter a c := by
  obtain ⟨q, hq⟩ := ha
  obtain ⟨r, hr⟩ := hb
  obtain ⟨s, hs⟩ := hc
  rw [noBetter_iff hq hr] at hab
  rw [noBetter_iff hr hs] at hbc
  rw [noBetter_iff hq hs]
  obtain hab | ⟨rfl, hab⟩ := hab
  · obtain hbc | ⟨rfl, _⟩ := hbc
    · exact .inl (hab.trans hbc)
    · exact .inl hab
  · obtain hbc | ⟨rfl, hbc⟩ := hbc
    · exact .inl hbc
    · exact .inr ⟨rfl, Text.le_trans hab hbc⟩

private theorem NoBetter.antisymm (hab : NoBetter a b) (hba : NoBetter b a) (ha : IsRated a)
    (hb : IsRated b) : a.2 = b.2 := by
  obtain ⟨q, hq⟩ := ha
  obtain ⟨r, hr⟩ := hb
  rw [noBetter_iff hq hr] at hab
  rw [noBetter_iff hr hq] at hba
  obtain hab | ⟨heq, hab⟩ := hab
  · obtain hba | ⟨heq, _⟩ := hba
    · exact absurd hba hab.not_gt
    · exact absurd heq hab.ne'
  · obtain hba | ⟨_, hba⟩ := hba
    · exact absurd heq hba.ne'
    · exact Text.le_antisymm hab hba

private theorem betterSuggestion_cases (ha : IsRated a) (hb : IsRated b) :
    betterSuggestion a b = a ∧ NoBetter b a ∨ betterSuggestion a b = b ∧ NoBetter a b := by
  obtain ⟨q, hq⟩ := ha
  obtain ⟨r, hr⟩ := hb
  rw [noBetter_iff hq hr, noBetter_iff hr hq, betterSuggestion, Binary64.compare?_of_toRat? hq hr]
  rcases lt_trichotomy q r with hless | rfl | hmore
  · rw [compare_lt_iff_lt.mpr hless]
    exact .inr ⟨rfl, .inl hless⟩
  · rw [compare_eq_iff_eq.mpr rfl]
    by_cases hlater : a.2.lt b.2 = true
    · have hle : a.2.le b.2 = true := by
        have htotal := Text.le_total a.2 b.2
        simpa [Text.le, hlater] using htotal
      exact .inr ⟨if_pos hlater, .inr ⟨rfl, hle⟩⟩
    · have hle : b.2.le a.2 = true := by simpa [Text.le] using hlater
      exact .inl ⟨if_neg hlater, .inr ⟨rfl, hle⟩⟩
  · rw [compare_gt_iff_gt.mpr hmore]
    exact .inl ⟨rfl, .inl hmore⟩

private theorem foldl_betterSuggestion {first : Binary64 × Text} {rest : List (Binary64 × Text)}
    (hrated : ∀ a ∈ first :: rest, IsRated a) :
    rest.foldl betterSuggestion first ∈ first :: rest ∧
      ∀ a ∈ first :: rest, NoBetter a (rest.foldl betterSuggestion first) := by
  induction rest generalizing first with
  | nil =>
    refine ⟨.head _, fun a ha => ?_⟩
    obtain rfl := List.mem_singleton.mp ha
    exact noBetter_refl (hrated _ (.head _))
  | cons second rest ih =>
    have hfirst := hrated first (.head _)
    have hsecond := hrated second (.tail _ (.head _))
    obtain ⟨better, hbetter, hmem, hle, hle'⟩ : ∃ better, betterSuggestion first second = better ∧
        better ∈ [first, second] ∧ NoBetter first better ∧ NoBetter second better := by
      rcases betterSuggestion_cases hfirst hsecond with ⟨hkept, hle⟩ | ⟨hchanged, hle⟩
      · exact ⟨first, hkept, .head _, noBetter_refl hfirst, hle⟩
      · exact ⟨second, hchanged, .tail _ (.head _), hle, noBetter_refl hsecond⟩
    have hfew : ∀ a ∈ better :: rest, IsRated a := by
      intro a ha
      rcases List.mem_cons.mp ha with rfl | ha
      · exact hrated a (List.mem_append_left rest hmem)
      · exact hrated a (.tail _ (.tail _ ha))
    obtain ⟨hbest, hmost⟩ := ih hfew
    rw [List.foldl_cons, hbetter]
    have hrest := hfew _ hbest
    have hover := hmost better (.head _)
    refine ⟨?_, fun a ha => ?_⟩
    · rcases List.mem_cons.mp hbest with heq | hbest
      · rw [heq]
        exact List.mem_append_left rest hmem
      · exact .tail _ (.tail _ hbest)
    · rcases List.mem_cons.mp ha with rfl | ha
      · exact hle.trans hover hfirst (hfew better (.head _)) hrest
      · rcases List.mem_cons.mp ha with rfl | ha
        · exact hle'.trans hover hsecond (hfew better (.head _)) hrest
        · exact hmost a (.tail _ ha)

end NoBetter

/-- A known key with its similarity to a given one. -/
def candidate (given key : Text) : Binary64 × Text := (Similarity.of key given, key)

/-- A known key is similar enough to a given one to be suggested. -/
def IsCloseTo (given key : Text) : Prop := Similarity.isClose (Similarity.of key given) = true

/-- A known key is the best for a given one: it is close enough, no known key is more similar, and
of the equally similar ones it is the last in text order. -/
structure IsBest (given : Text) (known : List Text) (key : Text) : Prop where
  mem : key ∈ known
  close : IsCloseTo given key
  best : ∀ other ∈ known, NoBetter (candidate given other) (candidate given key)

variable {given key key' : Text} {known : List Text}

theorem isRated_candidate (given key : Text) : IsRated (candidate given key) :=
  Similarity.exists_toRat?_of key given

theorem IsBest.eq (h : IsBest given known key) (h' : IsBest given known key') : key = key' :=
  (h'.best key h.mem).antisymm (h.best key' h'.mem) (isRated_candidate given key)
    (isRated_candidate given key')

private theorem IsCloseTo.noBetter (hclose : IsCloseTo given key) (hother : ¬ IsCloseTo given key') :
    NoBetter (candidate given key') (candidate given key) := by
  obtain ⟨q, hq⟩ := Similarity.exists_toRat?_of key given
  obtain ⟨r, hr⟩ := Similarity.exists_toRat?_of key' given
  rw [IsCloseTo, Similarity.isClose_iff hq] at hclose
  rw [IsCloseTo, Similarity.isClose_iff hr, not_le] at hother
  exact (noBetter_iff hr hq).mpr (.inl (hother.trans_le hclose))

/-- The known keys among which a suggestion is sought. -/
def candidates (given : Text) (known : List Text) : List (Binary64 × Text) :=
  (known.filter (Similarity.passes given)).map (candidate given)

private theorem mem_candidates_iff {a : Binary64 × Text} :
    a ∈ candidates given known ↔ ∃ key ∈ known, IsCloseTo given key ∧ candidate given key = a := by
  simp [candidates, Similarity.passes_iff, IsCloseTo, and_assoc]

theorem suggest_eq (given : Text) (known : List Text) :
    suggest given known = match candidates given known with
      | [] => none
      | first :: rest => some (rest.foldl betterSuggestion first).2 := rfl

theorem suggest_eq_none_iff :
    suggest given known = none ↔ ∀ key ∈ known, ¬ IsCloseTo given key := by
  have hempty : suggest given known = none ↔ candidates given known = [] := by
    rw [suggest_eq]
    cases candidates given known <;> simp
  simp [hempty, candidates, Similarity.passes_iff, IsCloseTo]

theorem isBest_of_suggest (h : suggest given known = some key) : IsBest given known key := by
  rw [suggest_eq] at h
  rcases hcandidates : candidates given known with _ | ⟨first, rest⟩ <;> rw [hcandidates] at h
  · cases h
  have hmem (a : Binary64 × Text) : a ∈ first :: rest ↔
      ∃ key ∈ known, IsCloseTo given key ∧ candidate given key = a := by
    rw [← hcandidates, mem_candidates_iff]
  have hrated : ∀ a ∈ first :: rest, IsRated a := by
    intro a ha
    obtain ⟨other, _, _, rfl⟩ := (hmem a).mp ha
    exact isRated_candidate given other
  obtain ⟨hbest, hmost⟩ := foldl_betterSuggestion hrated
  obtain ⟨found, hknown, hclose, hfound⟩ := (hmem _).mp hbest
  rw [← hfound] at hmost
  obtain rfl : found = key := by
    have hkey : (rest.foldl betterSuggestion first).2 = key := Option.some.inj h
    rwa [← hfound] at hkey
  refine ⟨hknown, hclose, fun other hother => ?_⟩
  by_cases hotherClose : IsCloseTo given other
  · exact hmost _ ((hmem _).mpr ⟨other, hother, hotherClose, rfl⟩)
  · exact hclose.noBetter hotherClose

theorem suggest_eq_some_iff : suggest given known = some key ↔ IsBest given known key := by
  refine ⟨isBest_of_suggest, fun h => ?_⟩
  cases hfound : suggest given known with
  | none => exact absurd h.close (suggest_eq_none_iff.mp hfound key h.mem)
  | some found => rw [(isBest_of_suggest hfound).eq h]

theorem IsBest.of_subset {known' : List Text} (h : IsBest given known key) (hmem : key ∈ known')
    (hsubset : known' ⊆ known) : IsBest given known' key :=
  ⟨hmem, h.close, fun other hother => h.best other (hsubset hother)⟩

/-- A suggestion is the best of the known keys, there is none exactly if no known key is close
enough, and it depends on nothing but which keys are known: not on their order nor on repetitions. -/
theorem suggest_canonical (given : Text) (known : List Text) :
    (∀ key, suggest given known = some key ↔ IsBest given known key) ∧
      (suggest given known = none ↔ ∀ key ∈ known, ¬ IsCloseTo given key) ∧
      ∀ known', (∀ key, key ∈ known' ↔ key ∈ known) →
        suggest given known' = suggest given known := by
  refine ⟨fun key => suggest_eq_some_iff, suggest_eq_none_iff, fun known' hsame => ?_⟩
  apply Option.ext
  intro key
  rw [suggest_eq_some_iff, suggest_eq_some_iff]
  constructor
  · exact fun h => h.of_subset ((hsame key).mp h.mem) fun other => (hsame other).mpr
  · exact fun h => h.of_subset ((hsame key).mpr h.mem) fun other => (hsame other).mp

/-- Two keys that are equally similar to `abcd`. -/
def tiedKeys : List Text := ["abce", "abcf"]

/-- `tiedKeys` in another order, one of them twice. -/
def shuffledKeys : List Text := ["abcf", "abce", "abcf"]

theorem suggest_canonical_tiedKeys :
    (∀ key, key ∈ shuffledKeys ↔ key ∈ tiedKeys) ∧
      suggest "abcd" shuffledKeys = suggest "abcd" tiedKeys ∧ IsBest "abcd" tiedKeys "abcf" := by
  obtain ⟨hsome, _, hcongr⟩ := suggest_canonical "abcd" tiedKeys
  have hsame (key : Text) : key ∈ shuffledKeys ↔ key ∈ tiedKeys := by
    simp only [shuffledKeys, tiedKeys, List.mem_cons, List.not_mem_nil, or_false]
    constructor
    · rintro (h | h | h)
      · exact .inr h
      · exact .inl h
      · exact .inr h
    · rintro (h | h)
      · exact .inr (.inl h)
      · exact .inl h
  have hfound : suggest "abcd" tiedKeys = some "abcf" := by decide +kernel
  exact ⟨hsame, hcongr shuffledKeys hsame, (hsome "abcf").mp hfound⟩

end ScanLauncher.Config
