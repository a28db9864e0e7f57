import Mathlib.Data.List.Nodup
import ScanLauncher.Proofs.Config.Conforming
import ScanLauncher.Proofs.Config.Severity
import ScanLauncher.Proofs.Value.Mapping

namespace ScanLauncher

private theorem Entries.NamesOnce.pairwise {entries : Entries} (h : entries.NamesOnce) :
    entries.Pairwise fun entry later => ∀ name : Text, entry.1 = .text name → later.1 ≠ .text name := by
  induction entries with
  | nil => exact .nil
  | cons first rest ih =>
    have hcount (name : Text) := h name
    simp only [List.map_cons, List.countP_cons] at hcount
    refine List.pairwise_cons.mpr ⟨fun later hlater name hname hsame => ?_, ih fun name => ?_⟩
    · have hfirst : first.1.sameKey (.text name) = true := Value.sameKey_text.mpr hname
      have hpositive : 0 < (rest.map Prod.fst).countP (·.sameKey (.text name)) :=
        List.countP_pos_iff.mpr ⟨later.1, List.mem_map_of_mem hlater, Value.sameKey_text.mpr hsame⟩
      have hone := hcount name
      rw [hfirst, if_pos rfl] at hone
      omega
    · exact (Nat.le_add_right _ _).trans (hcount name)

namespace Config

/-- What a check finds fault with apart from unknown keys: a section as a whole, or a known key in one. -/
inductive Spot where
  | whole (s : Section)
  | setting (key : Key)
deriving DecidableEq

/-- A value of a wrong kind that is taken for a number in its place, and for one out of range. -/
def Key.IsFaultyTwice : Key → Value → Prop
  | chunkSize, .float x _ => x.compareInt? 0 = some .lt ∨ x.compareInt? 0 = some .eq
  | port, .float x _ => ¬ (x.compareInt? 0 = some .gt ∧ x.compareInt? 65536 = some .lt)
  | _, _ => False

namespace Spot

/-- How a section or a key is written in a report. -/
def text : Spot → Text
  | whole s => s.name
  | setting key => Problem.qualified key.place key.name

/-- What the problems with a section or a key are about. -/
def key? (spot : Spot) : Option Value := some (.text spot.text)

/-- The section that a spot is, or lies in. -/
def place : Spot → Section
  | whole s => s
  | setting key => key.place

/-- A section that is neither a mapping nor null, or a key with a value that it does not take or that is
out of its range. -/
def IsOffending (data : Entries) : Spot → Prop
  | whole s => ∃ value, data.field? s.name = some value ∧ value ≠ .null ∧ ∀ entries, value ≠ .map entries
  | setting key => ∃ value, key.value? data = some value ∧ ¬ (key.Takes value ∧ key.InRange value)

/-- A key with a value that is reported for its kind and for its range. -/
def IsFaultyTwice (data : Entries) : Spot → Prop
  | whole _ => False
  | setting key => ∃ value, key.value? data = some value ∧ key.IsFaultyTwice value

/-- The check of the kinds finds fault with a section or a key. -/
def FailsKind (data : Entries) : Spot → Prop
  | whole s => ∃ value, data.field? s.name = some value ∧ value ≠ .null ∧ ∀ entries, value ≠ .map entries
  | setting key => ∃ value, key.value? data = some value ∧ ¬ key.Takes value

/-- The check of the ranges finds fault with a key. -/
def FailsRange (data : Entries) : Spot → Prop
  | whole _ => False
  | setting key => ∃ value, key.value? data = some value ∧ (key.check value).problems ≠ []

/-- All sections and all keys. -/
def all : List Spot :=
  Section.all.map whole ++ [.executable, .interpreter, .workingDir, .timeout, .chunkSize, .outputRoot,
    .directoryName, .host, .port, .busyWait].map setting

theorem mem_all (spot : Spot) : spot ∈ all := by
  cases spot with
  | whole s => cases s <;> decide
  | setting key => cases key <;> decide

theorem exists_list (holds : Spot → Prop) :
    ∃ spots : List Spot, spots.Nodup ∧ ∀ spot, spot ∈ spots ↔ holds spot := by
  classical
  have hall : all.Nodup := by decide
  exact ⟨all.filter (holds ·), hall.filter _, fun spot => by simp [spot.mem_all]⟩

/-- No two are written in the same way. -/
theorem key?_injective : Function.Injective key? := by
  intro a b h
  have hnodup : (all.map text).Nodup := by decide
  have htext : a.text = b.text := Value.text.inj (Option.some.inj h)
  exact List.inj_on_of_nodup_map hnodup a.mem_all b.mem_all htext

end Spot

/-- The problems that are no unknown keys. -/
def violations (problems : List Problem) : List Problem := problems.filter (!·.isUnknownKey)

theorem mem_violations {problems : List Problem} {p : Problem} :
    p ∈ violations problems ↔ p ∈ problems ∧ p.isUnknownKey = false := by
  rw [violations, List.mem_filter, Bool.not_eq_true']

theorem violations_append (problems problems' : List Problem) :
    violations (problems ++ problems') = violations problems ++ violations problems' :=
  List.filter_append problems problems'

section Check

variable {key : Key} {value : Value}

theorem Key.key?_of_mem_check {p : Problem} (hp : p ∈ (key.check value).problems) :
    p.key? = (Spot.setting key).key? := by
  cases key with
  | timeout | busyWait | chunkSize =>
    obtain ⟨_, rfl⟩ := Review.mem_problems_when.mp hp
    rfl
  | port =>
    rw [Key.check, reviewPort] at hp
    split at hp
    · split at hp
      · obtain rfl := List.mem_singleton.mp hp
        rfl
      · cases hp
    · cases hp
  | directoryName =>
    cases value with
    | text name =>
      obtain ⟨_, rfl⟩ := Review.mem_problems_when.mp hp
      rfl
    | _ => cases hp
  | _ => cases hp

theorem length_problems_when (holds : Bool) (p : Problem) : (Review.when holds p).problems.length ≤ 1 := by
  cases holds
  · exact Nat.zero_le 1
  · exact Nat.le_refl 1

private theorem Key.length_check (key : Key) (value : Value) : (key.check value).problems.length ≤ 1 := by
  cases key with
  | timeout | busyWait | chunkSize => exact length_problems_when _ _
  | port =>
    rw [Key.check, reviewPort]
    split
    · split
      · exact Nat.le_refl 1
      · exact Nat.zero_le 1
    · exact Nat.zero_le 1
  | directoryName =>
    cases value with
    | text name => exact length_problems_when _ _
    | _ => exact Nat.zero_le 1
  | _ => exact Nat.zero_le 1

/-- Both checks find fault with a value in two cases only. -/
theorem Key.isFaultyTwice_iff (hshown : key = .port → ∀ n, value = .int n → ¬ IsLong n) :
    ¬ key.Takes value ∧ (key.check value).problems ≠ [] ↔ key.IsFaultyTwice value := by
  cases key with
  | timeout | busyWait =>
    rw [Key.check, ne_eq, Review.problems_when_eq_nil, isNegative]
    cases value <;> simp [Takes, compareNumber?, IsFaultyTwice]
  | chunkSize =>
    rw [Key.check, ne_eq, Review.problems_when_eq_nil, isNotPositive]
    cases value <;> simp [Takes, compareNumber?, IsFaultyTwice, or_iff_not_imp_left]
  | port =>
    obtain ⟨shown, hreview⟩ := reviewPort_eq (hshown rfl)
    rw [Key.check, hreview, ne_eq, Review.problems_when_eq_nil, isBadPort]
    cases value <;> simp [Takes, isNumber, compareNumber?, IsFaultyTwice]
  | directoryName =>
    cases value <;> simp [Takes, Key.check, reviewDirectoryName, IsFaultyTwice, Review.clean]
  | _ => simp [Key.check, IsFaultyTwice, Review.clean]

end Check

section Data

variable {data : Entries}

private theorem length_reviewAt {place : Option Section} {entry : Value × Value} (h : IsSearchable entry.1) :
    (reviewAt place entry).problems.length ≤ 1 := by
  by_cases hknown : IsKnown place entry.1
  · obtain ⟨name, value⟩ := entry
    cases place with
    | none =>
      rw [reviewAt_top_of_isKnown hknown]
      exact Nat.zero_le 1
    | some s =>
      obtain ⟨key, rfl, rfl⟩ := hknown
      rw [reviewAt_key]
      exact length_problems_when _ _
  · rw [reviewAt_of_not_isKnown hknown, reviewUnknown_of_isSearchable h]
    exact Nat.le_refl 1

/-- Where no text is a key twice, entries with a key of the section are found under it. -/
theorem hasEntry_iff_value? (htidy : (Value.map data).IsTidy) {key : Key} {value : Value} :
    HasEntry data (some key.place) (.text key.name, value) ↔ key.value? data = some value := by
  refine ⟨fun h => ?_, hasEntry_of_value?⟩
  obtain ⟨entries, hsection, hentry⟩ := hasEntry_some_iff.mp h
  obtain ⟨outer, houter, _, hinner⟩ := Entries.exists_mem_of_get? hsection
  have hnames := (htidy data rfl).2 outer houter entries hinner
  have hvalue : sectionOf data key.place.name = entries := by
    rw [sectionOf, hsection]
  rw [Key.value?, hvalue, Entries.field?_eq_under]
  have hunder : (Value.text key.name, value) ∈ Entries.under entries key.name :=
    List.mem_filter.mpr ⟨hentry, Value.sameKey_text.mpr rfl⟩
  rcases hnames.under key.name with hnone | ⟨first, found, hone⟩
  · rw [hnone] at hunder
    cases hunder
  · rw [hone] at hunder ⊢
    obtain ⟨rfl, rfl⟩ := Prod.mk.inj (List.mem_singleton.mp hunder)
    rfl

/-- The problems that the check of the kinds finds, without the unknown keys. -/
def kindViolations (data : Entries) : List Problem :=
  Section.all.flatMap fun s => violations (reviewSection data s).problems

/-- The problems that the check of the ranges finds. -/
def rangeViolations (data : Entries) : List Problem :=
  rangeKeys.flatMap fun key => (reviewKey data key).problems

private theorem violations_review (h : IsSearched data) (hport : ¬ HasLongPort data) :
    violations (review (.map data)).problems = kindViolations data ++ rangeViolations data := by
  have htops : violations (data.flatMap fun entry => (reviewAt none entry).problems) = [] := by
    refine List.filter_eq_nil_iff.mpr fun p hp => ?_
    obtain ⟨entry, hentry, hp⟩ := List.mem_flatMap.mp hp
    obtain ⟨_, rfl⟩ | ⟨_, ⟨⟩, _⟩ := (mem_problems_reviewAt (h none entry (.top hentry))).mp hp
    simp [isUnknownKey_unknownAt]
  have hranges : violations (rangeViolations data) = rangeViolations data := by
    refine List.filter_eq_self.mpr fun p hp => ?_
    obtain ⟨key, _, hp⟩ := List.mem_flatMap.mp hp
    obtain ⟨value, _, hp⟩ := mem_problems_reviewKey.mp hp
    simp [(Key.of_mem_check hp).1]
  have hkinds : violations (Section.all.flatMap fun s => (reviewSection data s).problems) =
      kindViolations data := List.filter_flatMap
  rw [problems_review h hport, violations_append, violations_append, htops, hkinds, List.nil_append]
  exact congrArg _ hranges

/-- What the check of the kinds finds in a section. -/
theorem mem_violations_reviewSection (h : IsSearched data) (htidy : (Value.map data).IsTidy) {s : Section}
    {p : Problem} : p ∈ violations (reviewSection data s).problems ↔
      (∃ value, data.field? s.name = some value ∧ value ≠ .null ∧ (∀ entries, value ≠ .map entries) ∧
        p = .sectionNotMapping s value.kind) ∨
      ∃ (key : Key) (value : Value), key.place = s ∧ key.value? data = some value ∧ ¬ key.Takes value ∧
        p = .wrongKind key.place key.name key.kinds value.kind := by
  rw [mem_violations, mem_problems_reviewSection h]
  constructor
  · rintro ⟨hsection | ⟨entry, hentry, hp⟩, hviolation⟩
    · exact .inl hsection
    · obtain ⟨_, rfl⟩ | ⟨key, ⟨⟩, hname, hkinds, rfl⟩ := (mem_problems_reviewAt (h _ _ hentry)).mp hp
      · rw [isUnknownKey_unknownAt] at hviolation
        cases hviolation
      · obtain ⟨name, value⟩ := entry
        obtain rfl : name = .text key.name := hname
        refine .inr ⟨key, value, rfl, (hasEntry_iff_value? htidy).mp hentry, ?_, rfl⟩
        rw [← Key.takes_iff, hkinds]
        exact Bool.false_ne_true
  · rintro (⟨value, hvalue, hnull, hmap, rfl⟩ | ⟨key, value, rfl, hvalue, hkinds, rfl⟩)
    · exact ⟨.inl ⟨value, hvalue, hnull, hmap, rfl⟩, rfl⟩
    · have hentry := (hasEntry_iff_value? htidy).mpr hvalue
      rw [← Key.takes_iff, Bool.not_eq_true] at hkinds
      exact ⟨.inr ⟨_, hentry, (mem_problems_reviewAt (h _ _ hentry)).mpr
        (.inr ⟨key, rfl, rfl, hkinds, rfl⟩)⟩, rfl⟩

theorem mem_kindViolations (h : IsSearched data) (htidy : (Value.map data).IsTidy) {about : Option Value} :
    about ∈ (kindViolations data).map Problem.key? ↔
      ∃ spot : Spot, spot.FailsKind data ∧ spot.key? = about := by
  simp only [kindViolations, List.mem_map, List.mem_flatMap, mem_violations_reviewSection h htidy]
  constructor
  · rintro ⟨p, ⟨s, _, ⟨value, hvalue, hnull, hmap, rfl⟩ | ⟨key, value, rfl, hvalue, hkinds, rfl⟩⟩, rfl⟩
    · exact ⟨.whole s, ⟨value, hvalue, hnull, hmap⟩, rfl⟩
    · exact ⟨.setting key, ⟨value, hvalue, hkinds⟩, rfl⟩
  · rintro ⟨s | key, hfails, rfl⟩
    · obtain ⟨value, hvalue, hnull, hmap⟩ := hfails
      exact ⟨_, ⟨s, s.mem_all, .inl ⟨value, hvalue, hnull, hmap, rfl⟩⟩, rfl⟩
    · obtain ⟨value, hvalue, hkinds⟩ := hfails
      exact ⟨_, ⟨_, key.place.mem_all, .inr ⟨key, value, rfl, hvalue, hkinds, rfl⟩⟩, rfl⟩

theorem mem_rangeViolations {about : Option Value} :
    about ∈ (rangeViolations data).map Problem.key? ↔
      ∃ spot : Spot, spot.FailsRange data ∧ spot.key? = about := by
  simp only [rangeViolations, List.mem_map, List.mem_flatMap, mem_problems_reviewKey]
  constructor
  · rintro ⟨p, ⟨key, _, value, hvalue, hp⟩, rfl⟩
    exact ⟨.setting key, ⟨value, hvalue, List.ne_nil_of_mem hp⟩, (Key.key?_of_mem_check hp).symm⟩
  · rintro ⟨s | key, hfails, rfl⟩
    · cases hfails
    · obtain ⟨value, hvalue, hne⟩ := hfails
      obtain ⟨p, hp⟩ := List.exists_mem_of_ne_nil _ hne
      have hkey : key ∈ rangeKeys := by
        refine (mem_rangeKeys_or key value).resolve_right fun hclean => hne ?_
        rw [hclean]
        rfl
      exact ⟨p, ⟨key, hkey, value, hvalue, hp⟩, Key.key?_of_mem_check hp⟩

theorem nodup_of_length_le_one {α : Type} {l : List α} (h : l.length ≤ 1) : l.Nodup := by
  match l, h with
  | [], _ => exact List.nodup_nil
  | [a], _ => exact List.nodup_singleton a

/-- The problems of some parts are all about different keys if those of each part are, and those of
different parts. -/
theorem nodup_keys_flatMap {α : Type} {parts : List α} {find : α → List Problem}
    (hpart : ∀ part ∈ parts, ((find part).map Problem.key?).Nodup)
    (hapart : parts.Pairwise fun a b => ∀ p ∈ find a, ∀ q ∈ find b, p.key? ≠ q.key?) :
    ((parts.flatMap find).map Problem.key?).Nodup := by
  rw [List.map_flatMap, List.nodup_flatMap]
  refine ⟨hpart, hapart.imp fun h about hleft hright => ?_⟩
  obtain ⟨p, hp, rfl⟩ := List.mem_map.mp hleft
  obtain ⟨q, hq, hsame⟩ := List.mem_map.mp hright
  exact h p hp q hq hsame.symm

private theorem nodup_rangeViolations (data : Entries) : ((rangeViolations data).map Problem.key?).Nodup := by
  have hrange : rangeKeys.Nodup := by decide
  refine nodup_keys_flatMap (fun key _ => nodup_of_length_le_one ?_)
    (hrange.imp fun hne p hp q hq hsame => ?_)
  · rw [List.length_map, reviewKey]
    cases key.value? data with
    | none => exact Nat.zero_le 1
    | some value => exact key.length_check value
  · obtain ⟨_, _, hp⟩ := mem_problems_reviewKey.mp hp
    obtain ⟨_, _, hq⟩ := mem_problems_reviewKey.mp hq
    rw [Key.key?_of_mem_check hp, Key.key?_of_mem_check hq] at hsame
    exact hne (Spot.setting.inj (Spot.key?_injective hsame))

/-- Problems of the check of the kinds are about the section that they are found in, or a key in it. -/
theorem exists_spot_of_mem (h : IsSearched data) (htidy : (Value.map data).IsTidy) {s : Section}
    {p : Problem} (hp : p ∈ violations (reviewSection data s).problems) :
    ∃ spot : Spot, spot.place = s ∧ spot.key? = p.key? := by
  obtain ⟨value, _, _, _, rfl⟩ | ⟨key, value, hplace, _, _, rfl⟩ :=
    (mem_violations_reviewSection h htidy).mp hp
  · exact ⟨.whole s, rfl, rfl⟩
  · exact ⟨.setting key, hplace, rfl⟩

/-- A problem with the kind of an entry's value is about the key that the entry has. -/
theorem exists_key_of_mem {s : Section} {entry : Value × Value} (h : IsSearchable entry.1) {p : Problem}
    (hp : p ∈ violations (reviewAt (some s) entry).problems) :
    ∃ key : Key, entry.1 = .text key.name ∧ p.key? = (Spot.setting key).key? := by
  obtain ⟨hp, hviolation⟩ := mem_violations.mp hp
  obtain ⟨_, rfl⟩ | ⟨key, ⟨⟩, hname, _, rfl⟩ := (mem_problems_reviewAt h).mp hp
  · rw [isUnknownKey_unknownAt] at hviolation
    cases hviolation
  · exact ⟨key, hname, rfl⟩

private theorem nodup_violations_inside (h : IsSearched data) {s : Section} {entries : Entries}
    (hsection : data.field? s.name = some (.map entries)) (hnames : entries.NamesOnce) :
    ((entries.flatMap fun entry => violations (reviewAt (some s) entry).problems).map
      Problem.key?).Nodup := by
  have hsearch (entry : Value × Value) (hentry : entry ∈ entries) : IsSearchable entry.1 :=
    h (some s) entry (.inside hsection hentry)
  refine nodup_keys_flatMap (fun entry hentry => nodup_of_length_le_one ?_) ?_
  · rw [List.length_map]
    exact (List.length_filter_le _ _).trans (length_reviewAt (hsearch entry hentry))
  · refine hnames.pairwise.imp_of_mem fun {a b} ha hb hne p hp q hq hsame => ?_
    obtain ⟨key, hname, hkey⟩ := exists_key_of_mem (hsearch a ha) hp
    obtain ⟨other, hname', hkey'⟩ := exists_key_of_mem (hsearch b hb) hq
    rw [hkey, hkey'] at hsame
    obtain rfl := Spot.setting.inj (Spot.key?_injective hsame)
    exact hne key.name hname hname'

private theorem nodup_kindViolations (h : IsSearched data) (htidy : (Value.map data).IsTidy) :
    ((kindViolations data).map Problem.key?).Nodup := by
  have hsections : Section.all.Nodup := by decide
  refine nodup_keys_flatMap (fun s _ => ?_) (hsections.imp fun hne p hp q hq hsame => ?_)
  · obtain ⟨entries, hsection, heq⟩ | ⟨value, _, _, _, heq⟩ | ⟨_, heq⟩ := reviewSection_cases data s
    · obtain ⟨outer, houter, _, hinner⟩ := Entries.exists_mem_of_get? hsection
      rw [heq, Review.problems_all (stop_inside h hsection), List.flatMap_map, violations,
        List.filter_flatMap]
      exact nodup_violations_inside h hsection ((htidy data rfl).2 outer houter entries hinner)
    · rw [heq]
      exact nodup_of_length_le_one (Nat.le_refl 1)
    · rw [heq]
      exact nodup_of_length_le_one (Nat.zero_le 1)
  · obtain ⟨spot, rfl, hspot⟩ := exists_spot_of_mem h htidy hp
    obtain ⟨other, rfl, hother⟩ := exists_spot_of_mem h htidy hq
    exact hne (congrArg Spot.place (Spot.key?_injective (hspot.trans (hsame.trans hother.symm))))

end Data

private theorem perm_of_nodup {α : Type} {first second either both : List α} (hfirst : first.Nodup)
    (hsecond : second.Nodup) (heitherOnce : either.Nodup) (hbothOnce : both.Nodup)
    (heither : ∀ a, a ∈ either ↔ a ∈ first ∨ a ∈ second)
    (hboth : ∀ a, a ∈ both ↔ a ∈ first ∧ a ∈ second) : (first ++ second).Perm (either ++ both) := by
  classical
  refine List.perm_iff_count.mpr fun a => ?_
  rw [List.count_append, List.count_append, hfirst.count, hsecond.count, heitherOnce.count,
    hbothOnce.count]
  simp only [heither, hboth]
  by_cases ha : a ∈ first <;> by_cases hb : a ∈ second <;> simp [ha, hb]

section Data

variable {data : Entries}

theorem isOffending_iff (hport : ¬ HasLongPort data) {spot : Spot} :
    spot.IsOffending data ↔ spot.FailsKind data ∨ spot.FailsRange data := by
  cases spot with
  | whole s => exact ⟨.inl, fun h => h.elim id False.elim⟩
  | setting key =>
    constructor
    · rintro ⟨value, hvalue, hnot⟩
      by_cases htakes : key.Takes value
      · refine .inr ⟨value, hvalue, fun hnone => hnot ⟨htakes, ?_⟩⟩
        exact (Key.inRange_iff htakes (not_isLong hport hvalue)).mp hnone
      · exact .inl ⟨value, hvalue, htakes⟩
    · rintro (⟨value, hvalue, hkind⟩ | ⟨value, hvalue, hrange⟩)
      · exact ⟨value, hvalue, fun h => hkind h.1⟩
      · refine ⟨value, hvalue, fun ⟨htakes, hin⟩ => hrange ?_⟩
        exact (Key.inRange_iff htakes (not_isLong hport hvalue)).mpr hin

theorem isFaultyTwice_iff (hport : ¬ HasLongPort data) {spot : Spot} :
    spot.IsFaultyTwice data ↔ spot.FailsKind data ∧ spot.FailsRange data := by
  cases spot with
  | whole s => exact ⟨False.elim, fun h => h.2⟩
  | setting key =>
    constructor
    · rintro ⟨value, hvalue, htwice⟩
      obtain ⟨hkind, hrange⟩ := (Key.isFaultyTwice_iff (not_isLong hport hvalue)).mpr htwice
      exact ⟨⟨value, hvalue, hkind⟩, value, hvalue, hrange⟩
    · rintro ⟨⟨value, hvalue, hkind⟩, value', hvalue', hrange⟩
      obtain rfl : value = value' := Option.some.inj (hvalue.symm.trans hvalue')
      exact ⟨value, hvalue, (Key.isFaultyTwice_iff (not_isLong hport hvalue)).mp ⟨hkind, hrange⟩⟩

private theorem length_errors (problems : List Problem) :
    ((problems.map FileIssue.problem).filter FileIssue.isError).length =
      (violations problems).length + problems.countP fun p => p.isUnknownKey && p.isError := by
  induction problems with
  | nil => rfl
  | cons p rest ih =>
    simp only [violations] at ih
    cases hunknown : p.isUnknownKey with
    | false =>
      have herror : p.isError = true := isError_of_not_isUnknownKey hunknown
      simp [violations, FileIssue.isError, hunknown, herror, ih]
      omega
    | true =>
      cases herror : p.isError with
      | false => simp [violations, FileIssue.isError, hunknown, herror, ih]
      | true =>
        simp [violations, FileIssue.isError, hunknown, herror, ih]
        omega

end Data

/-- What a check that returns reports apart from unknown keys: the sections and the keys that there is
something wrong with, and once more the keys with a number that is no integer, out of the range, where only
integers are taken. So nothing is reported twice if and only if there is no such key, and the number of
errors shown is that of the sections and keys, of these keys, and of the unknown keys with the words of an
error in them. -/
theorem reports_once_iff {source : Text} {data : Entries} {w : World} {problems : List Problem}
    (htidy : (Value.map data).IsTidy) (hcheck : (checkData source (.map data) w).1 = .ok problems) :
    ∃ offending twice : List Spot,
      (offending.Nodup ∧ ∀ spot, spot ∈ offending ↔ spot.IsOffending data) ∧
      (twice.Nodup ∧ ∀ spot, spot ∈ twice ↔ spot.IsFaultyTwice data) ∧
      ((violations problems).map Problem.key?).Perm ((offending ++ twice).map Spot.key?) ∧
      (((violations problems).map Problem.key?).Nodup ↔
        ∀ (key : Key) (value : Value), key.value? data = some value → ¬ key.IsFaultyTwice value) ∧
      ((problems.map FileIssue.problem).filter FileIssue.isError).length =
        offending.length + twice.length + problems.countP fun p => p.isUnknownKey && p.isError := by
  obtain ⟨hsearched, hport, rfl⟩ := searched_of_checkData hcheck
  obtain ⟨offending, hoffendingOnce, hoffending⟩ := Spot.exists_list (·.IsOffending data)
  obtain ⟨twice, htwiceOnce, htwice⟩ := Spot.exists_list (·.IsFaultyTwice data)
  have hperm : ((violations (review (.map data)).problems).map Problem.key?).Perm
      ((offending ++ twice).map Spot.key?) := by
    rw [violations_review hsearched hport, List.map_append, List.map_append]
    refine perm_of_nodup (nodup_kindViolations hsearched htidy) (nodup_rangeViolations data)
      (hoffendingOnce.map Spot.key?_injective) (htwiceOnce.map Spot.key?_injective)
      (fun about => ?_) (fun about => ?_)
    · rw [mem_kindViolations hsearched htidy, mem_rangeViolations, ← exists_or, List.mem_map]
      refine exists_congr fun spot => ?_
      rw [hoffending, isOffending_iff hport, or_and_right]
    · rw [mem_kindViolations hsearched htidy, mem_rangeViolations, List.mem_map]
      constructor
      · rintro ⟨spot, hspot, rfl⟩
        obtain ⟨hkind, hrange⟩ := (isFaultyTwice_iff hport).mp ((htwice spot).mp hspot)
        exact ⟨⟨spot, hkind, rfl⟩, spot, hrange, rfl⟩
      · rintro ⟨⟨spot, hkind, rfl⟩, other, hrange, hsame⟩
        obtain rfl := Spot.key?_injective hsame
        exact ⟨other, (htwice other).mpr ((isFaultyTwice_iff hport).mpr ⟨hkind, hrange⟩), rfl⟩
  refine ⟨offending, twice, ⟨hoffendingOnce, hoffending⟩, ⟨htwiceOnce, htwice⟩, hperm, ?_, ?_⟩
  · rw [hperm.nodup_iff, List.nodup_map_iff Spot.key?_injective, List.nodup_append]
    constructor
    · rintro ⟨_, _, hapart⟩ key value hvalue hfaulty
      have htwice' : (Spot.setting key).IsFaultyTwice data := ⟨value, hvalue, hfaulty⟩
      have hkind := ((isFaultyTwice_iff hport).mp htwice').1
      exact hapart _ ((hoffending _).mpr ((isOffending_iff hport).mpr (.inl hkind))) _
        ((htwice _).mpr htwice') rfl
    · intro hnone
      refine ⟨hoffendingOnce, htwiceOnce, fun _ _ spot hspot => ?_⟩
      have hfaulty := (htwice spot).mp hspot
      cases spot with
      | whole s => cases hfaulty
      | setting key =>
        obtain ⟨value, hvalue, hfaulty⟩ := hfaulty
        exact absurd hfaulty (hnone key value hvalue)
  · rw [length_errors, ← List.length_map, hperm.length_eq, List.length_map, List.length_append]

/-- A chunk size of -1.5. -/
def fractionalData : Entries :=
  [(.text "tool", .map [(.text "chunk_size", .float (.finite true 3 (-1)) 0)])]

/-- What a check of it returns. -/
def fractionalProblems : List Problem := [.wrongKind .tool "chunk_size" [.int] "float", .noChunkSize]

theorem isTidy_fractionalData : (Value.map fractionalData).IsTidy := by
  refine Value.KeysOnce.isTidy (.map (by decide) fun entry hentry => ?_)
  obtain rfl : entry = _ := List.mem_singleton.mp hentry
  exact .flat (by decide) (by decide)

theorem checkData_fractionalData (source : Text) (w : World) :
    (checkData source (.map fractionalData) w).1 = .ok fractionalProblems := by
  rw [checkData_result]
  rfl

/-- One key is wrong, and two errors are shown. -/
theorem reports_once_iff_fractionalData :
    ((Value.map fractionalData).IsTidy ∧
        (checkData "c.yml" (.map fractionalData) World.bare).1 = .ok fractionalProblems) ∧
      (∃ offending : List Spot, offending.Nodup ∧ offending.length = 1 ∧
        ∀ spot, spot ∈ offending ↔ spot.IsOffending fractionalData) ∧
      ((fractionalProblems.map FileIssue.problem).filter FileIssue.isError).length = 2 := by
  have hcheck := checkData_fractionalData "c.yml" World.bare
  obtain ⟨offending, twice, ⟨honce, hoffending⟩, ⟨_, htwice⟩, hperm, _, hcount⟩ :=
    reports_once_iff isTidy_fractionalData hcheck
  have hwrong : (Spot.setting .chunkSize).IsOffending fractionalData :=
    ⟨_, rfl, fun ⟨⟨_, hint⟩, _⟩ => nomatch hint⟩
  have hboth : (Spot.setting .chunkSize).IsFaultyTwice fractionalData := ⟨_, rfl, .inl rfl⟩
  have hlength : (violations fractionalProblems).length = offending.length + twice.length := by
    simpa only [List.length_map, List.length_append] using hperm.length_eq
  have htwo : (violations fractionalProblems).length = 2 := rfl
  have hpositive := List.length_pos_of_mem ((hoffending _).mpr hwrong)
  have hpositive' := List.length_pos_of_mem ((htwice _).mpr hboth)
  refine ⟨⟨isTidy_fractionalData, hcheck⟩, ⟨offending, honce, by omega, hoffending⟩, ?_⟩
  rw [hcount, ← hlength]
  rfl

/-- The size is reported for its kind and for its range. -/
theorem chunk_size_reported_twice :
    HasTextKeys fractionalData ∧ (Value.map fractionalData).IsTidy ∧
      (checkData "c.yml" (.map fractionalData) World.bare).1 = .ok fractionalProblems ∧
      (violations fractionalProblems).map Problem.key? =
        [some (.text "tool.chunk_size"), some (.text "tool.chunk_size")] :=
  ⟨hasTextKeys_of_forall (by simp [fractionalData]), isTidy_fractionalData,
    checkData_fractionalData "c.yml" World.bare, rfl⟩

end Config

end ScanLauncher
