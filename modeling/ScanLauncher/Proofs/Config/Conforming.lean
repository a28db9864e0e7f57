import Mathlib.Data.Bool.Basic
import ScanLauncher.Proofs.Config.Returning

namespace ScanLauncher.Config

namespace Key

/-- The values of the kinds that a key is declared with. A truth value is never one. -/
def Takes : Key → Value → Prop
  | timeout, value | busyWait, value => (∃ n, value = .int n) ∨ ∃ x label, value = .float x label
  | chunkSize, value | port, value => ∃ n, value = .int n
  | interpreter, value => value = .null ∨ ∃ t, value = .text t
  | _, value => ∃ t, value = .text t

/-- The values in the range of a key, among those that it takes. -/
def InRange : Key → Value → Prop
  | timeout, .int n | busyWait, .int n => 0 ≤ n
  | timeout, .float x _ | busyWait, .float x _ => x.isNegative = false
  | chunkSize, .int n => 0 < n
  | port, .int n => 1 ≤ n ∧ n ≤ 65535
  | directoryName, .text name =>
    name ≠ "" ∧ Glyph.char '/' ∉ name.glyphs ∧ name ≠ "." ∧ name ≠ ".."
  | _, _ => True

end Key

/-- Every key is known, at the top and in the sections. -/
def KnowsKeys (data : Entries) : Prop := ∀ place entry, HasEntry data place entry → IsKnown place entry.1

/-- What stands under known keys is as it should be. -/
structure Fits (data : Entries) : Prop where
  sections : ∀ (s : Section) value, data.field? s.name = some value →
    value = .null ∨ ∃ entries, value = .map entries
  kinds : ∀ (key : Key) value, HasEntry data (some key.place) (.text key.name, value) → key.Takes value
  ranges : ∀ (key : Key) value, key.value? data = some value → key.InRange value

/-- Data as it should be. -/
structure Conforms (data : Entries) : Prop extends Fits data where
  known : KnowsKeys data

/-- The section that a problem is about; a key that is not known at the top is in none. -/
def Problem.place? : Problem → Option Section
  | .notMapping _ | .unknownTopKey _ _ => none
  | .sectionNotMapping s _ | .unknownKey s _ _ | .wrongKind s _ _ _ => some s
  | .negativeTimeout | .noChunkSize => some .tool
  | .directoryName _ => some .reports
  | .port _ | .negativeBusyWait => some .server

section Single

variable {key : Key} {value : Value}

theorem Key.takes_iff : key.kinds.any (·.accepts value) = true ↔ key.Takes value := by
  cases key <;> cases value <;> simp [Key.kinds, Key.Takes, SettingKind.accepts]

theorem Review.problems_when_eq_nil {holds : Bool} {p : Problem} :
    (Review.when holds p).problems = [] ↔ holds = false := by
  cases holds <;> simp [Review.when, Review.one, Review.clean]

/-- No problem is found with the range of a value if and only if the value is in it. -/
theorem Key.inRange_iff (htakes : key.Takes value)
    (hshown : key = .port → ∀ n, value = .int n → ¬ IsLong n) :
    (key.check value).problems = [] ↔ key.InRange value := by
  cases key with
  | timeout | busyWait =>
    obtain ⟨n, rfl⟩ | ⟨x, label, rfl⟩ := htakes
    · rw [Key.check, Review.problems_when_eq_nil, isNegative_int, Key.InRange]
    · rw [Key.check, Review.problems_when_eq_nil, Key.InRange]
      rfl
  | chunkSize =>
    obtain ⟨n, rfl⟩ := htakes
    rw [Key.check, Review.problems_when_eq_nil, isNotPositive_int, Key.InRange]
  | port =>
    obtain ⟨n, rfl⟩ := htakes
    obtain ⟨shown, hreview⟩ := reviewPort_eq (hshown rfl)
    rw [Key.check, hreview, Review.problems_when_eq_nil, isBadPort_int, Key.InRange]
    omega
  | directoryName =>
    obtain ⟨name, rfl⟩ := htakes
    rw [Key.check, reviewDirectoryName, Review.problems_when_eq_nil, Key.InRange, ← isComponent_iff]
    simp
  | _ => simp [Key.check, Key.InRange, Review.clean]

/-- What is found with the range of a value is a problem of the key's section, and not with a key. -/
theorem Key.of_mem_check {p : Problem} (hp : p ∈ (key.check value).problems) :
    p.isUnknownKey = false ∧ p.place? = some key.place := by
  cases key with
  | timeout | busyWait | chunkSize =>
    obtain ⟨_, rfl⟩ := Review.mem_problems_when.mp hp
    exact ⟨rfl, rfl⟩
  | port =>
    rw [Key.check, reviewPort] at hp
    split at hp
    · split at hp
      · obtain rfl := List.mem_singleton.mp hp
        exact ⟨rfl, rfl⟩
      · cases hp
    · cases hp
  | directoryName =>
    cases value with
    | text name =>
      obtain ⟨_, rfl⟩ := Review.mem_problems_when.mp hp
      exact ⟨rfl, rfl⟩
    | _ => cases hp
  | _ => cases hp

theorem isUnknownKey_unknownAt (place : Option Section) (name : Value) (suggestion : Option Text) :
    (unknownAt place name suggestion).isUnknownKey = true := by
  cases place <;> rfl

end Single

section Data

variable {data : Entries}

theorem hasEntry_of_value? {key : Key} {value : Value} (h : key.value? data = some value) :
    HasEntry data (some key.place) (.text key.name, value) := by
  rw [Key.value?, sectionOf] at h
  split at h
  · rename_i entries hsection
    obtain ⟨⟨name, _⟩, hfound, rfl⟩ := Option.map_eq_some_iff.mp h
    have hname : name = .text key.name := by simpa using List.find?_some hfound
    rw [← hname]
    exact .inside hsection (List.mem_of_find?_eq_some hfound)
  · cases h

/-- Where the port can be shown, all values that are looked at can. -/
theorem not_isLong (hport : ¬ HasLongPort data) {key : Key} {value : Value}
    (hvalue : key.value? data = some value) : key = .port → ∀ n, value = .int n → ¬ IsLong n := by
  rintro rfl n rfl hlong
  exact hport ⟨n, hvalue, hlong⟩

/-- Data fits if and only if there is nothing to complain about but keys that are not known. -/
theorem fits_iff (hport : ¬ HasLongPort data) :
    Fits data ↔ ∀ p, Complaint data p → p.isUnknownKey = true := by
  constructor
  · intro hfits p hp
    cases hp with
    | unknown => exact isUnknownKey_unknownAt _ _ _
    | @notMapping s value hvalue hnull hmap =>
      obtain hnull' | ⟨entries, hentries⟩ := hfits.sections s value hvalue
      · exact absurd hnull' hnull
      · exact absurd hentries (hmap entries)
    | @wrongKind key value hentry hkind =>
      rw [Key.takes_iff.mpr (hfits.kinds key value hentry)] at hkind
      cases hkind
    | @outOfRange key value p hvalue hp =>
      have htakes : key.Takes value := hfits.kinds key value (hasEntry_of_value? hvalue)
      rw [(Key.inRange_iff htakes (not_isLong hport hvalue)).mpr (hfits.ranges key value hvalue)] at hp
      cases hp
  · intro h
    have hkinds (key : Key) (value : Value)
        (hentry : HasEntry data (some key.place) (.text key.name, value)) : key.Takes value := by
      apply Key.takes_iff.mp
      apply Bool.eq_true_of_not_eq_false
      intro hkind
      cases h _ (.wrongKind hentry hkind)
    refine ⟨fun s value hvalue => ?_, hkinds, fun key value hvalue => ?_⟩
    · by_contra hother
      push Not at hother
      cases h _ (.notMapping hvalue hother.1 hother.2)
    · apply (Key.inRange_iff (hkinds key value (hasEntry_of_value? hvalue)) (not_isLong hport hvalue)).mp
      apply List.eq_nil_iff_forall_not_mem.mpr
      intro p hp
      have hunknown := h p (.outOfRange hvalue hp)
      rw [(Key.of_mem_check hp).1] at hunknown
      cases hunknown

theorem knowsKeys_iff : KnowsKeys data ↔ ∀ p, Complaint data p → p.isUnknownKey = false := by
  constructor
  · intro hknown p hp
    cases hp with
    | unknown hentry hkey => exact absurd (hknown _ _ hentry) hkey
    | notMapping | wrongKind => rfl
    | outOfRange _ hp => exact (Key.of_mem_check hp).1
  · intro h place entry hentry
    by_contra hkey
    have hunknown := h _ (.unknown hentry hkey)
    rw [isUnknownKey_unknownAt] at hunknown
    cases hunknown

theorem conforms_iff (hport : ¬ HasLongPort data) : Conforms data ↔ ∀ p, ¬ Complaint data p := by
  constructor
  · intro hconforms p hp
    have hunknown := (fits_iff hport).mp hconforms.toFits p hp
    rw [knowsKeys_iff.mp hconforms.known p hp] at hunknown
    cases hunknown
  · intro h
    exact ⟨(fits_iff hport).mpr fun p hp => absurd hp (h p),
      knowsKeys_iff.mpr fun p hp => absurd hp (h p)⟩

theorem KnowsKeys.isSearched (h : KnowsKeys data) : IsSearched data :=
  fun place entry hentry => (h place entry hentry).isSearchable

private theorem Fits.not_hasLongPort (h : Fits data) : ¬ HasLongPort data := by
  rintro ⟨n, hvalue, hlong⟩
  have hrange : 1 ≤ n ∧ n ≤ 65535 := h.ranges .port (.int n) hvalue
  have hlarge := hlong.large
  omega

private theorem checkData_eq_nil_iff (source : Text) (w : World) :
    (checkData source (.map data) w).1 = .ok [] ↔ Conforms data := by
  constructor
  · intro h
    obtain ⟨hsearched, hport, hnil⟩ := searched_of_checkData h
    apply (conforms_iff hport).mpr
    intro p hp
    rw [← mem_problems_review hsearched hport, ← hnil] at hp
    cases hp
  · intro h
    have hsearched := h.known.isSearched
    have hport := h.toFits.not_hasLongPort
    rw [checkData_ok source w hsearched hport, Except.ok.injEq]
    apply List.eq_nil_iff_forall_not_mem.mpr
    intro p hp
    exact (conforms_iff hport).mp h p ((mem_problems_review hsearched hport).mp hp)

/-- Every key is a text. -/
def HasTextKeys (data : Entries) : Prop :=
  ∀ place entry, HasEntry data place entry → ∃ t, entry.1 = .text t

theorem hasTextKeys_of_forall (h : ∀ entry ∈ data, (∃ t, entry.1 = .text t) ∧
    ∀ entries, entry.2 = .map entries → ∀ inner ∈ entries, ∃ t, inner.1 = .text t) :
    HasTextKeys data := by
  intro place entry hentry
  cases hentry with
  | top hmem => exact (h entry hmem).1
  | inside hsection hmem =>
    obtain ⟨outer, hfound, hmap⟩ := Option.map_eq_some_iff.mp hsection
    exact (h outer (List.mem_of_find?_eq_some hfound)).2 _ hmap entry hmem

theorem HasTextKeys.isSearched (h : HasTextKeys data) : IsSearched data :=
  fun place entry hentry => .inl (h place entry hentry)

theorem place?_unknownAt (place : Option Section) (name : Value) (suggestion : Option Text) :
    (unknownAt place name suggestion).place? = place := by
  cases place <;> rfl

theorem place?_of_mem_reviewAt (h : IsSearched data) {place : Option Section} {entry : Value × Value}
    (hentry : HasEntry data place entry) {p : Problem} (hp : p ∈ (reviewAt place entry).problems) :
    p.place? = place := by
  obtain ⟨_, rfl⟩ | ⟨key, rfl, _, _, rfl⟩ := (mem_problems_reviewAt (h place entry hentry)).mp hp
  · exact place?_unknownAt _ _ _
  · rfl

theorem place?_of_mem_reviewSection (h : IsSearched data) {s : Section} {p : Problem}
    (hp : p ∈ (reviewSection data s).problems) : p.place? = some s := by
  obtain ⟨value, _, _, _, rfl⟩ | ⟨entry, hentry, hp⟩ := (mem_problems_reviewSection h).mp hp
  · rfl
  · exact place?_of_mem_reviewAt h hentry hp

theorem place?_of_mem_reviewKey {key : Key} {p : Problem} (hp : p ∈ (reviewKey data key).problems) :
    p.place? = some key.place := by
  obtain ⟨value, _, hp⟩ := mem_problems_reviewKey.mp hp
  exact (Key.of_mem_check hp).2

/-- The problems that are about a section. -/
def problemsOf (s : Section) (problems : List Problem) : List Problem :=
  problems.filter fun p => p.place? = some s

theorem problemsOf_eq_nil {s : Section} {place : Option Section} {problems : List Problem}
    (hplace : place ≠ some s) (h : ∀ p ∈ problems, p.place? = place) : problemsOf s problems = [] := by
  apply List.filter_eq_nil_iff.mpr
  intro p hp
  simpa [h p hp] using hplace

theorem problemsOf_tops (h : IsSearched data) (s : Section) :
    problemsOf s (data.flatMap fun entry => (reviewAt none entry).problems) = [] := by
  have hnone : (none : Option Section) ≠ some s := nofun
  apply problemsOf_eq_nil hnone
  intro p hp
  obtain ⟨entry, hentry, hp⟩ := List.mem_flatMap.mp hp
  exact place?_of_mem_reviewAt h (.top hentry) hp

section Congr

variable {other : Entries} {s : Section} (hsame : data.field? s.name = other.field? s.name)

include hsame

private theorem problemsOf_reviewSection_congr (h : IsSearched data) (h' : IsSearched other) (t : Section) :
    problemsOf s (reviewSection data t).problems = problemsOf s (reviewSection other t).problems := by
  by_cases ht : t = s
  · rw [ht, reviewSection, reviewSection, hsame]
  · have hplace : some t ≠ some s := fun heq => ht (Option.some.inj heq)
    rw [problemsOf_eq_nil hplace fun p => place?_of_mem_reviewSection h,
      problemsOf_eq_nil hplace fun p => place?_of_mem_reviewSection h']

private theorem problemsOf_reviewKey_congr (key : Key) :
    problemsOf s (reviewKey data key).problems = problemsOf s (reviewKey other key).problems := by
  by_cases hplace : key.place = s
  · have hvalue : key.value? data = key.value? other := by
      rw [Key.value?, Key.value?, sectionOf, sectionOf, hplace, hsame]
    rw [reviewKey, reviewKey, hvalue]
  · have hplace : some key.place ≠ some s := fun heq => hplace (Option.some.inj heq)
    rw [problemsOf_eq_nil hplace fun p => place?_of_mem_reviewKey,
      problemsOf_eq_nil hplace fun p => place?_of_mem_reviewKey]

private theorem problemsOf_congr (h : IsSearched data) (hport : ¬ HasLongPort data) (h' : IsSearched other)
    (hport' : ¬ HasLongPort other) :
    problemsOf s (review (.map data)).problems = problemsOf s (review (.map other)).problems := by
  have htops := problemsOf_tops h s
  have htops' := problemsOf_tops h' s
  have hsections := problemsOf_reviewSection_congr hsame h h'
  have hkeys := problemsOf_reviewKey_congr hsame
  rw [problems_review h hport, problems_review h' hport']
  simp only [problemsOf, List.filter_append, List.filter_flatMap] at htops htops' hsections hkeys ⊢
  simp only [htops, htops', hsections, hkeys]

end Congr

end Data

/-- A check finds nothing if and only if the data is as it should be. Where every key is a text, it
returns unless the port is too long to be shown. What it finds about a section, wherever it returns, is a
matter of what stands under the section's key. -/
theorem check_conforms_iff (source : Text) (data : Entries) (w : World) :
    ((checkData source (.map data) w).1 = .ok [] ↔ Conforms data) ∧
    (HasTextKeys data →
      ((∃ problems, (checkData source (.map data) w).1 = .ok problems) ↔ ¬ HasLongPort data)) ∧
    ∀ (s : Section) (source' : Text) (other : Entries) (w' : World),
      data.field? s.name = other.field? s.name →
      ∀ problems problems', (checkData source (.map data) w).1 = .ok problems →
        (checkData source' (.map other) w').1 = .ok problems' →
        problemsOf s problems = problemsOf s problems' := by
  refine ⟨checkData_eq_nil_iff source w, fun htext => ?_, ?_⟩
  · constructor
    · rintro ⟨problems, h⟩
      obtain ⟨_, hport, _⟩ := searched_of_checkData h
      exact hport
    · intro hport
      exact ⟨_, checkData_ok source w htext.isSearched hport⟩
  · intro s source' other w' hsame problems problems' h h'
    obtain ⟨hsearched, hport, rfl⟩ := searched_of_checkData h
    obtain ⟨hsearched', hport', rfl⟩ := searched_of_checkData h'
    exact problemsOf_congr hsame hsearched hport hsearched' hport'

/-- A time limit below zero. -/
def hastyData : Entries := [(.text "tool", .map [(.text "timeout", .int (-1))])]

/-- A port of 4000 hexadecimal digits, which would be shown with 4817 decimal ones. -/
def longPort : Int := 16 ^ 4000 - 1

/-- The same time limit, and such a port. -/
def crowdedData : Entries := hastyData ++ [(.text "server", .map [(.text "port", .int longPort)])]

/-- What another section holds can keep the problem of a section from being found. -/
theorem section_hidden_by_another :
    hastyData.field? Section.tool.name = crowdedData.field? Section.tool.name ∧
      (∀ source w, (checkData source (.map hastyData) w).1 = .ok [.negativeTimeout]) ∧
      ∀ source w, (checkData source (.map crowdedData) w).1 = .error .longNumber := by
  have hlong : HasLongPort crowdedData :=
    ⟨longPort, rfl, by rw [IsLong]; decide +kernel⟩
  have htext : HasTextKeys crowdedData := hasTextKeys_of_forall (by simp [crowdedData, hastyData])
  refine ⟨rfl, fun source w => ?_, fun source w => ?_⟩
  · rw [checkData_result]
    rfl
  · exact checkData_of_hasLongPort source w htext.isSearched hlong

end ScanLauncher.Config
