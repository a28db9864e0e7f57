import Mathlib.Data.List.Infix
import ScanLauncher.Proofs.Config.Conforming
import ScanLauncher.Proofs.Text.Bytes

namespace ScanLauncher

namespace Text

section Search

variable {α : Type}

private theorem occursInList_iff [BEq α] [LawfulBEq α] {pattern l : List α} :
    occursInList pattern l = true ↔ pattern <:+: l := by
  induction l with
  | nil => rw [occursInList, List.isEmpty_iff, List.infix_nil]
  | cons a rest ih =>
    rw [occursInList, Bool.or_eq_true, List.isPrefixOf_iff_prefix, ih, List.infix_cons_iff]

variable {c : α} {pattern : List α}

theorem prefix_border_iff (hc : c ∉ pattern) {xs ys : List α} :
    pattern <+: xs ++ c :: ys ↔ pattern <+: xs := by
  induction xs generalizing pattern with
  | nil =>
    cases pattern with
    | nil => simp
    | cons p rest =>
      have hne : p ≠ c := fun h => hc (h ▸ .head rest)
      simp [List.cons_prefix_cons, hne]
  | cons x xs ih =>
    cases pattern with
    | nil => simp
    | cons p rest =>
      have hrest : c ∉ rest := fun h => hc (.tail p h)
      rw [List.cons_append, List.cons_prefix_cons, List.cons_prefix_cons, ih hrest]

private theorem infix_border_iff (hc : c ∉ pattern) {xs ys : List α} :
    pattern <:+: xs ++ c :: ys ↔ pattern <:+: xs ∨ pattern <:+: ys := by
  induction xs with
  | nil =>
    have hprefix : pattern <+: [] ++ c :: ys ↔ pattern <+: [] := prefix_border_iff hc
    rw [List.nil_append] at hprefix ⊢
    rw [List.infix_cons_iff, hprefix, List.prefix_nil, List.infix_nil]
  | cons x xs ih =>
    have hprefix : pattern <+: x :: xs ++ c :: ys ↔ pattern <+: x :: xs := prefix_border_iff hc
    rw [List.cons_append] at hprefix ⊢
    rw [List.infix_cons_iff, List.infix_cons_iff, hprefix, ih, or_assoc]

end Search

theorem append_assoc (a b c : Text) : a ++ b ++ c = a ++ (b ++ c) :=
  congrArg Text.mk (List.append_assoc _ _ _)

theorem append_empty (a : Text) : a ++ ⟨[]⟩ = a := congrArg Text.mk (List.append_nil _)

end Text

namespace Config

/-- The words of an error stand in a text. -/
def HoldsPhrase (t : Text) : Prop := ∃ phrase ∈ Problem.errorPhrases, phrase.glyphs <:+: t.glyphs

instance (t : Text) : Decidable (HoldsPhrase t) :=
  inferInstanceAs (Decidable (∃ phrase ∈ Problem.errorPhrases, phrase.glyphs <:+: t.glyphs))

section Phrase

variable {a b : Text}

theorem isError_iff {p : Problem} : p.isError = true ↔ HoldsPhrase p.message := by
  simp [Problem.isError, HoldsPhrase, Text.occursIn, Text.occursInList_iff]

theorem HoldsPhrase.append_left (h : HoldsPhrase a) (b : Text) : HoldsPhrase (a ++ b) := by
  obtain ⟨phrase, hphrase, hinfix⟩ := h
  exact ⟨phrase, hphrase, hinfix.trans (List.prefix_append _ _).isInfix⟩

theorem HoldsPhrase.append_right (h : HoldsPhrase b) (a : Text) : HoldsPhrase (a ++ b) := by
  obtain ⟨phrase, hphrase, hinfix⟩ := h
  exact ⟨phrase, hphrase, hinfix.trans (List.suffix_append _ _).isInfix⟩

/-- No phrase reaches over a glyph that is in none of them. -/
theorem holdsPhrase_border_iff {c : Glyph} (hc : ∀ phrase ∈ Problem.errorPhrases, c ∉ phrase.glyphs) :
    HoldsPhrase (a ++ ⟨[c]⟩ ++ b) ↔ HoldsPhrase a ∨ HoldsPhrase b := by
  have hglyphs : (a ++ ⟨[c]⟩ ++ b).glyphs = a.glyphs ++ c :: b.glyphs := by simp
  simp only [HoldsPhrase, hglyphs]
  rw [← exists_or]
  apply exists_congr
  intro phrase
  rw [← and_or_left]
  apply and_congr_right
  intro hphrase
  exact Text.infix_border_iff (hc phrase hphrase)

/-- The key in a text about it is all that can hold a phrase. -/
theorem holdsPhrase_about_iff {c : Glyph} (hc : ∀ phrase ∈ Problem.errorPhrases, c ∉ phrase.glyphs)
    {start : Text} (hstart : ¬ HoldsPhrase start) (t : Text) :
    HoldsPhrase (start ++ ⟨[c]⟩ ++ t ++ ⟨[.char '\x27']⟩ ++ ⟨[]⟩) ↔ HoldsPhrase t := by
  have hquote : ∀ phrase ∈ Problem.errorPhrases, Glyph.char '\x27' ∉ phrase.glyphs := by decide
  have hempty : ¬ HoldsPhrase ⟨[]⟩ := by decide
  rw [holdsPhrase_border_iff hquote, holdsPhrase_border_iff hc, or_iff_left hempty, or_iff_right hstart]

end Phrase

theorem keyText_text (t : Text) : Problem.keyText (.text t) = t := by
  rw [Problem.keyText, Value.plain?]
  rfl

/-- A key that is not known is an error if and only if it has the words of one. -/
theorem isError_unknownAt {place : Option Section} {t : Text} {suggestion : Option Text} :
    (unknownAt place (.text t) suggestion).isError = true ↔ HoldsPhrase t := by
  rw [isError_iff]
  cases place with
  | none =>
    have hquote : ∀ phrase ∈ Problem.errorPhrases, Glyph.char '\x27' ∉ phrase.glyphs := by decide
    have hstart : ¬ HoldsPhrase "Unknown top-level key " := by decide
    have hmessage : (unknownAt none (.text t) suggestion).message =
        "Unknown top-level key " ++ ⟨[.char '\x27']⟩ ++ t ++ ⟨[.char '\x27']⟩ ++ ⟨[]⟩ := by
      have hwords : ("Unknown top-level key '" : Text) =
          "Unknown top-level key " ++ ⟨[.char '\x27']⟩ := by decide +kernel
      rw [unknownAt, Problem.message, keyText_text, hwords, Text.append_empty]
      rfl
    rw [hmessage, holdsPhrase_about_iff hquote hstart]
  | some s =>
    have hdot : ∀ phrase ∈ Problem.errorPhrases, Glyph.char '.' ∉ phrase.glyphs := by decide
    have hstart : ¬ HoldsPhrase ("Unknown key '" ++ s.name) := by cases s <;> decide
    have hmessage : (unknownAt (some s) (.text t) suggestion).message =
        "Unknown key '" ++ s.name ++ ⟨[.char '.']⟩ ++ t ++ ⟨[.char '\x27']⟩ ++ ⟨[]⟩ := by
      rw [unknownAt, Problem.message, keyText_text, Problem.qualified, Text.append_empty]
      simp only [Text.append_assoc]
      rfl
    rw [hmessage, holdsPhrase_about_iff hdot hstart]

/-- Every problem but a key that is not known has the words of an error. -/
theorem isError_of_not_isUnknownKey {p : Problem} (h : p.isUnknownKey = false) : p.isError = true := by
  rw [isError_iff]
  cases p with
  | notMapping kind =>
    have hwords : HoldsPhrase "Config must be a mapping, got " := by decide +kernel
    exact hwords.append_left _
  | sectionNotMapping s kind =>
    have hwords : HoldsPhrase "' must be a mapping, got " := by decide +kernel
    exact (hwords.append_right _).append_left _
  | wrongKind s key expected kind =>
    have hwords : HoldsPhrase "' must be a " := by decide +kernel
    exact (((hwords.append_right _).append_left _).append_left _).append_left _
  | directoryName name =>
    have hwords : HoldsPhrase "Invalid value '" := by decide +kernel
    exact (hwords.append_left _).append_left _
  | port shown =>
    have hwords : HoldsPhrase "Invalid value '" := by decide +kernel
    exact (hwords.append_left _).append_left _
  | negativeTimeout | noChunkSize | negativeBusyWait => decide +kernel
  | unknownTopKey | unknownKey => cases h

/-- A mapping is what is written in a file, as a check reads it. -/
structure IsWritten (files : FileSystem) (path : Path) (data : Entries) : Prop where
  there : files.exists? path.text = .ok true
  read : ∃ bytes, files.read path.text = .ok bytes ∧ Yaml.load (.ofFile bytes) = .ok (.map data)

section File

open Act

variable {files : FileSystem} {env : Environment} {path : Path} {data : Entries}

private theorem endsIn_scanDocument (h : IsWritten files path data) :
    EndsIn files env (scanDocument path) (.ok (.map data)) := by
  obtain ⟨bytes, hread, hload⟩ := h.read
  refine (endsIn_readBytes hread).bind ?_
  rw [hload]
  exact endsIn_pure _

/-- A check of a file ends as the check of what is written in it. -/
theorem endsIn_checkFile (h : IsWritten files path data) {result : Except Failure (List Problem)}
    (hcheck : EndsIn files env (checkData path.text (.map data)) result) :
    EndsIn files env (checkFile path) (result.map (·.map .problem)) := by
  refine (endsIn_pathExists h.there).bind ((endsIn_scanDocument h).attempt.bind ?_)
  cases result with
  | ok problems => exact hcheck.bind (endsIn_pure _)
  | error failure => exact hcheck.bind_error

variable {w : World} (hfile : IsWritten w.files path data) (htext : HasTextKeys data)

include hfile htext

private theorem checkFile_of_hasLongPort (hport : HasLongPort data) :
    (checkFile path w).1 = .error .longNumber := by
  have hstop := stop_review_of_hasLongPort htext.isSearched hport
  obtain ⟨w', hcheck, _⟩ := endsIn_checkFile hfile (endsIn_checkData_error hstop) w rfl rfl
  rw [hcheck]
  rfl

theorem checkFile_ok (hport : ¬ HasLongPort data) :
    (checkFile path w).1 = .ok ((review (.map data)).problems.map .problem) := by
  have hstop := stop_review htext.isSearched hport
  obtain ⟨w', hcheck, _⟩ := endsIn_checkFile hfile (endsIn_checkData hstop) w rfl rfl
  rw [hcheck]
  rfl

omit hfile

/-- A complaint about a key that is not known is about a text. -/
theorem exists_text_of_isUnknownKey {p : Problem} (hp : Complaint data p)
    (hunknown : p.isUnknownKey = true) :
    ∃ place t value, HasEntry data place (.text t, value) ∧ ¬ IsKnown place (.text t) ∧
      p = unknownAt place (.text t) (suggestionAt place (.text t)) := by
  cases hp with
  | @unknown place entry hentry hkey =>
    obtain ⟨t, ht⟩ := htext place entry hentry
    obtain ⟨name, value⟩ := entry
    obtain rfl : name = .text t := ht
    exact ⟨place, t, value, hentry, hkey, rfl⟩
  | notMapping | wrongKind => cases hunknown
  | outOfRange _ hp =>
    rw [(Key.of_mem_check hp).1] at hunknown
    cases hunknown

/-- A file can be used if and only if what stands under known keys is as it should be, and no other key
has the words of an error. -/
theorem isUsable_iff (hport : ¬ HasLongPort data) :
    isUsable ((review (.map data)).problems.map .problem) = true ↔
      Fits data ∧ ∀ place t value, HasEntry data place (.text t, value) →
        ¬ IsKnown place (.text t) → ¬ HoldsPhrase t := by
  have husable : isUsable ((review (.map data)).problems.map .problem) = true ↔
      ∀ p, Complaint data p → p.isError = false := by
    simp [isUsable, FileIssue.isError, mem_problems_review htext.isSearched hport]
  rw [husable, fits_iff hport]
  constructor
  · intro h
    refine ⟨fun p hp => ?_, fun place t value hentry hkey hphrase => ?_⟩
    · apply Bool.eq_true_of_not_eq_false
      intro hother
      have herror := h p hp
      rw [isError_of_not_isUnknownKey hother] at herror
      cases herror
    · have herror := h _ (.unknown hentry hkey)
      rw [isError_unknownAt.mpr hphrase] at herror
      cases herror
  · rintro ⟨hunknown, hwords⟩ p hp
    obtain ⟨place, t, value, hentry, hkey, rfl⟩ :=
      exists_text_of_isUnknownKey htext hp (hunknown p hp)
    apply Bool.eq_false_of_not_eq_true
    intro herror
    exact hwords place t value hentry hkey (isError_unknownAt.mp herror)

end File

/-- How severe the problems of a mapping in a file are, where its keys are texts. The check fails on a port
that is too long to be shown. It lists everything there is to complain about otherwise: each violation as an
error, and a key that is not known as an error if and only if the words of one stand in it; so the file can
be used if and only if what stands under known keys is as it should be, and no other key has such words. -/
theorem file_severity (path : Path) (data : Entries) (w : World) (hfile : IsWritten w.files path data)
    (htext : HasTextKeys data) :
    (HasLongPort data → (checkFile path w).1 = .error .longNumber) ∧
    (¬ HasLongPort data → ∃ problems : List Problem,
      (checkFile path w).1 = .ok (problems.map .problem) ∧
      (∀ p, p ∈ problems ↔ Complaint data p) ∧
      (∀ p ∈ problems, p.isUnknownKey = false → p.isError = true) ∧
      (∀ p ∈ problems, p.isUnknownKey = true → ∃ place t value,
        HasEntry data place (.text t, value) ∧ ¬ IsKnown place (.text t) ∧
        p = unknownAt place (.text t) (suggestionAt place (.text t)) ∧
        (p.isError = true ↔ HoldsPhrase t)) ∧
      (isUsable (problems.map .problem) = true ↔ Fits data ∧
        ∀ place t value, HasEntry data place (.text t, value) → ¬ IsKnown place (.text t) →
          ¬ HoldsPhrase t)) := by
  refine ⟨checkFile_of_hasLongPort hfile htext, fun hport => ?_⟩
  have hmem (p : Problem) : p ∈ (review (.map data)).problems ↔ Complaint data p :=
    mem_problems_review htext.isSearched hport
  refine ⟨_, checkFile_ok hfile htext hport, hmem, fun p _ => isError_of_not_isUnknownKey, ?_,
    isUsable_iff htext hport⟩
  intro p hp hunknown
  obtain ⟨place, t, value, hentry, hkey, rfl⟩ :=
    exists_text_of_isUnknownKey htext ((hmem p).mp hp) hunknown
  exact ⟨place, t, value, hentry, hkey, rfl, isError_unknownAt⟩

/-- The text of a file whose only key is not known. -/
def wordyText : String := "'must be a': ''\n"

/-- What the file holds. -/
def wordyData : Entries := [(.text "must be a", .text "")]

/-- A world with that file. -/
def wordyWorld : World where
  files := { tree := ⟨[(["c"], .file wordyText.toUTF8.toList false)]⟩, cwd := [] }

/-- Where the file is. -/
def wordyPath : Path := ⟨.relative, ["c"]⟩

theorem isWritten_wordyData : IsWritten wordyWorld.files wordyPath wordyData where
  there := by cbv
  read := by
    refine ⟨wordyText.toUTF8.toList, by cbv, ?_⟩
    have htokens : Yaml.TokenStream.ofSource (.ofFile wordyText.toUTF8.toList) =
        ⟨#[.blockMappingStart, .key, .scalar "must be a" false, .value, .scalar "" false, .blockEnd,
          .streamEnd], none⟩ := by cbv
    rw [Yaml.load, htokens]
    rfl

theorem hasTextKeys_wordyData : HasTextKeys wordyData := hasTextKeys_of_forall (by simp [wordyData])

theorem field?_wordyData (s : Section) : wordyData.field? s.name = none := by cases s <;> decide

theorem not_hasLongPort_wordyData : ¬ HasLongPort wordyData := by
  rintro ⟨n, hvalue, _⟩
  cases hvalue

private theorem not_isKnown_wordyData : ¬ IsKnown none (.text "must be a") := by
  rw [← topKeys_contains_iff]
  decide

/-- The file cannot be used. -/
theorem file_severity_wordyData :
    IsWritten wordyWorld.files wordyPath wordyData ∧ HasTextKeys wordyData ∧
      ∃ problems : List Problem, (checkFile wordyPath wordyWorld).1 = .ok (problems.map .problem) ∧
        isUsable (problems.map .problem) = false := by
  obtain ⟨problems, hcheck, _, _, _, husable⟩ := (file_severity wordyPath wordyData wordyWorld
    isWritten_wordyData hasTextKeys_wordyData).2 not_hasLongPort_wordyData
  refine ⟨isWritten_wordyData, hasTextKeys_wordyData, problems, hcheck, ?_⟩
  apply Bool.eq_false_of_not_eq_true
  intro h
  have hphrase : HoldsPhrase "must be a" := by decide
  exact (husable.mp h).2 none "must be a" (.text "") (.top (.head _)) not_isKnown_wordyData hphrase

/-- Nothing is wrong with the file but a key that is not known; this is an error all the same. -/
theorem unknown_key_as_error :
    Fits wordyData ∧ ∃ p, p.isUnknownKey = true ∧ p.isError = true ∧
      (checkFile wordyPath wordyWorld).1 = .ok [.problem p] ∧ isUsable [.problem p] = false := by
  have hfits : Fits wordyData := by
    refine ⟨fun s value hvalue => ?_, fun key value hentry => ?_, fun key value hvalue => ?_⟩
    · rw [field?_wordyData] at hvalue
      cases hvalue
    · obtain ⟨entries, hsection, _⟩ := hasEntry_some_iff.mp hentry
      rw [field?_wordyData] at hsection
      cases hsection
    · rw [Key.value?, sectionOf, field?_wordyData] at hvalue
      cases hvalue
  have herror : (unknownAt none (.text "must be a") (suggestionAt none (.text "must be a"))).isError =
      true := isError_unknownAt.mpr (by decide)
  refine ⟨hfits, _, rfl, herror, ?_, ?_⟩
  · rw [checkFile_ok isWritten_wordyData hasTextKeys_wordyData not_hasLongPort_wordyData]
    rfl
  · simp [isUsable, FileIssue.isError, herror]

end Config

end ScanLauncher
