import ScanLauncher.Proofs.Config.Reading
import ScanLauncher.Proofs.Config.Review

namespace ScanLauncher.Config

/-- What a check comes to is decided by the review. -/
theorem checkData_result (source : Text) (value : Value) (w : World) :
    (checkData source value w).1 = match (review value).stop with
      | none => .ok (review value).problems
      | some stop => .error stop.failure := by
  cases hstop : (review value).stop with
  | none =>
    obtain ⟨w', hcheck, _⟩ := endsIn_checkData hstop w rfl rfl
    rw [hcheck]
  | some stop =>
    obtain ⟨w', hcheck, _⟩ := endsIn_checkData_error hstop w rfl rfl
    rw [hcheck]

section Outcome

variable {data : Entries} (source : Text) (w : World)

theorem checkData_of_not_isSearched (h : ¬ IsSearched data) :
    (checkData source (.map data) w).1 = .error .wrongKind := by
  rw [checkData_result, stop_review_of_not_isSearched h]
  rfl

theorem checkData_of_hasLongPort (h : IsSearched data) (hport : HasLongPort data) :
    (checkData source (.map data) w).1 = .error .longNumber := by
  rw [checkData_result, stop_review_of_hasLongPort h hport]
  rfl

theorem checkData_ok (h : IsSearched data) (hport : ¬ HasLongPort data) :
    (checkData source (.map data) w).1 = .ok (review (.map data)).problems := by
  rw [checkData_result, stop_review h hport]

variable {source w}

/-- A check that returns was not stopped, and gives the problems of the review. -/
theorem searched_of_checkData {problems : List Problem}
    (h : (checkData source (.map data) w).1 = .ok problems) :
    IsSearched data ∧ ¬ HasLongPort data ∧ problems = (review (.map data)).problems := by
  by_cases hsearched : IsSearched data
  · by_cases hport : HasLongPort data
    · rw [checkData_of_hasLongPort source w hsearched hport] at h
      cases h
    · rw [checkData_ok source w hsearched hport] at h
      exact ⟨hsearched, hport, (Except.ok.inj h).symm⟩
  · rw [checkData_of_not_isSearched source w hsearched] at h
    cases h

end Outcome

/-- A check of anything but a mapping returns that one problem. A check of a mapping returns if and only
if every key is a text or bytes and the port is not too long to be shown; a key of another kind fails
it, and otherwise such a port. Whatever is returned, every key that is not known is in it. -/
theorem check_returns_iff (source : Text) (value : Value) (w : World) :
    ((∀ data, value ≠ .map data) →
      (checkData source value w).1 = .ok [.notMapping value.kind]) ∧
    ∀ data, value = .map data →
      ((∃ problems, (checkData source value w).1 = .ok problems) ↔
        IsSearched data ∧ ¬ HasLongPort data) ∧
      (¬ IsSearched data → (checkData source value w).1 = .error .wrongKind) ∧
      (IsSearched data → HasLongPort data → (checkData source value w).1 = .error .longNumber) ∧
      ∀ problems, (checkData source value w).1 = .ok problems →
        ∀ place entry, HasEntry data place entry → ¬ IsKnown place entry.1 →
          unknownAt place entry.1 (suggestionAt place entry.1) ∈ problems := by
  refine ⟨fun hother => ?_, ?_⟩
  · have hreview : review value = .one (.notMapping value.kind) := by
      cases value with
      | map data => exact absurd rfl (hother data)
      | _ => rfl
    rw [checkData_result, hreview]
    rfl
  · rintro data rfl
    refine ⟨?_, checkData_of_not_isSearched source w, checkData_of_hasLongPort source w, ?_⟩
    · constructor
      · rintro ⟨problems, h⟩
        obtain ⟨hsearched, hport, _⟩ := searched_of_checkData h
        exact ⟨hsearched, hport⟩
      · rintro ⟨hsearched, hport⟩
        exact ⟨_, checkData_ok source w hsearched hport⟩
    · intro problems h place entry hentry hkey
      obtain ⟨hsearched, hport, rfl⟩ := searched_of_checkData h
      exact (mem_problems_review hsearched hport).mpr (.unknown hentry hkey)

/-- Data whose only key is a number. -/
def numberedKey : Entries := [(.int 1, .text "x")]

/-- Not every check returns: a number cannot be compared with the known keys. -/
theorem check_not_total :
    (∀ source w, (checkData source (.map numberedKey) w).1 = .error .wrongKind) ∧
      ¬ ∀ source value w, ∃ problems, (checkData source value w).1 = .ok problems := by
  have hnot : ¬ IsSearched numberedKey := by
    intro h
    have hkey := h none (.int 1, .text "x") (.top (.head _))
    simp [IsSearchable] at hkey
  refine ⟨fun source w => checkData_of_not_isSearched source w hnot, fun h => ?_⟩
  obtain ⟨problems, hok⟩ := h "c" (.map numberedKey) { files := { tree := ⟨[]⟩, cwd := [] } }
  rw [checkData_of_not_isSearched _ _ hnot] at hok
  cases hok

end ScanLauncher.Config
