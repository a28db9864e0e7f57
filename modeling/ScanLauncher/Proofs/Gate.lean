import ScanLauncher.Gate
import ScanLauncher.Proofs.Action

namespace ScanLauncher

namespace Gate

/-- Whether a lock has been entered into the registry. -/
def Registered (gate : Gate) (key : Path) : Prop := (gate.locks.lookup key).isSome = true

private theorem lookup_mark (locks : List (Path × Bool)) (key other : Path) (held : Bool) :
    (locks.map fun (k, h) => if k == key then (k, held) else (k, h)).lookup other =
      if other = key then (locks.lookup key).map fun _ => held else locks.lookup other := by
  induction locks with
  | nil => simp
  | cons lock rest ih =>
    obtain ⟨k, h⟩ := lock
    simp only [List.map_cons]
    by_cases hk : k = key
    · subst hk
      by_cases hother : other = k
      · simp [hother]
      · have hne : (other == k) = false := by simpa using hother
        simp only [beq_self_eq_true, if_true, List.lookup_cons, hne, ih, hother, if_false]
    · have hkey : (k == key) = false := by simpa using hk
      simp only [hkey, Bool.false_eq_true, if_false, List.lookup_cons, ih]
      by_cases hother : other = k
      · subst hother
        simp [hk]
      · have hne : (other == k) = false := by simpa using hother
        have hne' : (key == k) = false := by simpa using Ne.symm hk
        simp only [hne, hne']

@[simp] theorem isHeld_register (gate : Gate) (key other : Path) :
    (gate.register key).isHeld other = gate.isHeld other := by
  unfold register
  split
  · rfl
  · rename_i hnew
    simp only [isHeld, List.lookup_append]
    cases hother : gate.locks.lookup other with
    | some held => rfl
    | none =>
      by_cases hsame : other = key
      · simp [hsame]
      · have hne : (other == key) = false := by simpa using hsame
        simp [List.lookup_cons, hne]

theorem registered_register (gate : Gate) (key : Path) : (gate.register key).Registered key := by
  unfold register
  split
  · assumption
  · simp [Registered, List.lookup_append]

theorem registered_of_isHeld {gate : Gate} {key : Path} (hheld : gate.isHeld key = true) :
    gate.Registered key := by
  cases hlock : gate.locks.lookup key with
  | none => simp [isHeld, hlock] at hheld
  | some held => simp [Registered, hlock]

theorem isHeld_mark {gate : Gate} {key : Path} (hkey : gate.Registered key) (other : Path)
    (held : Bool) :
    (gate.mark key held).isHeld other = if other = key then held else gate.isHeld other := by
  obtain ⟨h, hlock⟩ := Option.isSome_iff_exists.mp hkey
  simp only [isHeld, mark, lookup_mark]
  split <;> simp [hlock]

/-- The registry after a lock was taken. -/
def taken (gate : Gate) (key : Path) : Gate := (gate.register key).mark key true

theorem isHeld_taken (gate : Gate) (key other : Path) :
    (gate.taken key).isHeld other = true ↔ gate.isHeld other = true ∨ key = other := by
  rw [taken, isHeld_mark (registered_register gate key)]
  by_cases hsame : other = key
  · simp [hsame]
  · have hother : key ≠ other := Ne.symm hsame
    simp [hsame, hother]

/-- A lock that was free is free again when it was taken and given back. -/
theorem isHeld_mark_taken {gate : Gate} {key : Path} (hfree : gate.isHeld key = false)
    (other : Path) : ((gate.taken key).mark key false).isHeld other = gate.isHeld other := by
  have htaken : (gate.taken key).isHeld key = true := (isHeld_taken gate key key).mpr (.inr rfl)
  rw [isHeld_mark (registered_of_isHeld htaken), taken, isHeld_mark (registered_register gate key)]
  by_cases hsame : other = key
  · simp [hsame, hfree]
  · simp [hsame]

variable {reportDir key : Path} {wait : Seconds} {w : World}

theorem lockFor_ok (hresolve : w.files.resolve reportDir.text = .ok key) :
    lockFor reportDir w = (.ok key, { w with gate := w.gate.register key }) := by
  simp [lockFor, hresolve, Act.ofExcept, Except.map]

private theorem lockFor_error {fault : ResolveFault}
    (hresolve : w.files.resolve reportDir.text = .error fault) :
    lockFor reportDir w = (.error (.ofResolveFault reportDir.text fault), w) := by
  simp [lockFor, hresolve, Act.ofExcept]

theorem acquire_lost {fault : ResolveFault}
    (hresolve : w.files.resolve reportDir.text = .error fault) :
    acquire reportDir wait w = (.error (.ofResolveFault reportDir.text fault), w) := by
  simp [acquire, lockFor_error hresolve]

theorem acquire_tooLong (hresolve : w.files.resolve reportDir.text = .ok key)
    (hwait : isTooLong wait = true) :
    acquire reportDir wait w = (.error .tooLarge, { w with gate := w.gate.register key }) := by
  simp [acquire, lockFor_ok hresolve, take, hwait]

/-- A lock that is held is not taken, and the attempt leaves only a record of itself. -/
theorem acquire_held (hresolve : w.files.resolve reportDir.text = .ok key)
    (hwait : isTooLong wait = false) (hheld : w.gate.isHeld key = true) :
    ∃ w', acquire reportDir wait w = (.error .busy, w') ∧
      { w with gate := w.gate.register key }.RecordsOnly w' :=
  ⟨_, by simp [acquire, lockFor_ok hresolve, take, hwait, hheld, Except.map]; rfl,
    World.recordsOnly_note _ _ _ _⟩

theorem acquire_free (hresolve : w.files.resolve reportDir.text = .ok key)
    (hwait : isTooLong wait = false) (hfree : w.gate.isHeld key = false) :
    acquire reportDir wait w =
      (.ok key, { w with gate := w.gate.taken key }) := by
  simp [acquire, lockFor_ok hresolve, take, hwait, hfree, Except.map, taken]

theorem release_held (hheld : w.gate.isHeld key = true) :
    release key w = (.ok (), { w with gate := w.gate.mark key false }) := by
  simp [release, hheld]

end Gate

end ScanLauncher
