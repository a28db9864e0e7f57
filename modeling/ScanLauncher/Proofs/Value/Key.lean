import ScanLauncher.Proofs.Number.Overflow
import ScanLauncher.Value.Basic

namespace ScanLauncher

/-- What a number amounts to. -/
inductive Amount where
  | finite (q : Rat)
  | infinite (negative : Bool)
  | nan (label : Nat)

/-- What a key stands for. -/
inductive KeyMeaning where
  | null
  | amount (a : Amount)
  | text (s : Text)
  | bytes (content : List UInt8)
  | date (d : Date)
  /-- A point in time: universal, or on a clock nobody knows where. -/
  | time (isUniversal : Bool) (micros : Int)

namespace Binary64

/-- What a double amounts to as a key. A NaN without a label is no key. -/
def amount? (x : Binary64) (label : Nat) : Option Amount :=
  match x with
  | nan => if label = 0 then none else some (.nan label)
  | infinity negative => some (.infinite negative)
  | x => x.signedRatio?.map fun (num, den) => .finite (mkRat num den)

end Binary64

/-- What an integer amounts to. -/
def Amount.ofInt (n : Int) : Amount := .finite (mkRat n 1)

namespace Value

/-- What a value stands for as a key. Collections are no keys. -/
def keyMeaning? : Value → Option KeyMeaning
  | null => some .null
  | bool b => some (.amount (.ofInt (if b then 1 else 0)))
  | int n => some (.amount (.ofInt n))
  | float x label => (x.amount? label).map .amount
  | text s => some (.text s)
  | bytes content => some (.bytes content)
  | date d => some (.date d)
  | moment m => some (.time m.offset.isSome (m.localMicros - m.offset.getD 0 * 60000000))
  | list _ | pair _ _ | map _ | set _ | cycle _ => none

/-- A key that is no NaN. -/
def IsDefiniteKey : Value → Prop
  | null | bool _ | int _ | text _ | bytes _ | date _ | moment _ => True
  | float x _ => x ≠ .nan
  | list _ | pair _ _ | map _ | set _ | cycle _ => False

end Value

private theorem Amount.ofInt_inj {m n : Int} : ofInt m = ofInt n ↔ m = n := by
  simp [ofInt, Rat.mkRat_eq_iff]

namespace Binary64

/-- A finite double is a ratio. -/
theorem exists_ratio (negative : Bool) (significand : Nat) (exponent : Int) :
    ∃ num den, den ≠ 0 ∧ (finite negative significand exponent).signedRatio? = some (num, den) :=
  ⟨_, _, Nat.ne_of_gt (powerOfTwo_pos _), rfl⟩

theorem compareInt?_eq_iff {x : Binary64} {n : Int} (label : Nat) :
    x.compareInt? n = some .eq ↔ x.amount? label = some (.ofInt n) := by
  cases x with
  | nan => by_cases h : label = 0 <;> simp [compareInt?, amount?, Amount.ofInt, h]
  | infinity negative => cases negative <;> simp [compareInt?, amount?, Amount.ofInt]
  | finite negative significand exponent =>
    obtain ⟨num, den, hden, hratio⟩ := exists_ratio negative significand exponent
    simp [compareInt?, amount?, Amount.ofInt, hratio, Rat.mkRat_eq_iff hden]

private theorem sameFloat_iff {x y : Binary64} {label other : Nat} : Value.sameFloat x label y other = true ↔
    (x.amount? label).isSome = true ∧ x.amount? label = y.amount? other := by
  cases x with
  | nan =>
    cases y with
    | nan => by_cases h : label = 0 <;> by_cases h' : other = 0 <;>
        simp [Value.sameFloat, compare?, amount?, h, h']
    | infinity negative => by_cases h : label = 0 <;> simp [Value.sameFloat, compare?, amount?, h]
    | finite negative significand exponent =>
      obtain ⟨num, den, _, hratio⟩ := exists_ratio negative significand exponent
      by_cases h : label = 0 <;> simp [Value.sameFloat, compare?, amount?, hratio, h]
  | infinity negative =>
    cases y with
    | nan => by_cases h : other = 0 <;> simp [Value.sameFloat, compare?, amount?, h]
    | infinity negative' =>
      cases negative <;> cases negative' <;> simp [Value.sameFloat, compare?, amount?]
    | finite negative' significand exponent =>
      obtain ⟨num, den, _, hratio⟩ := exists_ratio negative' significand exponent
      cases negative <;> simp [Value.sameFloat, compare?, amount?, hratio]
  | finite negative significand exponent =>
    obtain ⟨num, den, hden, hratio⟩ := exists_ratio negative significand exponent
    cases y with
    | nan => by_cases h : other = 0 <;> simp [Value.sameFloat, compare?, amount?, hratio, h]
    | infinity negative' => cases negative' <;> simp [Value.sameFloat, compare?, amount?, hratio]
    | finite negative' significand' exponent' =>
      obtain ⟨num', den', hden', hratio'⟩ := exists_ratio negative' significand' exponent'
      simp [Value.sameFloat, compare?, amount?, hratio, hratio', Rat.mkRat_eq_iff hden hden']

end Binary64

private theorem Moment.same_iff {m n : Moment} : m.same n = true ↔ m.offset.isSome = n.offset.isSome ∧
    m.localMicros - m.offset.getD 0 * 60000000 = n.localMicros - n.offset.getD 0 * 60000000 := by
  unfold same
  cases m.offset <;> cases n.offset <;> simp

namespace Value

section Same

variable {a b c : Value}

theorem isSome_and_eq_comm {α : Type} {o o' : Option α} :
    o.isSome = true ∧ o = o' ↔ o'.isSome = true ∧ o' = o := by
  constructor <;> (rintro ⟨h, rfl⟩; exact ⟨h, rfl⟩)

theorem float_sameKey_iff {x : Binary64} {label : Nat} : (float x label).sameKey b = true ↔
    (float x label).keyMeaning?.isSome = true ∧ (float x label).keyMeaning? = b.keyMeaning? := by
  cases b with
  | bool b | int n =>
    simp only [sameKey, asNumber, keyMeaning?, beq_iff_eq, Binary64.compareInt?_eq_iff label]
    cases x.amount? label <;> simp
  | float y other =>
    simp only [sameKey, asNumber, keyMeaning?, Binary64.sameFloat_iff]
    cases x.amount? label <;> cases y.amount? other <;> simp
  | _ =>
    simp only [sameKey, asNumber, keyMeaning?]
    cases x.amount? label <;> simp

private theorem sameKey_float {x : Binary64} {label : Nat} :
    a.sameKey (float x label) = (float x label).sameKey a := by
  cases a with
  | float y other =>
    apply Bool.eq_iff_iff.mpr
    rw [float_sameKey_iff, float_sameKey_iff, isSome_and_eq_comm]
  | _ => rfl

/-- Two values are one key if they stand for the same. -/
theorem sameKey_iff :
    a.sameKey b = true ↔ a.keyMeaning?.isSome = true ∧ a.keyMeaning? = b.keyMeaning? := by
  cases b with
  | float y other => rw [sameKey_float, float_sameKey_iff, isSome_and_eq_comm]
  | _ =>
    cases a with
    | float x label => exact float_sameKey_iff
    | _ => simp [sameKey, asNumber, keyMeaning?, Moment.same_iff, Amount.ofInt_inj]

theorem sameKey_comm (a b : Value) : a.sameKey b = b.sameKey a := by
  apply Bool.eq_iff_iff.mpr
  rw [sameKey_iff, sameKey_iff, isSome_and_eq_comm]

theorem sameKey_trans (hab : a.sameKey b = true) (hbc : b.sameKey c = true) : a.sameKey c = true := by
  rw [sameKey_iff] at hab hbc ⊢
  exact ⟨hab.1, hab.2.trans hbc.2⟩

/-- Values that are one key are one key with the same values. -/
theorem sameKey_congr (h : a.sameKey b = true) (c : Value) : a.sameKey c = b.sameKey c := by
  apply Bool.eq_iff_iff.mpr
  exact ⟨sameKey_trans (sameKey_comm a b ▸ h), sameKey_trans h⟩

/-- A definite key is one key with itself. -/
theorem IsDefiniteKey.sameKey_self (h : a.IsDefiniteKey) : a.sameKey a = true := by
  refine sameKey_iff.mpr ⟨?_, rfl⟩
  cases a with
  | float x label =>
    cases x with
    | nan => exact absurd rfl h
    | infinity | finite => rfl
  | list | pair | map | set | cycle => exact h.elim
  | _ => rfl

end Same

end Value

namespace Entries

variable {entries : Entries} {key key' value : Value}

theorem get?_cons (first : Value × Value) (rest : Entries) (key : Value) :
    get? (first :: rest) key = if first.1.sameKey key then some first.2 else get? rest key := by
  unfold get?
  rw [List.find?_cons]
  cases first.1.sameKey key <;> rfl

theorem get?_congr (h : key.sameKey key' = true) (entries : Entries) :
    entries.get? key = entries.get? key' := by
  have hsame (k : Value) : k.sameKey key = k.sameKey key' := by
    rw [k.sameKey_comm, k.sameKey_comm, Value.sameKey_congr h]
  simp only [get?, hsame]

theorem exists_mem_of_get? (h : entries.get? key = some value) :
    ∃ entry ∈ entries, entry.1.sameKey key = true ∧ entry.2 = value := by
  obtain ⟨entry, hfound, rfl⟩ := Option.map_eq_some_iff.mp h
  have hkey : entry.1.sameKey key = true := by simpa using List.find?_some hfound
  exact ⟨entry, List.mem_of_find?_eq_some hfound, hkey, rfl⟩

/-- An insertion changes what is found under its own key only. -/
theorem get?_insert (entries : Entries) (key value key' : Value) :
    (entries.insert key value).get? key' =
      if key.sameKey key' then some value else entries.get? key' := by
  induction entries with
  | nil => exact get?_cons (key, value) [] key'
  | cons first rest ih =>
    obtain ⟨k, v⟩ := first
    rw [Entries.insert]
    cases hfirst : k.sameKey key with
    | true =>
      rw [if_pos rfl, get?_cons, get?_cons, Value.sameKey_congr hfirst]
      cases key.sameKey key' <;> rfl
    | false =>
      rw [if_neg Bool.false_ne_true, get?_cons, get?_cons, ih]
      by_cases hkey : k.sameKey key' = true
      · have hother : key.sameKey key' = false := by
          rw [key.sameKey_comm, ← Value.sameKey_congr hkey, hfirst]
        simp [hkey, hother]
      · simp [hkey]

end Entries

end ScanLauncher
