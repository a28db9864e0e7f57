import Mathlib.Algebra.Order.Field.Power
import Mathlib.Data.Rat.Cast.Order
import Mathlib.Order.Compare
import Mathlib.Tactic.GCongr
import Mathlib.Tactic.Positivity
import Mathlib.Tactic.Ring
import ScanLauncher.Proofs.Number.Overflow

namespace ScanLauncher.Binary64

/-- What a finite double amounts to. -/
def toRat? (x : Binary64) : Option ℚ := x.signedRatio?.map fun (num, den) => num / den

private theorem compare_cross {a c : Int} {b d : Nat} (hb : 0 < b) (hd : 0 < d) :
    compare (a * d) (c * b) = compare (a / b : ℚ) (c / d) := by
  have hb' : (0 : ℚ) < b := Nat.cast_pos.mpr hb
  have hd' : (0 : ℚ) < d := Nat.cast_pos.mpr hd
  have hlt {a c : Int} {b d : Nat} (hb : (0 : ℚ) < b) (hd : (0 : ℚ) < d) :
      (a / b : ℚ) < c / d ↔ a * d < c * b := by
    rw [div_lt_div_iff₀ hb hd]
    exact_mod_cast Iff.rfl
  rcases lt_trichotomy (a / b : ℚ) (c / d) with hless | heq | hmore
  · rw [compare_lt_iff_lt.mpr hless, compare_lt_iff_lt.mpr ((hlt hb' hd').mp hless)]
  · rw [compare_eq_iff_eq.mpr heq, compare_eq_iff_eq.mpr]
    rw [div_eq_div_iff hb'.ne' hd'.ne'] at heq
    exact_mod_cast heq
  · rw [compare_gt_iff_gt.mpr hmore, compare_gt_iff_gt.mpr ((hlt hd' hb').mp hmore)]

theorem compare?_of_toRat? {x y : Binary64} {q r : ℚ} (hx : x.toRat? = some q)
    (hy : y.toRat? = some r) : x.compare? y = some (compare q r) := by
  cases x with
  | nan => cases hx
  | infinity negative => cases hx
  | finite negative significand exponent =>
    cases y with
    | nan => cases hy
    | infinity negative => cases hy
    | finite negative' significand' exponent' =>
      obtain rfl := Option.some.inj hx
      obtain rfl := Option.some.inj hy
      exact congrArg some (compare_cross (powerOfTwo_pos _) (powerOfTwo_pos _))

private theorem div_le_roundDiv (num den : Nat) : num / den ≤ roundDiv num den := by
  dsimp only [roundDiv]
  split <;> omega

theorem roundDiv_mono {num num' : Nat} (h : num ≤ num') (den : Nat) :
    roundDiv num den ≤ roundDiv num' den := by
  rcases Nat.lt_or_eq_of_le (Nat.div_le_div_right (c := den) h) with hless | hsame
  · have hround := roundDiv_le num den
    have hround' := div_le_roundDiv num' den
    omega
  · -- With one quotient the remainders decide.
    have hparts := Nat.div_add_mod num den
    have hparts' := Nat.div_add_mod num' den
    have hrest : num % den ≤ num' % den := by
      rw [hsame] at hparts
      omega
    dsimp only [roundDiv]
    rw [hsame]
    split <;> split <;> grind

theorem roundDiv_mul (m : Nat) {den : Nat} (hden : 0 < den) : roundDiv (m * den) den = m := by
  simp [roundDiv, Nat.mul_div_cancel m hden, hden]

theorem cast_powerOfTwo (k : Nat) : (powerOfTwo k : ℚ) = 2 ^ k := by
  simp [powerOfTwo]

theorem powerOfTwo_div (e : Int) :
    (powerOfTwo e.toNat : ℚ) / powerOfTwo (-e).toNat = 2 ^ e := by
  rw [cast_powerOfTwo, cast_powerOfTwo]
  obtain ⟨k, rfl | rfl⟩ := e.eq_nat_or_neg
  · simp
  · simp

/-- The bounds of a positive natural by its logarithm. -/
theorem log2_bounds {n : Nat} (hn : n ≠ 0) :
    (2 : ℚ) ^ (n.log2 : Int) ≤ n ∧ (n : ℚ) < 2 ^ ((n.log2 : Int) + 1) := by
  constructor
  · exact_mod_cast Nat.log2_self_le hn
  · exact_mod_cast (Nat.lt_log2_self : n < 2 ^ (n.log2 + 1))

private theorem lt_powerOfTwo_iff {num den : Nat} (hden : den ≠ 0) (k : Int) :
    num * powerOfTwo (-k).toNat < den * powerOfTwo k.toNat ↔ (num / den : ℚ) < 2 ^ k := by
  have hden' : (0 : ℚ) < den := Nat.cast_pos.mpr (Nat.pos_of_ne_zero hden)
  have hdown : (0 : ℚ) < powerOfTwo (-k).toNat := Nat.cast_pos.mpr (powerOfTwo_pos _)
  rw [← powerOfTwo_div, div_lt_div_iff₀ hden' hdown, mul_comm (powerOfTwo k.toNat : ℚ)]
  exact_mod_cast Iff.rfl

/-- The binade of a ratio. -/
theorem floorLog_bounds {num den : Nat} (hnum : num ≠ 0) (hden : den ≠ 0) :
    (2 : ℚ) ^ floorLog num den ≤ num / den ∧ (num / den : ℚ) < 2 ^ (floorLog num den + 1) := by
  obtain ⟨hnumLow, hnumHigh⟩ := log2_bounds hnum
  obtain ⟨hdenLow, hdenHigh⟩ := log2_bounds hden
  have hden' : (0 : ℚ) < den := Nat.cast_pos.mpr (Nat.pos_of_ne_zero hden)
  let k : Int := (num.log2 : Int) - den.log2
  have hlow : (2 : ℚ) ^ (k - 1) ≤ num / den := by
    rw [le_div_iff₀ hden']
    calc (2 : ℚ) ^ (k - 1) * den ≤ 2 ^ (k - 1) * 2 ^ ((den.log2 : Int) + 1) := by gcongr
      _ = 2 ^ (num.log2 : Int) := by
        rw [← zpow_add₀ two_ne_zero]
        congr 1
        omega
      _ ≤ num := hnumLow
  have hhigh : (num / den : ℚ) < 2 ^ (k + 1) := by
    rw [div_lt_iff₀ hden']
    calc (num : ℚ) < 2 ^ ((num.log2 : Int) + 1) := hnumHigh
      _ = 2 ^ (k + 1) * 2 ^ (den.log2 : Int) := by
        rw [← zpow_add₀ two_ne_zero]
        congr 1
        omega
      _ ≤ 2 ^ (k + 1) * den := by gcongr
  have hfloor : floorLog num den = if (num / den : ℚ) < 2 ^ k then k - 1 else k := by
    simp only [floorLog, lt_powerOfTwo_iff hden, k]
  rw [hfloor]
  split
  · rename_i hless
    exact ⟨hlow, by rwa [Int.sub_add_cancel]⟩
  · rename_i hmore
    exact ⟨not_lt.mp hmore, hhigh⟩

private theorem floorLog_mono {num num' den : Nat} (hnum : num ≠ 0) (hden : den ≠ 0) (h : num ≤ num') :
    floorLog num den ≤ floorLog num' den := by
  have hnum' : num' ≠ 0 := by omega
  have hratio : (num / den : ℚ) ≤ num' / den := by gcongr
  have hpow : (2 : ℚ) ^ floorLog num den < 2 ^ (floorLog num' den + 1) :=
    (floorLog_bounds hnum hden).1.trans_lt (hratio.trans_lt (floorLog_bounds hnum' hden).2)
  exact Int.lt_add_one_iff.mp ((zpow_lt_zpow_iff_right₀ one_lt_two).mp hpow)

/-- The exponent of the grid on which a ratio is rounded. -/
def gridOf (num den : Nat) : Int := max (floorLog num den - 52) leastExponent

/-- The number of grid steps to which a ratio is rounded. -/
def stepsOf (num den : Nat) : Nat :=
  roundDiv (num * powerOfTwo (-gridOf num den).toNat) (den * powerOfTwo (gridOf num den).toNat)

theorem toRat?_finite (significand : Nat) (exponent : Int) :
    (finite false significand exponent).toRat? = some ((significand : ℚ) * 2 ^ exponent) := by
  have hvalue :
      ((significand * powerOfTwo exponent.toNat : Nat) : ℚ) / powerOfTwo (-exponent).toNat =
        significand * 2 ^ exponent := by
    rw [Nat.cast_mul, mul_div_assoc, powerOfTwo_div]
  rw [← hvalue]
  rfl

private theorem gridOf_le {num den : Nat} (hnum : num ≠ 0) (hle : num ≤ den) : gridOf num den ≤ -52 := by
  have hden : den ≠ 0 := by omega
  have hratio : (num / den : ℚ) ≤ 1 := div_le_one_of_le₀ (Nat.cast_le.mpr hle) (Nat.cast_nonneg den)
  have hpow : (2 : ℚ) ^ floorLog num den ≤ 2 ^ (0 : Int) := by
    rw [zpow_zero]
    exact (floorLog_bounds hnum hden).1.trans hratio
  have hlog : floorLog num den ≤ 0 := (zpow_le_zpow_iff_right₀ one_lt_two).mp hpow
  rw [gridOf, leastExponent]
  omega

/-- A ratio up to one is rounded to a finite double on its grid. -/
theorem toRat?_ofRatio {num den : Nat} (hnum : num ≠ 0) (hle : num ≤ den) :
    (ofRatio false num den).toRat? = some ((stepsOf num den : ℚ) * 2 ^ gridOf num den) := by
  have hgrid := gridOf_le hnum hle
  have hzero : (num == 0) = false := by simpa using hnum
  have hround : ofRatio false num den =
      if stepsOf num den == powerOfTwo 53 then
        finite false (powerOfTwo 52) (gridOf num den + 1)
      else finite false (stepsOf num den) (gridOf num den) := by
    dsimp only [ofRatio]
    simp only [hzero, Bool.false_eq_true, if_false]
    rw [← gridOf, ← stepsOf]
    split <;> exact if_neg (by rw [greatestExponent]; omega)
  rw [hround]
  split
  · -- A carry out of the binade is the same number on the next grid.
    rename_i hcarry
    rw [toRat?_finite, eq_of_beq hcarry, cast_powerOfTwo, cast_powerOfTwo,
      zpow_add_one₀ two_ne_zero]
    congr 1
    ring
  · exact toRat?_finite _ _

/-- The double nearest to a ratio up to one, as a rational. -/
def rounded (num den : Nat) : ℚ := if num = 0 then 0 else stepsOf num den * 2 ^ gridOf num den

theorem toRat?_ofRatio_of_le {num den : Nat} (hle : num ≤ den) :
    (ofRatio false num den).toRat? = some (rounded num den) := by
  by_cases hnum : num = 0
  · have hzero := toRat?_finite 0 leastExponent
    rw [Nat.cast_zero, zero_mul] at hzero
    rw [rounded, if_pos hnum, hnum]
    exact hzero
  · rw [rounded, if_neg hnum]
    exact toRat?_ofRatio hnum hle

/-- A ratio in steps of a grid. -/
theorem scaled_div (num den : Nat) (grid : Int) :
    ((num * powerOfTwo (-grid).toNat : Nat) : ℚ) / (den * powerOfTwo grid.toNat : Nat) =
      num / den / 2 ^ grid := by
  rw [Nat.cast_mul, Nat.cast_mul, mul_div_mul_comm, ← powerOfTwo_div, div_div_eq_mul_div,
    mul_div_assoc]

private theorem stepsOf_le {num den m : Nat} (hden : den ≠ 0)
    (h : (num / den : ℚ) ≤ m * 2 ^ gridOf num den) : stepsOf num den ≤ m := by
  have hstep : 0 < den * powerOfTwo (gridOf num den).toNat :=
    Nat.mul_pos (Nat.pos_of_ne_zero hden) (powerOfTwo_pos _)
  rw [← div_le_iff₀ (zpow_pos two_pos _), ← scaled_div, div_le_iff₀ (Nat.cast_pos.mpr hstep)] at h
  have hround : stepsOf num den ≤ roundDiv (m * _) _ := roundDiv_mono (by exact_mod_cast h) _
  rwa [roundDiv_mul m hstep] at hround

private theorem le_stepsOf {num den m : Nat} (hden : den ≠ 0)
    (h : m * 2 ^ gridOf num den ≤ (num / den : ℚ)) : m ≤ stepsOf num den := by
  have hstep : 0 < den * powerOfTwo (gridOf num den).toNat :=
    Nat.mul_pos (Nat.pos_of_ne_zero hden) (powerOfTwo_pos _)
  rw [← le_div_iff₀ (zpow_pos two_pos _), ← scaled_div, le_div_iff₀ (Nat.cast_pos.mpr hstep)] at h
  have hround : roundDiv (m * _) _ ≤ stepsOf num den := roundDiv_mono (by exact_mod_cast h) _
  rwa [roundDiv_mul m hstep] at hround

private theorem stepsOf_mul_le {num den : Nat} (hnum : num ≠ 0) (hden : den ≠ 0) {k : Int}
    (hlog : floorLog num den + 1 ≤ k) (hgrid : gridOf num den ≤ k) :
    (stepsOf num den : ℚ) * 2 ^ gridOf num den ≤ 2 ^ k := by
  obtain ⟨m, hm⟩ : ∃ m : Nat, (m : Int) + gridOf num den = k :=
    ⟨(k - gridOf num den).toNat, by omega⟩
  have htop : (powerOfTwo m : ℚ) * 2 ^ gridOf num den = 2 ^ k := by
    rw [cast_powerOfTwo, ← zpow_natCast, ← zpow_add₀ two_ne_zero, hm]
  have hsteps : stepsOf num den ≤ powerOfTwo m := by
    apply stepsOf_le hden
    rw [htop]
    exact (floorLog_bounds hnum hden).2.le.trans (zpow_le_zpow_right₀ one_le_two hlog)
  rw [← htop]
  gcongr

private theorem le_stepsOf_mul {num den : Nat} (hnum : num ≠ 0) (hden : den ≠ 0)
    (hgrid : gridOf num den = floorLog num den - 52) :
    (2 : ℚ) ^ floorLog num den ≤ stepsOf num den * 2 ^ gridOf num den := by
  have hbottom : (powerOfTwo 52 : ℚ) * 2 ^ gridOf num den = 2 ^ floorLog num den := by
    rw [cast_powerOfTwo, ← zpow_natCast, ← zpow_add₀ two_ne_zero, hgrid]
    congr 1
    omega
  have hsteps : powerOfTwo 52 ≤ stepsOf num den := by
    apply le_stepsOf hden
    rw [hbottom]
    exact (floorLog_bounds hnum hden).1
  rw [← hbottom]
  gcongr

/-- Rounding keeps the order. -/
theorem rounded_mono {num num' den : Nat} (h : num ≤ num') (hle : num' ≤ den) :
    rounded num den ≤ rounded num' den := by
  by_cases hnum : num = 0
  · rw [rounded, if_pos hnum, rounded]
    split
    · exact le_rfl
    · positivity
  have hnum' : num' ≠ 0 := by omega
  have hden : den ≠ 0 := by omega
  rw [rounded, if_neg hnum, rounded, if_neg hnum']
  have hlogs := floorLog_mono hnum hden h
  by_cases hgrids : gridOf num den = gridOf num' den
  · have hsteps : stepsOf num den ≤ stepsOf num' den := by
      rw [stepsOf, stepsOf, hgrids]
      exact roundDiv_mono (Nat.mul_le_mul_right _ h) _
    rw [hgrids]
    gcongr
  · -- On different grids the lower end of the upper binade lies between the two.
    have hgrid : gridOf num' den = floorLog num' den - 52 := by
      unfold gridOf at hgrids ⊢
      omega
    have hbelow := stepsOf_mul_le hnum hden (k := floorLog num' den)
      (by unfold gridOf at hgrids; omega) (by unfold gridOf at hgrids ⊢; omega)
    exact hbelow.trans (le_stepsOf_mul hnum' hden hgrid)

end ScanLauncher.Binary64
