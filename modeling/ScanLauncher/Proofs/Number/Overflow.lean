import ScanLauncher.Number.Binary64

namespace ScanLauncher.Binary64

/-- The least magnitude that is rounded out of a binade, whose grid has the half step `2 ^ k`: that
half step below the end of the binade. -/
def carryBound (k : Nat) : Nat := powerOfTwo (54 + k) - powerOfTwo k

/-- The least magnitude that is rounded to an infinity: `2 ^ 1024 - 2 ^ 970`, halfway between the
greatest double and the power of two behind it. -/
def overflowBound : Nat := carryBound 970

theorem roundDiv_le (num den : Nat) : roundDiv num den ≤ num / den + 1 := by
  dsimp only [roundDiv]
  split <;> omega

private theorem roundDiv_of_odd {num half : Nat} (hodd : num / (2 * half) % 2 = 1) :
    roundDiv num (2 * half) = num / (2 * half) + 1 ↔ half ≤ num % (2 * half) := by
  dsimp only [roundDiv]
  generalize num / (2 * half) = quotient at hodd
  generalize num % (2 * half) = rest
  have heven : (quotient % 2 == 0) = false := by simp [hodd]
  simp only [heven, Bool.and_false, Bool.or_false, decide_eq_true_eq]
  split <;> omega

private theorem roundDiv_eq_succ_iff {num half q : Nat} (hhalf : 0 < half) (hodd : q % 2 = 1)
    (hnum : num < (q + 1) * (2 * half)) :
    roundDiv num (2 * half) = q + 1 ↔ q * (2 * half) + half ≤ num := by
  have hden : 0 < 2 * half := by omega
  have hle : num / (2 * half) ≤ q := Nat.le_of_lt_succ ((Nat.div_lt_iff_lt_mul hden).mpr hnum)
  have hparts := Nat.div_add_mod num (2 * half)
  rcases Nat.lt_or_eq_of_le hle with hbelow | heq
  · have hround := roundDiv_le num (2 * half)
    have hsteps : num < q * (2 * half) := (Nat.div_lt_iff_lt_mul hden).mp hbelow
    omega
  · have hlast : roundDiv num (2 * half) = num / (2 * half) + 1 ↔ half ≤ num % (2 * half) := by
      apply roundDiv_of_odd
      rw [heq]
      exact hodd
    rw [heq] at hlast hparts
    rw [hlast, Nat.mul_comm q]
    omega

private theorem floorLog_one {n : Nat} (hn : n ≠ 0) : floorLog n 1 = n.log2 := by
  have hbound : 2 ^ n.log2 ≤ n := Nat.log2_self_le hn
  have hlog : Nat.log2 1 = 0 := by decide
  have hdown : (-((n.log2 : Int) - ((0 : Nat) : Int))).toNat = 0 := by omega
  have hup : ((n.log2 : Int) - ((0 : Nat) : Int)).toNat = n.log2 := by omega
  dsimp only [floorLog]
  simp only [hlog, hdown, hup, powerOfTwo]
  rw [if_neg (by simpa using hbound)]
  omega

/-- The significand of a positive integer on the grid of its binade. -/
def wholeSignificand (n : Nat) : Nat :=
  roundDiv (n * powerOfTwo (52 - n.log2)) (powerOfTwo (n.log2 - 52))

private theorem ofRatio_one_eq_infinity_iff {n : Nat} (hn : n ≠ 0) (negative : Bool) :
    (∃ b, ofRatio negative n 1 = .infinity b) ↔
      1023 < n.log2 ∨ n.log2 = 1023 ∧ wholeSignificand n = powerOfTwo 53 := by
  have hgrid : max ((n.log2 : Int) - 52) leastExponent = (n.log2 : Int) - 52 := by
    unfold leastExponent
    omega
  have hdown : (-((n.log2 : Int) - 52)).toNat = 52 - n.log2 := by omega
  have hup : ((n.log2 : Int) - 52).toNat = n.log2 - 52 := by omega
  have hzero : (n == 0) = false := by simpa using hn
  dsimp only [ofRatio]
  simp only [hzero, Bool.false_eq_true, if_false, floorLog_one hn, hgrid, hdown, hup, Nat.one_mul]
  rw [← wholeSignificand]
  by_cases hcarry : wholeSignificand n = powerOfTwo 53
  · simp only [hcarry, beq_self_eq_true, if_true, and_true, greatestExponent]
    split
    · exact ⟨fun _ => by omega, fun _ => ⟨negative, rfl⟩⟩
    · exact ⟨nofun, fun _ => by omega⟩
  · have hkept : (wholeSignificand n == powerOfTwo 53) = false := by simpa using hcarry
    simp only [hkept, hcarry, Bool.false_eq_true, if_false, and_false, or_false, greatestExponent]
    split
    · exact ⟨fun _ => by omega, fun _ => ⟨negative, rfl⟩⟩
    · exact ⟨nofun, fun _ => by omega⟩

theorem powerOfTwo_add (m n : Nat) : powerOfTwo (m + n) = powerOfTwo m * powerOfTwo n :=
  Nat.pow_add 2 m n

theorem powerOfTwo_le {m n : Nat} (h : m ≤ n) : powerOfTwo m ≤ powerOfTwo n :=
  Nat.pow_le_pow_right Nat.two_pos h

theorem powerOfTwo_pos (k : Nat) : 0 < powerOfTwo k := Nat.two_pow_pos k

private theorem carryBound_pos (k : Nat) : 0 < carryBound k := by
  have hhalf := powerOfTwo_pos k
  have htop : powerOfTwo (54 + k) = 2 ^ 54 * powerOfTwo k := powerOfTwo_add 54 k
  rw [carryBound, htop]
  omega

private theorem carries_iff {n : Nat} (hn : n ≠ 0) (k : Nat) :
    53 + k < n.log2 ∨ n.log2 = 53 + k ∧ wholeSignificand n = powerOfTwo 53 ↔ carryBound k ≤ n := by
  have hhalf := powerOfTwo_pos k
  have htop : powerOfTwo (54 + k) = 2 ^ 54 * powerOfTwo k := powerOfTwo_add 54 k
  have hle : powerOfTwo n.log2 ≤ n := Nat.log2_self_le hn
  have hlt : n < powerOfTwo (n.log2 + 1) := Nat.lt_log2_self
  rw [carryBound, htop]
  -- In the binade itself rounding decides; before it and behind it the magnitude alone does.
  rcases Nat.lt_trichotomy n.log2 (53 + k) with hbelow | hlast | habove
  · have hpow : powerOfTwo (1 + (n.log2 + 1)) ≤ powerOfTwo (54 + k) := powerOfTwo_le (by omega)
    have hdouble : powerOfTwo (1 + (n.log2 + 1)) = 2 * powerOfTwo (n.log2 + 1) :=
      powerOfTwo_add 1 _
    omega
  · have hbinade : n.log2 + 1 = 54 + k := by omega
    rw [hbinade, htop] at hlt
    have hround : roundDiv n (2 * powerOfTwo k) = 2 ^ 53 - 1 + 1 ↔
        (2 ^ 53 - 1) * (2 * powerOfTwo k) + powerOfTwo k ≤ n :=
      roundDiv_eq_succ_iff hhalf (by decide) (by omega)
    have hsignificand : wholeSignificand n = roundDiv n (2 * powerOfTwo k) := by
      have hdown : powerOfTwo (52 - n.log2) = 1 := by
        rw [hlast, show 52 - (53 + k) = 0 by omega]
        rfl
      have hup : powerOfTwo (n.log2 - 52) = 2 * powerOfTwo k := by
        rw [hlast, show 53 + k - 52 = 1 + k by omega, powerOfTwo_add]
        rfl
      rw [wholeSignificand, hdown, hup, Nat.mul_one]
    have hcarry : powerOfTwo 53 = 2 ^ 53 - 1 + 1 := by decide
    rw [hsignificand, hcarry, hround]
    omega
  · have hpow : powerOfTwo (54 + k) ≤ powerOfTwo n.log2 := powerOfTwo_le (by omega)
    omega

/-- An integer overflows exactly from the bound on. -/
theorem ofInt_eq_infinity_iff (n : Int) :
    (∃ negative, ofInt n = .infinity negative) ↔ overflowBound ≤ n.natAbs := by
  rw [ofInt, overflowBound]
  by_cases hzero : n.natAbs = 0
  · rw [hzero]
    exact ⟨nofun, fun hbound => absurd hbound (Nat.not_le.mpr (carryBound_pos 970))⟩
  · rw [ofRatio_one_eq_infinity_iff hzero]
    exact carries_iff hzero 970

end ScanLauncher.Binary64
