import Mathlib.Algebra.Order.Ring.Nat
import ScriptBindings.Number.Binary64

/-!
# The range of the double format

An integer is too large for a double exactly if rounding carries it to `2^1024`.  The greatest
finite double is `(2^53 - 1) · 2^971`, whose significand is odd, so that the half way from there on
already counts: the first magnitude out of range is `2^1024 - 2^970`.

* `Binary64.leastOverflow` — that magnitude.
* `Binary64.ofInt?_eq_none_iff` — the integers without a double are those from there on.

All of it is arithmetic on natural numbers; the last place of an integer is its binary logarithm
less 52 (`lastPlace_one`), and rounding to that place carries exactly in the last half step below
the next power of two (`roundHalfEven_eq_pow_iff`).
-/

namespace ScriptBindings.Binary64

/-- **The least magnitude out of range.** -/
def leastOverflow : Nat := 2 ^ 1024 - 2 ^ 970

/-- **The last place of an integer** is fixed by its binary logarithm. -/
theorem lastPlace_one {num : Nat} (h : num ≠ 0) : lastPlace num 1 = (num.log2 : Int) - 52 := by
  have hlow : 2 ^ num.log2 ≤ num := Nat.log2_self_le h
  have hlog : Nat.log2 1 = 0 := by decide
  rw [lastPlace, hlog]
  set guess : Int := (num.log2 : Int) - (0 : Nat) - 52 with hguess
  have hbig : ¬ num * Nat.pow 2 (-guess).toNat < Nat.pow 2 52 * (1 * Nat.pow 2 guess.toNat) := by
    rw [Nat.not_lt, Nat.pow_eq, Nat.pow_eq, Nat.pow_eq]
    calc 2 ^ 52 * (1 * 2 ^ guess.toNat) = 2 ^ num.log2 * 2 ^ (-guess).toNat := by
          rw [Nat.one_mul, ← Nat.pow_add, ← Nat.pow_add]
          congr 1
          omega
      _ ≤ num * 2 ^ (-guess).toNat := Nat.mul_le_mul_right _ hlow
  show max (if num * Nat.pow 2 (-guess).toNat < Nat.pow 2 52 * (1 * Nat.pow 2 guess.toNat)
    then guess - 1 else guess) (-1074) = _
  rw [if_neg hbig]
  omega

/-- **Rounding carries** to the next power of two exactly in the upper half of the last step below
it, its lower end included. -/
theorem roundHalfEven_eq_pow_iff {num half : Nat} (hhalf : 0 < half)
    (hnum : num < 2 ^ 53 * (2 * half)) :
    roundHalfEven num (2 * half) = 2 ^ 53 ↔ 2 ^ 53 * (2 * half) - half ≤ num := by
  have hq : num / (2 * half) < 2 ^ 53 := Nat.div_lt_of_lt_mul (by rwa [Nat.mul_comm] at hnum)
  have hr : num % (2 * half) < 2 * half := Nat.mod_lt _ (by omega)
  have hnum' := Nat.div_add_mod num (2 * half)
  rw [roundHalfEven]
  by_cases hlast : num / (2 * half) = 2 ^ 53 - 1
  · rw [hlast] at hnum' ⊢
    split <;> [skip; split] <;> [omega; omega; (simp; omega)]
  · have hle : (2 * half) * (num / (2 * half)) ≤ (2 * half) * (2 ^ 53 - 2) :=
      Nat.mul_le_mul_left _ (by omega)
    have hne : ¬ 2 ^ 53 * (2 * half) - half ≤ num := by omega
    simp only [hne, iff_false]
    split <;> [skip; split] <;> [omega; omega; (split <;> omega)]

/-- The exponent of a quotient as a double: its last place, after the carry of rounding. -/
def exponentOf (num den : Nat) : Int :=
  lastPlace num den +
    if roundHalfEven (overUnit num den (lastPlace num den)).1
      (overUnit num den (lastPlace num den)).2 = Nat.pow 2 53 then 1 else 0

theorem exists_ofRatio {num : Nat} (h : num ≠ 0) (negative : Bool) (den : Nat) :
    ∃ significand, ofRatio negative num den =
      if 971 < exponentOf num den then .infinity negative
      else .finite negative significand (exponentOf num den) := by
  rw [ofRatio, if_neg h, exponentOf]
  dsimp only
  by_cases hcarry : roundHalfEven (overUnit num den (lastPlace num den)).1
      (overUnit num den (lastPlace num den)).2 = Nat.pow 2 53
  · rw [if_pos hcarry, if_pos hcarry]
    exact ⟨_, rfl⟩
  · rw [if_neg hcarry, if_neg hcarry, Int.add_zero]
    exact ⟨_, rfl⟩

/-- A quotient is infinite as a double if its exponent is above that of the greatest double. -/
theorem ofRatio_eq_infinity_iff {num : Nat} (h : num ≠ 0) {negative : Bool} {den : Nat} :
    ofRatio negative num den = .infinity negative ↔ 971 < exponentOf num den := by
  obtain ⟨significand, heq⟩ := exists_ofRatio h negative den
  rw [heq]
  split <;> simp_all

/-- An infinite quotient keeps its sign. -/
theorem ofRatio_infinity_sign {negative sign : Bool} {num den : Nat}
    (h : ofRatio negative num den = .infinity sign) : sign = negative := by
  by_cases hnum : num = 0
  · rw [ofRatio, if_pos hnum] at h
    cases h
  · obtain ⟨significand, heq⟩ := exists_ofRatio hnum negative den
    rw [heq] at h
    split at h
    · exact (Binary64.infinity.inj h).symm
    · cases h

/-- **An integer is infinite as a double** from the least magnitude out of range on. -/
theorem ofRatio_one_eq_infinity_iff {negative : Bool} {num : Nat} :
    ofRatio negative num 1 = .infinity negative ↔ leastOverflow ≤ num := by
  -- The exponents stay variables here: the checker would otherwise compute the powers.
  have hpower (low high k : Nat) (h : high = low + (k + 1)) :
      2 ^ high = 2 ^ k * (2 * 2 ^ low) := by
    rw [h, Nat.pow_add, Nat.pow_succ]
    ac_rfl
  have hpow : 2 ^ 1024 = 2 ^ 53 * (2 * 2 ^ 970) := hpower 970 1024 53 rfl
  have hpow' : 2 ^ 1023 = 2 ^ 52 * (2 * 2 ^ 970) := hpower 970 1023 52 rfl
  have hstep : 2 ^ 971 = 2 ^ 0 * (2 * 2 ^ 970) := hpower 970 971 0 rfl
  have hmono {low high : Nat} (h : low ≤ high) : 2 ^ low ≤ 2 ^ high :=
    Nat.pow_le_pow_right Nat.zero_lt_two h
  have hpositive (low : Nat) : 0 < 2 ^ low := Nat.two_pow_pos low
  have hhalf : 0 < 2 ^ 970 := hpositive 970
  rw [leastOverflow, hpow]
  generalize 2 ^ 970 = half at hstep hpow hpow' hhalf
  by_cases h : num = 0
  · subst h
    have hzero : ofRatio negative 0 1 ≠ .infinity negative := by simp [ofRatio, zero]
    simp only [hzero, false_iff]
    omega
  · rw [ofRatio_eq_infinity_iff h, exponentOf, lastPlace_one h]
    have hlow : 2 ^ num.log2 ≤ num := Nat.log2_self_le h
    have hhigh : num < 2 ^ (num.log2 + 1) := Nat.lt_log2_self
    rcases Nat.lt_trichotomy num.log2 1023 with hlt | heq | hgt
    · have hsmall : num < 2 ^ 1023 := hhigh.trans_le (hmono (by omega))
      constructor
      · split <;> omega
      · omega
    · have hplace : (num.log2 : Int) - 52 = 971 := by omega
      have hunit : overUnit num 1 971 = (num, 2 * half) := by
        rw [Nat.pow_zero, Nat.one_mul] at hstep
        rw [overUnit, ← hstep]
        simp
      have hround : roundHalfEven num (2 * half) = Nat.pow 2 53 ↔
          2 ^ 53 * (2 * half) - half ≤ num :=
        roundHalfEven_eq_pow_iff hhalf (by rw [heq, hpow] at hhigh; exact hhigh)
      rw [hplace, hunit]
      simp only [hround]
      split <;> omega
    · have hlarge : 2 ^ 1024 ≤ num := (hmono (by omega)).trans hlow
      constructor
      · omega
      · split <;> omega

/-- **The integers without a double** are those whose magnitude is out of range. -/
theorem ofInt?_eq_none_iff {n : Int} : ofInt? n = none ↔ leastOverflow ≤ n.natAbs := by
  rw [ofInt?, ← ofRatio_one_eq_infinity_iff]
  split
  · rename_i negative hinf
    obtain rfl : negative = decide (n < 0) := ofRatio_infinity_sign hinf
    simpa using hinf
  · rename_i hfinite
    simpa using hfinite (decide (n < 0))

end ScriptBindings.Binary64
