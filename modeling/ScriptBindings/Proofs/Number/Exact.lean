import Mathlib.Data.List.Induction
import Mathlib.Data.List.TakeWhile
import ScriptBindings.Number.Numeral
import ScriptBindings.Proofs.Number.Integer
import ScriptBindings.Proofs.Number.Range

/-!
# Integers that a double holds

An integer survives being read as a double exactly if it has at most 53 binary digits between its
first and its last one, and is in range.

* `Binary64.Holds` — those magnitudes.
* `Binary64.truncate?_ofRatio_one_iff` — the nearest double to an integer is the integer itself for
  those and no others.
* `Numeral.truncate?_nearest_iff` — the same for decimal digits read as a double.

An integer of at most 53 binary digits is the significand of its double, moved to the place that the
format wants.  A longer one is rounded to its last place, which loses nothing exactly if the place
divides it; so the two kinds are treated apart.
-/

namespace ScriptBindings

namespace Binary64

/-- **A magnitude that a double holds**: a significand below `2^53`, times a power of two in
range. -/
def Holds (n : Nat) : Prop :=
  ∃ significand exponent, significand < 2 ^ 53 ∧ exponent ≤ 971 ∧ n = significand * 2 ^ exponent

variable {n : Nat} {negative : Bool}

theorem holds_of_lt (h : n < 2 ^ 53) : Holds n :=
  ⟨n, 0, h, by decide, by simp⟩

/-- A long odd integer is held by none. -/
theorem not_holds_of_odd (hodd : n % 2 = 1) (hlong : 2 ^ 53 ≤ n) : ¬ Holds n := by
  rintro ⟨significand, exponent, hsignificand, -, rfl⟩
  cases exponent with
  | zero => omega
  | succ exponent =>
      rw [Nat.pow_succ, ← Nat.mul_assoc, Nat.mul_mod_left] at hodd
      cases hodd

theorem truncate?_zero (negative : Bool) : truncate? (zero negative) = some 0 := by
  rw [zero, truncate?]
  simp only [Nat.zero_mul, Nat.zero_div]
  cases negative <;> rfl

/-- A double whose last place is no fraction is an integer. -/
theorem truncate?_finite_natCast (negative : Bool) (significand place : Nat) :
    truncate? (.finite negative significand place) =
      some (if negative then -((significand * 2 ^ place : Nat) : Int)
        else (significand * 2 ^ place : Nat)) := by
  simp [truncate?]

/-- Magnitudes under one sign are told apart. -/
theorem signed_eq_signed_iff {m : Nat} :
    some (if negative then -(m : Int) else m) = some (if negative then -(n : Int) else n) ↔
      m = n := by
  rw [Option.some_inj]
  split <;> omega

/-- The double of a quotient, from its last place and the quotient in units of that place. -/
theorem ofRatio_eq {num den a b : Nat} {place : Int} (hnum : num ≠ 0)
    (hplace : lastPlace num den = place) (hunit : overUnit num den place = (a, b)) :
    ofRatio negative num den =
      if roundHalfEven a b = 2 ^ 53 then
        if 971 < place + 1 then .infinity negative else .finite negative (2 ^ 52) (place + 1)
      else if 971 < place then .infinity negative
      else .finite negative (roundHalfEven a b) place := by
  rw [ofRatio, if_neg hnum]
  simp only [hplace, hunit, Nat.pow_eq]
  by_cases hcarry : roundHalfEven a b = 2 ^ 53
  · rw [if_pos hcarry, if_pos hcarry]
  · rw [if_neg hcarry, if_neg hcarry]

/-- **An integer of at most 53 binary digits** is its own double. -/
theorem truncate?_ofRatio_of_lt (h : n < 2 ^ 53) :
    (ofRatio negative n 1).truncate? = some (if negative then -(n : Int) else n) := by
  by_cases hn : n = 0
  · subst hn
    rw [ofRatio, if_pos rfl, truncate?_zero]
    simp
  have hlog : n.log2 < 53 := (Nat.log2_lt hn).2 h
  obtain ⟨shift, hshift⟩ : ∃ shift, n.log2 + shift = 52 := ⟨52 - n.log2, by omega⟩
  have hplace : lastPlace n 1 = -(shift : Int) := by
    rw [lastPlace_one hn]
    omega
  have hunit : overUnit n 1 (-(shift : Int)) = (n * 2 ^ shift, 1) := by
    simp [overUnit]
  have hround : roundHalfEven (n * 2 ^ shift) 1 = n * 2 ^ shift := by
    simpa using roundHalfEven_mul_left Nat.one_pos (n * 2 ^ shift)
  have hcarry : n * 2 ^ shift < 2 ^ 53 := by
    calc n * 2 ^ shift < 2 ^ (n.log2 + 1) * 2 ^ shift :=
          Nat.mul_lt_mul_of_pos_right Nat.lt_log2_self (Nat.two_pow_pos shift)
      _ = 2 ^ 53 := by
          rw [← Nat.pow_add]
          congr 1
          omega
  rw [ofRatio_eq hn hplace hunit, hround, if_neg (Nat.ne_of_lt hcarry), if_neg (by omega),
    truncate?]
  simp

/-- **The place of a long integer**, and its double. -/
theorem exists_place (h : 2 ^ 53 ≤ n) :
    ∃ place : Nat, 2 ^ 52 * 2 ^ place ≤ n ∧ n < 2 ^ 53 * 2 ^ place ∧
      ∀ negative, ofRatio negative n 1 =
        if roundHalfEven n (2 ^ place) = 2 ^ 53 then
          if 971 < (place : Int) + 1 then .infinity negative
          else .finite negative (2 ^ 52) (place + 1)
        else if 971 < (place : Int) then .infinity negative
        else .finite negative (roundHalfEven n (2 ^ place)) place := by
  have hn : n ≠ 0 := by
    rintro rfl
    simp at h
  have hlog : 53 ≤ n.log2 := (Nat.le_log2 hn).2 h
  obtain ⟨place, hplace⟩ : ∃ place, n.log2 = 52 + place := ⟨n.log2 - 52, by omega⟩
  have hlast : lastPlace n 1 = (place : Int) := by
    rw [lastPlace_one hn]
    omega
  have hunit : overUnit n 1 (place : Int) = (n, 2 ^ place) := by
    simp [overUnit]
  refine ⟨place, ?_, ?_, fun negative => ofRatio_eq hn hlast hunit⟩
  · rw [← Nat.pow_add, ← hplace]
    exact Nat.log2_self_le hn
  · rw [← Nat.pow_add, Nat.add_right_comm 52 1 place, ← hplace]
    exact Nat.lt_log2_self

/-- Rounding does not pass a bound of the quotient. -/
theorem roundHalfEven_le {num den bound : Nat} (h : num < bound * den) :
    roundHalfEven num den ≤ bound := by
  have hquotient : num / den < bound := Nat.div_lt_of_lt_mul (by rwa [Nat.mul_comm] at h)
  rw [roundHalfEven]
  split <;> [skip; split] <;> [omega; omega; (split <;> omega)]

/-- **A long integer** is its own double exactly if a double holds it. -/
theorem truncate?_ofRatio_of_le (h : 2 ^ 53 ≤ n) :
    (ofRatio negative n 1).truncate? = some (if negative then -(n : Int) else n) ↔ Holds n := by
  obtain ⟨place, hlow, hhigh, hdouble⟩ := exists_place h
  rw [hdouble]
  constructor
  · intro htruncate
    by_cases hcarry : roundHalfEven n (2 ^ place) = 2 ^ 53
    · rw [if_pos hcarry] at htruncate
      split at htruncate
      · cases htruncate
      · rw [← Int.natCast_succ, truncate?_finite_natCast, signed_eq_signed_iff] at htruncate
        exact ⟨2 ^ 52, place + 1, by decide, by omega, htruncate.symm⟩
    · rw [if_neg hcarry] at htruncate
      split at htruncate
      · cases htruncate
      · rw [truncate?_finite_natCast, signed_eq_signed_iff] at htruncate
        have hle := roundHalfEven_le hhigh
        exact ⟨_, place, by omega, by omega, htruncate.symm⟩
  · rintro ⟨significand, exponent, hsignificand, hrange, rfl⟩
    -- the place divides the integer, since the first of its digits is at most 52 places above
    have hplace : place ≤ exponent := by
      have hpower : 2 ^ (52 + place) < 2 ^ (53 + exponent) := by
        rw [Nat.pow_add, Nat.pow_add]
        exact hlow.trans_lt (Nat.mul_lt_mul_of_pos_right hsignificand (Nat.two_pow_pos exponent))
      have hlt := (Nat.pow_lt_pow_iff_right (by decide)).1 hpower
      omega
    obtain ⟨gap, rfl⟩ := Nat.exists_eq_add_of_le hplace
    have hmultiple : significand * 2 ^ (place + gap) = 2 ^ place * (significand * 2 ^ gap) := by
      rw [Nat.pow_add]
      ac_rfl
    have hquotient : significand * 2 ^ gap < 2 ^ 53 := by
      rw [hmultiple, Nat.mul_comm (2 ^ 53)] at hhigh
      exact Nat.lt_of_mul_lt_mul_left hhigh
    rw [hmultiple, roundHalfEven_mul_left (Nat.two_pow_pos place),
      if_neg (Nat.ne_of_lt hquotient), if_neg (by omega), truncate?_finite_natCast,
      signed_eq_signed_iff]
    exact Nat.mul_comm _ _

/-- **The nearest double to an integer** is the integer exactly if a double holds it. -/
theorem truncate?_ofRatio_one_iff :
    (ofRatio negative n 1).truncate? = some (if negative then -(n : Int) else n) ↔ Holds n := by
  rcases Nat.lt_or_ge n (2 ^ 53) with hlt | hle
  · exact iff_of_true (truncate?_ofRatio_of_lt hlt) (holds_of_lt hlt)
  · exact truncate?_ofRatio_of_le hle

theorem two_pow_le_ten_pow {exponent k length : Nat} (h : exponent ≤ 205 * k)
    (hlength : 62 * k ≤ length) : 2 ^ exponent ≤ 10 ^ length := by
  have hbase : 2 ^ 205 ≤ 10 ^ 62 := by decide
  calc 2 ^ exponent ≤ 2 ^ (205 * k) := Nat.pow_le_pow_right Nat.zero_lt_two h
    _ = (2 ^ 205) ^ k := Nat.pow_mul ..
    _ ≤ (10 ^ 62) ^ k := Nat.pow_le_pow_left hbase k
    _ = 10 ^ (62 * k) := (Nat.pow_mul ..).symm
    _ ≤ 10 ^ length := Nat.pow_le_pow_right (by decide) hlength

/-- What a double holds has at most 310 decimal digits. -/
theorem Holds.lt (h : Holds n) {length : Nat} (hlength : 310 ≤ length) : n < 10 ^ length := by
  obtain ⟨significand, exponent, hsignificand, hrange, rfl⟩ := h
  calc significand * 2 ^ exponent < 2 ^ 53 * 2 ^ exponent :=
        Nat.mul_lt_mul_of_pos_right hsignificand (Nat.two_pow_pos exponent)
    _ = 2 ^ (53 + exponent) := (Nat.pow_add ..).symm
    _ ≤ 10 ^ length := two_pow_le_ten_pow (k := 5) (by omega) hlength

end Binary64

namespace Numeral

/-- Zeros in front do not count. -/
theorem valueOf_dropWhile_zero (base : Nat) (digits : List Nat) :
    valueOf base (digits.dropWhile (· == 0)) = valueOf base digits := by
  induction digits with
  | nil => rfl
  | cons digit digits ih =>
      by_cases hzero : digit = 0
      · subst hzero
        rw [List.dropWhile_cons_of_pos rfl, ih]
        simp [valueOf]
      · rw [List.dropWhile_cons_of_neg (by simpa using hzero)]

/-- Digits behind one that is no zero make a number long. -/
theorem pow_le_valueOf_cons {base digit : Nat} (hdigit : digit ≠ 0) (digits : List Nat) :
    base ^ digits.length ≤ valueOf base (digit :: digits) := by
  induction digits using List.reverseRecOn with
  | nil =>
      show 1 ≤ 0 * base + digit
      omega
  | append_singleton digits last ih =>
      rw [← List.cons_append, valueOf_append_singleton, List.length_append, List.length_singleton,
        Nat.pow_succ]
      exact (Nat.mul_le_mul_right base ih).trans (Nat.le_add_right ..)

/-- **A number with many digits** besides the zeros in front is large. -/
theorem pow_le_valueOf {base length : Nat} (hbase : 0 < base) {digits : List Nat}
    (h : length < (digits.dropWhile (· == 0)).length) : base ^ length ≤ valueOf base digits := by
  rw [← valueOf_dropWhile_zero]
  cases hsignificant : digits.dropWhile (· == 0) with
  | nil =>
      rw [hsignificant] at h
      cases h
  | cons digit rest =>
      have hdigit : digit ≠ 0 := by
        have hhead := List.head?_dropWhile_not (· == 0) digits
        rw [hsignificant] at hhead
        simpa using hhead
      rw [hsignificant, List.length_cons] at h
      exact (Nat.pow_le_pow_right hbase (Nat.le_of_lt_succ h)).trans
        (pow_le_valueOf_cons hdigit rest)

/-- A number is below the power of its base that has one digit more. -/
theorem valueOf_lt_pow {base : Nat} {digits : List Nat} (h : ∀ digit ∈ digits, digit < base) :
    valueOf base digits < base ^ digits.length := by
  induction digits using List.reverseRecOn with
  | nil => exact Nat.one_pos
  | append_singleton digits last ih =>
      have hvalue := ih fun digit hdigit => h digit (by simp [hdigit])
      have hlast := h last (by simp)
      rw [valueOf_append_singleton, List.length_append, List.length_singleton, Nat.pow_succ]
      calc valueOf base digits * base + last < valueOf base digits * base + base := by omega
        _ = (valueOf base digits + 1) * base := (Nat.succ_mul ..).symm
        _ ≤ base ^ digits.length * base := Nat.mul_le_mul_right base hvalue

/-- **Digits read as a double** keep their value exactly if a double holds it. -/
theorem truncate?_nearest_iff {negative : Bool} {digits : List Nat} :
    (nearest negative digits 0).truncate? =
        some (if negative then -(valueOf 10 digits : Int) else valueOf 10 digits) ↔
      Binary64.Holds (valueOf 10 digits) := by
  rw [nearest, valueOf_dropWhile_zero]
  by_cases hzero : valueOf 10 digits = 0
  · rw [if_pos hzero, hzero, Binary64.truncate?_zero]
    exact iff_of_true (by simp) (Binary64.holds_of_lt (by decide))
  rw [if_neg hzero]
  by_cases hlong : 310 < (digits.dropWhile (· == 0)).length
  · rw [if_pos (by omega)]
    refine iff_of_false nofun fun hholds => ?_
    exact Nat.not_lt.2 (pow_le_valueOf (by decide) hlong) (hholds.lt (Nat.le_refl 310))
  · rw [if_neg (by omega), if_neg (by omega)]
    show (Binary64.ofRatio negative (valueOf 10 digits * 1) 1).truncate? = _ ↔ _
    rw [Nat.mul_one, Binary64.truncate?_ofRatio_one_iff]

section

open Text

variable {cs : List Char}

theorem toLower_of_isDigit {c : Char} (h : c.isDigit = true) : c.toLower = c := by
  have hrange := isDigit_range h
  refine dif_neg ?_
  rintro ⟨hupper, -⟩
  have hcode : 65 ≤ c.toNat := hupper
  omega

/-- Digits have no point and no exponent. -/
theorem readMagnitude?_digits (h : Digits cs) (negative : Bool) :
    readMagnitude? negative cs = some (nearest negative (cs.map (·.toNat - 48)) 0) := by
  have hmark : ∀ c ∈ cs, (!isExponentMark c) = true := by
    intro c hc
    have he : c ≠ 'e' := ne_of_mem_of_not_mem hc (h.not_mem rfl)
    have hE : c ≠ 'E' := ne_of_mem_of_not_mem hc (h.not_mem rfl)
    simp [isExponentMark, he, hE]
  have hpieces : pieces (· == '.') cs = [cs] := by
    refine pieces_of_forall_not fun c hc => ?_
    simpa using ne_of_mem_of_not_mem hc (h.not_mem rfl)
  have hwhole : digitsOrNone? cs = some (cs.map (·.toNat - 48)) := by
    rw [digitsOrNone?, if_neg (by simpa using h.nonempty), ungroup?_of_digits h]
  have hfraction : digitsOrNone? [] = some [] := rfl
  have hsome : ¬ ((cs.map (·.toNat - 48)).isEmpty && ([] : List Nat).isEmpty) := by
    simpa using h.nonempty
  unfold readMagnitude?
  rw [List.takeWhile_eq_self_iff.2 hmark, List.dropWhile_eq_nil_iff.2 hmark]
  simp only [hpieces, hwhole, hfraction, Option.bind_eq_bind, Option.bind_some]
  rw [if_neg hsome, List.append_nil]
  rfl

/-- **Digits under a sign, read as a decimal,** give the nearest double. -/
theorem readDecimal?_withSign (h : Digits cs) (negative : Bool) :
    readDecimal? (withSign negative cs) = some (nearest negative (cs.map (·.toNat - 48)) 0) := by
  obtain ⟨hplain, htrim, hsplit⟩ := splitSign_withSign h negative
  have hlower : cs.map Char.toLower = cs :=
    (List.map_congr_left fun c hc => toLower_of_isDigit (h.isDigit c hc)).trans (List.map_id cs)
  have hword {word : String} (hletter : 'n' ∈ word.toList) : String.ofList cs ≠ word := by
    rintro rfl
    rw [String.toList_ofList] at hletter
    exact h.not_mem rfl hletter
  unfold readDecimal?
  rw [hplain, Option.bind_eq_bind, Option.bind_some, htrim, hsplit]
  dsimp only
  rw [hlower]
  have hinf := hword (by decide : 'n' ∈ "inf".toList)
  have hinfinity := hword (by decide : 'n' ∈ "infinity".toList)
  have hnan := hword (by decide : 'n' ∈ "nan".toList)
  simp [hinf, hinfinity, hnan, readMagnitude?_digits h]

end

end Numeral

end ScriptBindings
