/-!
# Double-precision numbers

Constants with a fractional part are held in the double format: a sign, a significand below `2^53`
and a binary exponent, or one of the two infinities, or no number at all.  Everything is exact
arithmetic on natural numbers, so that every conversion can be computed and reasoned about.

* `Binary64.ofRatio` — the nearest double to a quotient, halves going to the even significand.
* `Binary64.ofInt?` — the nearest double to an integer, unless the integer is out of range.
* `Binary64.truncate?` — the integer part.
-/

namespace ScriptBindings

/-- **A number in double format.**  `finite negative significand exponent` is
`± significand · 2^exponent`; a zero keeps its sign. -/
inductive Binary64 where
  | finite (negative : Bool) (significand : Nat) (exponent : Int)
  | infinity (negative : Bool)
  | nan
deriving DecidableEq, Repr

namespace Binary64

/-- The zero of a sign. -/
def zero (negative : Bool) : Binary64 :=
  .finite negative 0 (-1074)

/-- **The quotient rounded to the nearest integer**; a half goes to the even neighbour. -/
def roundHalfEven (num den : Nat) : Nat :=
  let q := num / den
  let r := num % den
  if 2 * r < den then q
  else if den < 2 * r then q + 1
  else if q % 2 = 0 then q else q + 1

/-- A divisible numerator is not rounded. -/
theorem roundHalfEven_mul_left {den : Nat} (h : 0 < den) (q : Nat) :
    roundHalfEven (den * q) den = q := by
  simp [roundHalfEven, h]

/-- The quotient `num / den` over the unit `2^exponent`, as a numerator and a denominator. -/
def overUnit (num den : Nat) (exponent : Int) : Nat × Nat :=
  (num * Nat.pow 2 (-exponent).toNat, den * Nat.pow 2 exponent.toNat)

/-- **The exponent of the last place** of a positive quotient: the one that leaves 53 binary digits
before the point, but never below the exponent of the least double. -/
def lastPlace (num den : Nat) : Int :=
  let guess : Int := (num.log2 : Int) - den.log2 - 52
  let (n, d) := overUnit num den guess
  max (if n < Nat.pow 2 52 * d then guess - 1 else guess) (-1074)

/-- **The nearest double** to `± num / den`; what rounds to `2^1024` or more is infinite. -/
def ofRatio (negative : Bool) (num den : Nat) : Binary64 :=
  if num = 0 then zero negative
  else
    let exponent := lastPlace num den
    let (n, d) := overUnit num den exponent
    let significand := roundHalfEven n d
    let (significand, exponent) :=
      if significand = Nat.pow 2 53 then (Nat.pow 2 52, exponent + 1) else (significand, exponent)
    if 971 < exponent then .infinity negative else .finite negative significand exponent

/-- The nearest double to an integer, or `none` if the integer is too large for one. -/
def ofInt? (n : Int) : Option Binary64 :=
  match ofRatio (n < 0) n.natAbs 1 with
  | .infinity _ => none
  | x => some x

/-- **The integer part**, toward zero; `none` unless the number is finite. -/
def truncate? : Binary64 → Option Int
  | .finite negative significand exponent =>
      let magnitude : Nat := significand * Nat.pow 2 exponent.toNat / Nat.pow 2 (-exponent).toNat
      some (if negative then -magnitude else magnitude)
  | _ => none

/-- Whether a number is a zero of either sign. -/
def isZero : Binary64 → Bool
  | .finite _ significand _ => significand == 0
  | _ => false

/-- Whether a number is finite. -/
def isFinite : Binary64 → Bool
  | .finite .. => true
  | _ => false

end Binary64

end ScriptBindings
