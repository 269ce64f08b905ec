import ScriptBindings.Number.Decimal
import ScriptBindings.Proofs.Number.Integer
import ScriptBindings.Proofs.Text.Tight

/-!
# The shape of numbers in writing

Integers and doubles are written in different ways, and it must be seen from the text which of the
two a number is.  This file says what the texts look like, whatever the number is.

* `Numeral.Whole` — digits without a zero before others; `Numeral.signed_toString` says that every
  integer is written so, perhaps after a minus.
* `Numeral.Magnitude` — digits with a fraction, an exponent or both; `Binary64.signed_text` says
  that every finite double is written so, perhaps after a minus.

### What is load-bearing

Where the point stands decides between the two layouts of a double, but neither of them asks how
many digits there are.  All that the layouts need is that there is one digit at least
(`Binary64.digits_shortest`).
-/

namespace ScriptBindings

open ScriptBindings.Text

namespace Numeral

/-! ## Shapes -/

/-- **A whole number**: decimal digits, which start with a zero only if there is no other digit. -/
structure Whole (cs : List Char) : Prop where
  digits : Digits cs
  leading : cs.head? = some '0' → cs = ['0']

/-- **A fraction**, which may be missing: digits behind a point. -/
inductive Fraction : List Char → Prop
  | missing : Fraction []
  | digits {cs : List Char} (digits : Digits cs) : Fraction ('.' :: cs)

/-- **An exponent**, which may be missing: digits behind a mark and a sign. -/
inductive Exponent : List Char → Prop
  | missing : Exponent []
  | digits {sign : Char} {cs : List Char} (isSign : sign = '+' ∨ sign = '-') (digits : Digits cs) :
      Exponent ('e' :: sign :: cs)

/-- **A magnitude**: digits, and behind them a fraction, an exponent or both.  One of the two is
what tells it from a whole number. -/
inductive Magnitude : List Char → Prop
  | parts {whole fraction exponent : List Char} (digits : Digits whole)
      (isFraction : Fraction fraction) (isExponent : Exponent exponent)
      (marked : fraction ≠ [] ∨ exponent ≠ []) :
      Magnitude (whole ++ (fraction ++ exponent))

/-- **A shape with an optional minus** before it. -/
inductive Signed (shape : List Char → Prop) : List Char → Prop
  | plus {cs : List Char} (unsigned : shape cs) : Signed shape cs
  | minus {cs : List Char} (unsigned : shape cs) : Signed shape ('-' :: cs)

/-! ## Whole numbers -/

/-- **The digits of a natural number** are a whole number. -/
theorem whole_toDigits (n : Nat) : Whole (Nat.toDigits 10 n) := by
  refine ⟨digits_toDigits n, fun hzero => ?_⟩
  obtain rfl := eq_zero_of_head?_toDigits hzero
  rfl

/-- **The text of an integer** is a whole number, perhaps after a minus. -/
theorem signed_toString (n : Int) : Signed Whole (toString n).toList := by
  rw [toList_toString]
  split
  · exact .plus (whole_toDigits _)
  · exact .minus (whole_toDigits _)

/-! ## Digits put together -/

section

variable {cs ds marks : List Char}

theorem Digits.append (h : Digits cs) (hds : ∀ c ∈ ds, c.isDigit = true) : Digits (cs ++ ds) := by
  refine ⟨by simp [h.nonempty], fun c hc => ?_⟩
  exact (List.mem_append.1 hc).elim (h.isDigit c) (hds c)

/-- Zeros before digits. -/
theorem Digits.replicate_append (h : Digits cs) (n : Nat) :
    Digits (List.replicate n '0' ++ cs) := by
  refine ⟨by simp [h.nonempty], fun c hc => ?_⟩
  rcases List.mem_append.1 hc with hc | hc
  · rw [List.eq_of_mem_replicate hc]
    rfl
  · exact h.isDigit c hc

theorem Digits.take (h : Digits cs) {n : Nat} (hn : n ≠ 0) : Digits (cs.take n) :=
  ⟨by simp [h.nonempty, hn], fun c hc => h.isDigit c (List.mem_of_mem_take hc)⟩

theorem Digits.drop (h : Digits cs) {n : Nat} (hn : n < cs.length) : Digits (cs.drop n) :=
  ⟨by simpa using hn, fun c hc => h.isDigit c (List.mem_of_mem_drop hc)⟩

/-! ## The characters of the shapes -/

/-- Digits are word characters. -/
theorem Digits.consists (h : Digits cs) : Consists marks cs :=
  consists_of_isDigit fun c hc => .inl (h.isDigit c hc)

theorem Fraction.consists (h : Fraction cs) (hpoint : '.' ∈ marks) : Consists marks cs := by
  cases h with
  | missing => exact consists_nil
  | digits h => exact consists_cons hpoint h.consists

theorem Exponent.consists (h : Exponent cs) (hplus : '+' ∈ marks) (hminus : '-' ∈ marks) :
    Consists marks cs := by
  cases h with
  | missing => exact consists_nil
  | @digits sign cs hsign h =>
      have hmark : sign ∈ marks := by rcases hsign with rfl | rfl <;> assumption
      exact consists_append (consists_of_isName (by decide : isName ['e']))
        (consists_cons hmark h.consists)

/-- The characters of a magnitude besides its digits. -/
theorem Magnitude.consists (h : Magnitude cs) : Consists ['-', '+', '.'] cs := by
  obtain ⟨hwhole, hfraction, hexponent, -⟩ := h
  exact consists_append hwhole.consists
    (consists_append (hfraction.consists (by simp)) (hexponent.consists (by simp) (by simp)))

/-- A sign adds one character. -/
theorem Signed.consists {shape : List Char → Prop} (h : Signed shape cs)
    (hshape : ∀ ds, shape ds → Consists marks ds) (hminus : '-' ∈ marks) : Consists marks cs := by
  cases h with
  | plus h => exact hshape cs h
  | minus h => exact consists_cons hminus (hshape _ h)

theorem Magnitude.ne_nil (h : Magnitude cs) : cs ≠ [] := by
  obtain ⟨hwhole, -, -, -⟩ := h
  simp [hwhole.nonempty]

/-- A text with an optional minus is not empty. -/
theorem Signed.ne_nil {shape : List Char → Prop} (h : Signed shape cs)
    (hshape : ∀ {ds}, shape ds → ds ≠ []) : cs ≠ [] := by
  cases h with
  | plus h => exact hshape h
  | minus h => simp

end

end Numeral

open Numeral

/-! ## Decimals -/

namespace Decimal

/-- The digits of a decimal, without the zeros at the end. -/
theorem digits_ofNat (n : Nat) (exponent : Int) : Digits (ofNat n exponent).digits := by
  rw [ofNat]
  split
  · exact ⟨by simp, by simp⟩
  · rename_i hsignificant
    refine ⟨by simpa using hsignificant, fun c hc => ?_⟩
    have hmem := (List.dropWhile_sublist _).subset (List.mem_reverse.1 hc)
    exact (digits_toDigits n).isDigit c (List.mem_reverse.1 hmem)

variable {d : Decimal}

/-- **Positional notation** is a magnitude with a fraction. -/
theorem magnitude_positional (h : Digits d.digits) : Magnitude d.positional := by
  rw [positional]
  split
  · -- all digits stand behind the point, perhaps after zeros
    have hzero : Digits ['0'] := ⟨by simp, by simp⟩
    have hfraction := Fraction.digits (h.replicate_append (-d.point).toNat)
    simpa using Magnitude.parts hzero hfraction .missing (by simp)
  · rename_i hpoint
    have hwhole : Digits (d.digits.take d.point.toNat ++
        List.replicate (d.point.toNat - d.digits.length) '0') := by
      refine (h.take (by omega)).append fun c hc => ?_
      rw [List.eq_of_mem_replicate hc]
      rfl
    have hfraction : Digits (if d.digits.length ≤ d.point.toNat then ['0']
        else d.digits.drop d.point.toNat) := by
      split
      · exact ⟨by simp, by simp⟩
      · exact h.drop (by omega)
    simpa using Magnitude.parts hwhole (.digits hfraction) .missing (by simp)

/-- **Exponent notation** is a magnitude with an exponent. -/
theorem magnitude_exponential (h : Digits d.digits) (width : Nat) :
    Magnitude (d.exponential width) := by
  have hfraction : Fraction (if (d.digits.drop 1).isEmpty then [] else '.' :: d.digits.drop 1) := by
    split
    · exact .missing
    · rename_i hrest
      rw [List.isEmpty_iff, List.drop_eq_nil_iff] at hrest
      exact .digits (h.drop (by omega))
  have hdigits : Digits ((Nat.toDigits 10 (d.point - 1).natAbs).leftpad width '0') := by
    exact (digits_toDigits _).replicate_append _
  have hexponent : Exponent ('e' :: (if d.point - 1 < 0 then '-' else '+') ::
      (Nat.toDigits 10 (d.point - 1).natAbs).leftpad width '0') := by
    refine .digits ?_ hdigits
    split <;> simp
  have hmagnitude := Magnitude.parts (h.take (n := 1) (by simp)) hfraction hexponent (by simp)
  rw [← List.append_assoc] at hmagnitude
  exact hmagnitude

/-- **The text of a decimal** is a magnitude in every style. -/
theorem magnitude_text (h : Digits d.digits) (style : DecimalStyle) : Magnitude (d.text style) := by
  rw [text]
  split
  · exact magnitude_positional h
  · exact magnitude_exponential h _

end Decimal

namespace Binary64

/-- **The shortest decimal has a digit**, whether or not one of the grids has a neighbour. -/
theorem digits_shortest (significand : Nat) (exponent : Int) :
    Digits (shortest significand exponent).digits := by
  rw [shortest]
  split
  · exact ⟨by simp, by simp⟩
  · dsimp only
    split <;> exact Decimal.digits_ofNat _ _

/-- **The text of a finite double** is a magnitude, perhaps after a minus. -/
theorem signed_text {x : Binary64} (h : x.isFinite = true) (style : DecimalStyle) :
    Signed Magnitude (x.text style).toList := by
  cases x with
  | finite negative significand exponent =>
      have hmagnitude := Decimal.magnitude_text (digits_shortest significand exponent) style
      rw [text, String.toList_append, String.toList_ofList]
      cases negative with
      | false => exact .plus hmagnitude
      | true => exact .minus hmagnitude
  | infinity | nan => cases h

end Binary64

end ScriptBindings
