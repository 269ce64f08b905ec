import ScriptBindings.Number.Numeral

/-!
# Integers in decimal

The decimal text of an integer is read back as that integer, as long as it does not have more digits
than a numeral may have.

* `Numeral.readNatural?_toDigits` — the digits of a natural number.
* `Numeral.readInteger?_toString` — an integer with its sign.

Numerals are read in many spellings, and each of them has to be ruled out: the text is ASCII, begins
with no base mark, has no underscores, and begins with a zero only if it is one.
-/

namespace ScriptBindings.Numeral

open ScriptBindings.Text

/-- **Decimal digits**: ASCII digits only, and at least one. -/
structure Digits (cs : List Char) : Prop where
  nonempty : cs ≠ []
  isDigit : ∀ c ∈ cs, c.isDigit = true

theorem digits_toDigits (n : Nat) : Digits (Nat.toDigits 10 n) :=
  ⟨Nat.toDigits_ne_nil, fun _ hc => Nat.isDigit_of_mem_toDigits (by decide) (by decide) hc⟩

section

variable {cs : List Char}

theorem isDigit_range {c : Char} (h : c.isDigit = true) : 48 ≤ c.toNat ∧ c.toNat ≤ 57 := by
  have hval : 48 ≤ c.val ∧ c.val ≤ 57 := by simpa [Char.isDigit] using h
  exact hval

/-- A text of digits has no other character. -/
theorem Digits.not_mem (h : Digits cs) {c : Char} (hc : c.isDigit = false) : c ∉ cs := by
  intro hmem
  rw [h.isDigit c hmem] at hc
  cases hc

theorem digitIn?_of_isDigit {c : Char} (h : c.isDigit = true) :
    digitIn? 10 c = some (c.toNat - 48) := by
  have hrange := isDigit_range h
  simp only [digitIn?, if_pos h, Option.filter_some]
  rw [if_pos (by simp; omega)]

theorem mapM_digitIn? (h : ∀ c ∈ cs, c.isDigit = true) :
    cs.mapM (digitIn? 10) = some (cs.map (·.toNat - 48)) := by
  induction cs with
  | nil => rfl
  | cons c cs ih =>
      rw [List.mapM_cons, digitIn?_of_isDigit (h c (by simp)), ih fun d hd => h d (by simp [hd])]
      rfl

theorem ungroup?_of_digits (h : Digits cs) : ungroup? 10 cs = some (cs.map (·.toNat - 48)) := by
  have hpieces : pieces (· == '_') cs = [cs] := by
    refine pieces_of_forall_not fun c hc => ?_
    simpa using ne_of_mem_of_not_mem hc (h.not_mem (by decide))
  unfold ungroup?
  dsimp only
  rw [hpieces, if_neg (by simpa using h.nonempty)]
  simpa using mapM_digitIn? h.isDigit

/-- The value of digits, as the digits of a number are evaluated. -/
theorem valueOf_map_digits (cs : List Char) :
    valueOf 10 (cs.map (·.toNat - 48)) = Nat.ofDigitChars 10 cs 0 := by
  rw [valueOf, List.foldl_map, Nat.ofDigitChars]
  simp only [Nat.mul_comm 10]
  rfl

/-- **The digits of a number begin with a zero** only if it is zero. -/
theorem eq_zero_of_head?_toDigits {n : Nat} (h : (Nat.toDigits 10 n).head? = some '0') : n = 0 := by
  induction n using Nat.strongRecOn with
  | _ n ih =>
      by_cases hsmall : n < 10
      · have hdigit : ∀ d < 10, Nat.digitChar d = '0' → d = 0 := by decide
        rw [Nat.toDigits_of_lt_base hsmall] at h
        exact hdigit n hsmall (Option.some.inj h)
      · -- the first digit is that of the number without its last digit
        rw [Nat.toDigits_of_base_le (by decide) (by omega), List.head?_append,
          List.head?_eq_some_head Nat.toDigits_ne_nil] at h
        have hzero : n / 10 = 0 := by
          refine ih (n / 10) (by omega) ?_
          rw [List.head?_eq_some_head Nat.toDigits_ne_nil]
          exact h
        omega

/-- Digits are no base mark. -/
theorem readNatural?_of_digits (h : Digits cs) : readNatural? cs = readUnmarked? cs := by
  unfold readNatural?
  split
  · exact absurd (by simp) (h.not_mem (by decide : 'x'.isDigit = false))
  · exact absurd (by simp) (h.not_mem (by decide : 'X'.isDigit = false))
  · exact absurd (by simp) (h.not_mem (by decide : 'o'.isDigit = false))
  · exact absurd (by simp) (h.not_mem (by decide : 'O'.isDigit = false))
  · exact absurd (by simp) (h.not_mem (by decide : 'b'.isDigit = false))
  · exact absurd (by simp) (h.not_mem (by decide : 'B'.isDigit = false))
  · rfl

theorem head?_map_digits (h : Digits cs) :
    (cs.map (·.toNat - 48)).head? = some 0 ↔ cs.head? = some '0' := by
  rw [List.head?_map, Option.map_eq_some_iff]
  constructor
  · rintro ⟨c, hc, hcode⟩
    have hrange := isDigit_range (h.isDigit c (List.mem_of_mem_head? hc))
    obtain rfl : c = '0' := Char.toNat_inj.1 (by simp; omega)
    exact hc
  · intro hc
    exact ⟨'0', hc, rfl⟩

/-- **Digits are read as the number they denote,** except those of another number than zero that
start with a zero. -/
theorem readNatural?_digits (h : Digits cs) (hshort : cs.length ≤ maxDecimalDigits) :
    readNatural? cs = if cs.head? = some '0' ∧ Nat.ofDigitChars 10 cs 0 ≠ 0 then none
      else some (Nat.ofDigitChars 10 cs 0) := by
  rw [readNatural?_of_digits h, readUnmarked?, ungroup?_of_digits h]
  simp only [Option.bind_eq_bind, Option.bind_some, valueOf_map_digits, List.length_map]
  rw [if_neg (by omega)]
  simp only [head?_map_digits h, Bool.and_eq_true, decide_eq_true_eq]

/-- **The digits of a natural number** are read back. -/
theorem readNatural?_toDigits {n : Nat} (h : (Nat.toDigits 10 n).length ≤ maxDecimalDigits) :
    readNatural? (Nat.toDigits 10 n) = some n := by
  rw [readNatural?_digits (digits_toDigits n) h,
    Nat.ofDigitChars_toDigits (by decide) (by decide)]
  refine if_neg ?_
  rintro ⟨hhead, hn⟩
  exact hn (eq_zero_of_head?_toDigits hhead)

/-! ## The text as a whole -/

theorem plain?_of_ascii (h : ∀ c ∈ cs, c.toNat < 128) : plain? cs = some cs := by
  rw [plain?, if_pos (by simpa using h)]

theorem dropWhile_of_forall_not {p : Char → Bool} (h : ∀ c ∈ cs, p c = false) :
    cs.dropWhile p = cs := by
  cases cs with
  | nil => rfl
  | cons c cs => exact List.dropWhile_cons_of_neg (by simp [h c (by simp)])

theorem trimPlain_of_forall_not (h : ∀ c ∈ cs, isPlainBlank c = false) : trimPlain cs = cs := by
  rw [trimPlain, dropWhile_of_forall_not h, dropWhile_of_forall_not (by simpa using h),
    List.reverse_reverse]

/-- **Digits under a sign.** -/
def withSign (negative : Bool) (cs : List Char) : List Char :=
  if negative then '-' :: cs else cs

theorem isDigit_or_of_mem_withSign (h : Digits cs) {negative : Bool} {c : Char}
    (hc : c ∈ withSign negative cs) : c.isDigit = true ∨ c = '-' := by
  cases negative with
  | false => exact .inl (h.isDigit c hc)
  | true =>
      rcases List.mem_cons.1 hc with rfl | hc
      · exact .inr rfl
      · exact .inl (h.isDigit c hc)

/-- **Digits under a sign** are ASCII, have no blanks around them, and are split into the two. -/
theorem splitSign_withSign (h : Digits cs) (negative : Bool) :
    plain? (withSign negative cs) = some (withSign negative cs) ∧
      trimPlain (withSign negative cs) = withSign negative cs ∧
      splitSign (withSign negative cs) = (negative, cs) := by
  refine ⟨plain?_of_ascii fun c hc => ?_, trimPlain_of_forall_not fun c hc => ?_, ?_⟩
  · rcases isDigit_or_of_mem_withSign h hc with hdigit | rfl
    · have hrange := isDigit_range hdigit
      omega
    · decide
  · rcases isDigit_or_of_mem_withSign h hc with hdigit | rfl
    · have hrange := isDigit_range hdigit
      have hspace : c ≠ ' ' := by
        rintro rfl
        cases hdigit
      have hreturn : ¬ c ≤ '\r' := by
        intro hle
        have hcode : c.toNat ≤ 13 := hle
        omega
      simp [isPlainBlank, hspace, hreturn]
    · decide
  · cases negative with
    | true => rfl
    | false =>
        show splitSign cs = (false, cs)
        unfold splitSign
        split
        · exact absurd (by simp) (h.not_mem (by decide : '-'.isDigit = false))
        · exact absurd (by simp) (h.not_mem (by decide : '+'.isDigit = false))
        · rfl

/-- **Digits under a sign are read** as the digits are. -/
theorem readInteger?_withSign (h : Digits cs) (negative : Bool) :
    readInteger? (withSign negative cs) =
      (readNatural? cs).map fun n : Nat => if negative then -(n : Int) else n := by
  obtain ⟨hplain, htrim, hsplit⟩ := splitSign_withSign h negative
  rw [readInteger?, hplain, Option.bind_eq_bind, Option.bind_some, htrim, hsplit]
  dsimp only
  cases readNatural? cs <;> rfl

/-- The sign and the digits of an integer. -/
theorem toList_toString (n : Int) :
    (toString n).toList = if 0 ≤ n then Nat.toDigits 10 n.natAbs
      else '-' :: Nat.toDigits 10 n.natAbs := by
  rw [Int.toString_eq_repr, Int.repr_eq_if]
  split
  · rw [Nat.toList_repr]
    congr 1
    omega
  · have hnat : (-n).toNat = n.natAbs := by omega
    rw [String.toList_append, Nat.toList_repr, hnat]
    rfl

/-- The characters of an integer are digits and the sign. -/
theorem isDigit_or_of_mem_toString {n : Int} {c : Char} (h : c ∈ (toString n).toList) :
    c.isDigit = true ∨ c = '-' := by
  have hdigit := (digits_toDigits n.natAbs).isDigit c
  rw [toList_toString] at h
  split at h
  · exact .inl (hdigit h)
  · rcases List.mem_cons.1 h with rfl | h
    · exact .inr rfl
    · exact .inl (hdigit h)

/-- **The decimal text of an integer** is read back. -/
theorem readInteger?_toString {n : Int}
    (h : (Nat.toDigits 10 n.natAbs).length ≤ maxDecimalDigits) :
    readInteger? (toString n).toList = some n := by
  have hdigits := digits_toDigits n.natAbs
  rw [toList_toString]
  split
  · refine (readInteger?_withSign hdigits false).trans ?_
    rw [readNatural?_toDigits h]
    show some (n.natAbs : Int) = some n
    rw [Int.natAbs_of_nonneg (by assumption)]
  · refine (readInteger?_withSign hdigits true).trans ?_
    rw [readNatural?_toDigits h]
    show some (-(n.natAbs : Int)) = some n
    rw [Int.ofNat_natAbs_of_nonpos (by omega), Int.neg_neg]

end

end ScriptBindings.Numeral
