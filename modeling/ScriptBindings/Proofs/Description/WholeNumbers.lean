import ScriptBindings.Proofs.Constant.Shape
import ScriptBindings.Proofs.Description.Printing
import ScriptBindings.Proofs.Number.Exact

/-!
# Constants that are whole numbers

A whole number is read as an integer, and written as one.  Digits that start with a zero are not
read as an integer, but as the nearest double; if the type of the constant is one of integers, the
integer part of that double is what is written.

* `Initializer.ofDigits` — what digits under a sign are read as.
* `Initializer.toIntegral_ofDigits_iff` — it is the integer that the digits denote, unless they
  start with a zero and no double holds that integer.
* `WritesDenoted`, `writesDenoted_iff` — the same for the literal of a constant, from the
  description that declares it.
-/

namespace ScriptBindings

open ScriptBindings.Text Traversal

/-! ## A description of one constant -/

section

variable {typeName name : String} {value : List Char}

/-- **A description of one constant** is read by reading the constant. -/
theorem read_constantText (htype : isName typeName.toList) (hname : isName name.toList)
    (hvalue : Tight value) (hmarks : Consists Declaration.marks value) :
    Surface.read (String.ofList (Declaration.constantText typeName name value ++ [';'])) =
      (do return ⟨[← Declaration.readConstant typeName name value], [], []⟩) := by
  have htight := Declaration.tight_constantText htype hname hvalue
  have hconsists := Declaration.consists_constantText htype hname hmarks
  have hform := Form.ofChars?_eq_some_iff.2 (Form.spells_constant htype hname hvalue)
  generalize Declaration.constantText typeName name value = text at htight hconsists hform
  have hsemicolon : ';' ∉ text := hconsists.not_mem (by decide) (by decide)
  have hslash : '/' ∉ text := hconsists.not_mem (by decide) (by decide)
  have hpieces : pieces (· == ';') (text ++ [';']) = [text, []] :=
    pieces_append_sep (fun c hc => by simpa using ne_of_mem_of_not_mem hc hsemicolon) rfl []
  have hsplit : Declaration.split (text ++ [';']) = [text] := by
    rw [split_eq, Comments.remove_of_not_mem (by simp [hslash]), hpieces]
    simp [htight.not_blank, htight.squeeze_eq, blank_nil]
  have hread : Declaration.read text =
      (do return .variable (← Declaration.readConstant typeName name value)) := by
    rw [Declaration.read, hform]
    rfl
  rw [Surface.read, String.toList_ofList, hsplit]
  simp only [List.mapM_cons, List.mapM_nil, hread]
  cases Declaration.readConstant typeName name value <;> rfl

end

/-! ## Digits under a sign -/

section

variable {digits : List Char} {negative : Bool}

/-- **The integer that digits denote** under a sign. -/
def Numeral.denoted (negative : Bool) (digits : List Char) : Int :=
  if negative then -(Nat.ofDigitChars 10 digits 0 : Int) else Nat.ofDigitChars 10 digits 0

/-- **What digits under a sign are read as**: the integer that they denote, or the nearest double if
they start with a zero that could be left out. -/
def Initializer.ofDigits (negative : Bool) (digits : List Char) : Initializer :=
  if digits.head? = some '0' ∧ Nat.ofDigitChars 10 digits 0 ≠ 0 then
    .float (Numeral.nearest negative (digits.map (·.toNat - 48)) 0)
  else .int (Numeral.denoted negative digits)

/-- Digits under a sign have no suffix. -/
theorem Initializer.dropSuffix_withSign (h : Numeral.Digits digits) :
    dropSuffix (Numeral.withSign negative digits) = Numeral.withSign negative digits := by
  have hnot : ∀ c ∈ (Numeral.withSign negative digits).reverse, (c == 'f' || c == 'F') = false := by
    intro c hc
    rcases Numeral.isDigit_or_of_mem_withSign h (List.mem_reverse.1 hc) with hdigit | rfl
    · have hf : c ≠ 'f' := by rintro rfl; cases hdigit
      have hF : c ≠ 'F' := by rintro rfl; cases hdigit
      simp [hf, hF]
    · rfl
  rw [dropSuffix, Numeral.dropWhile_of_forall_not hnot, List.reverse_reverse]

/-- **Reading digits under a sign.** -/
theorem Initializer.read_withSign (h : Numeral.Digits digits)
    (hshort : digits.length ≤ Numeral.maxDecimalDigits) :
    Initializer.read (Numeral.withSign negative digits) = .ok (ofDigits negative digits) := by
  have hnumber : readNumber? (Numeral.withSign negative digits) =
      some (ofDigits negative digits) := by
    rw [readNumber?, Numeral.readInteger?_withSign h, Numeral.readNatural?_digits h hshort,
      ofDigits]
    by_cases hzero : digits.head? = some '0' ∧ Nat.ofDigitChars 10 digits 0 ≠ 0
    · rw [if_pos hzero, if_pos hzero, Option.map_none]
      dsimp only
      rw [dropSuffix_withSign h, Numeral.readDecimal?_withSign h, Option.map_some]
    · rw [if_neg hzero, if_neg hzero, Option.map_some]
      rfl
  exact readWithin_of_readNumber? (fun _ hc => Numeral.isDigit_or_of_mem_withSign h hc) blank_nil
    hnumber _

/-- The integer that digits denote has at most as many digits. -/
theorem Numeral.length_toDigits_denoted (h : Digits digits) :
    (Nat.toDigits 10 (denoted negative digits).natAbs).length ≤ digits.length := by
  have habs : (denoted negative digits).natAbs = Nat.ofDigitChars 10 digits 0 := by
    rw [denoted]
    split <;> omega
  have hdigit : ∀ d ∈ digits.map (·.toNat - 48), d < 10 := by
    intro d hd
    obtain ⟨c, hc, rfl⟩ := List.mem_map.1 hd
    have hrange := isDigit_range (h.isDigit c hc)
    omega
  have hvalue := valueOf_lt_pow hdigit
  rw [valueOf_map_digits, List.length_map] at hvalue
  rw [habs, Nat.length_toDigits_le_iff (by decide) (List.length_pos_iff.2 h.nonempty)]
  exact hvalue

/-- A double as an integer is its integer part. -/
theorem Initializer.toIntegral_float_eq_ok_iff {x : Binary64} {n : Int} :
    (Initializer.float x).toIntegral = .ok n ↔ x.truncate? = some n := by
  cases x with
  | finite negative significand exponent =>
      show (Except.ok _ : Except Fault Int) = .ok n ↔ some _ = some n
      rw [Except.ok.injEq, Option.some_inj]
      rfl
  | infinity | nan => exact iff_of_false nofun nofun

/-- **What digits are read as** is the integer that they denote, for a type of integers, exactly if
they do not start with a zero or a double holds that integer. -/
theorem Initializer.toIntegral_ofDigits_iff :
    (ofDigits negative digits).toIntegral = .ok (Numeral.denoted negative digits) ↔
      digits.head? ≠ some '0' ∨ Binary64.Holds (Nat.ofDigitChars 10 digits 0) := by
  rw [ofDigits]
  by_cases hzero : digits.head? = some '0' ∧ Nat.ofDigitChars 10 digits 0 ≠ 0
  · rw [if_pos hzero, toIntegral_float_eq_ok_iff, Numeral.denoted, ← Numeral.valueOf_map_digits,
      Numeral.truncate?_nearest_iff]
    exact (or_iff_right (not_not_intro hzero.1)).symm
  · rw [if_neg hzero]
    refine iff_of_true rfl ?_
    by_cases hhead : digits.head? = some '0'
    · have hvalue : Nat.ofDigitChars 10 digits 0 = 0 := by
        by_contra hvalue
        exact hzero ⟨hhead, hvalue⟩
      rw [hvalue]
      exact .inr (Binary64.holds_of_lt (by decide))
    · exact .inl hhead

end

/-! ## Literals of integers -/

/-- **An integer that is written** is read back. -/
theorem readInteger?_of_integerLiteral {n : Int} {text : String}
    (h : integerLiteral n = .ok text) : Numeral.readInteger? text.toList = some n := by
  have hshort : (Nat.toDigits 10 n.natAbs).length ≤ Numeral.maxDecimalDigits := by
    rw [Nat.length_toDigits_le_iff (by decide) (by decide)]
    rw [integerLiteral, Nat.pow_eq] at h
    generalize 10 ^ Numeral.maxDecimalDigits = limit at h ⊢
    split at h
    · cases h
    · omega
  rw [integerLiteral_of_short hshort] at h
  cases h
  exact Numeral.readInteger?_toString hshort

/-- **A value is written as an integer,** for a type of integers, exactly if it is that integer:
two integers never have the same text, since either is read back from it. -/
theorem literal_eq_toString_iff {s : Scalar} (hinteger : ¬ s.isFloating) (hnumber : s ≠ .bool)
    {n : Int} (hshort : (Nat.toDigits 10 n.natAbs).length ≤ Numeral.maxDecimalDigits)
    {value : Initializer} :
    (ScriptType.scalar (.known s)).literal value = .ok (toString n) ↔ value.toIntegral = .ok n := by
  show ScriptType.scalarLiteral (.known s) value = _ ↔ _
  rw [scalarLiteral_integer hinteger hnumber, bind_eq_ok_iff]
  constructor
  · rintro ⟨m, hm, htext⟩
    have hsame := readInteger?_of_integerLiteral htext
    rw [Numeral.readInteger?_toString hshort] at hsame
    rw [hm, Option.some.inj hsame]
  · intro hn
    exact ⟨n, hn, integerLiteral_of_short hshort⟩

/-! ## Descriptions -/

section

variable {typeName name : String} {type : ScriptType} {digits : List Char} {negative : Bool}

/-- **A constant with digits for its value** is read as what they are read as, if that has a
literal. -/
theorem read_constantText_eq_ok_iff (htype : ScriptType.ofName? typeName = some type)
    (hname : isName name.toList) (h : Numeral.Digits digits)
    (hshort : digits.length ≤ Numeral.maxDecimalDigits) {value : Initializer} :
    Surface.read (String.ofList (Declaration.constantText typeName name
        (Numeral.withSign negative digits) ++ [';'])) =
        .ok ⟨[⟨name, type, some value⟩], [], []⟩ ↔
      value = .ofDigits negative digits ∧ ∃ text, type.literal value = .ok text := by
  have hconsists : Consists ['-'] (Numeral.withSign negative digits) :=
    consists_of_isDigit fun c hc =>
      (Numeral.isDigit_or_of_mem_withSign h hc).imp_right List.mem_singleton.2
  have hne : Numeral.withSign negative digits ≠ [] := by
    cases negative with
    | false => exact h.nonempty
    | true => exact List.cons_ne_nil _ _
  have htight : Tight (Numeral.withSign negative digits) :=
    .of_forall_not hne (hconsists.forall_not_isBlank (List.forall_mem_singleton.2 rfl))
  rw [read_constantText (ScriptType.isName_of_ofName? htype) hname htight
    (hconsists.mono (by decide)), Declaration.readConstant, typeRead_eq_ok_iff.2 htype, ok_bind,
    Initializer.read_withSign h hshort, ok_bind]
  cases hliteral : type.literal (.ofDigits negative digits) with
  | ok text =>
      simp only [pure_eq_ok, ok_bind, Except.ok.injEq, Surface.mk.injEq, List.cons.injEq,
        Variable.mk.injEq, Option.some.injEq, true_and, and_true]
      constructor
      · rintro rfl
        exact ⟨rfl, text, hliteral⟩
      · rintro ⟨rfl, -⟩
        rfl
  | error fault =>
      constructor
      · intro h
        cases h
      · rintro ⟨rfl, text, htext⟩
        rw [hliteral] at htext
        cases htext

/-- **A description of one constant,** whose literal is the integer that its digits denote. -/
def WritesDenoted (typeName name : String) (s : Scalar) (negative : Bool) (digits : List Char) :
    Prop :=
  ∃ value,
    Surface.read (String.ofList (Declaration.constantText typeName name
      (Numeral.withSign negative digits) ++ [';'])) =
        .ok ⟨[⟨name, .scalar (.known s), some value⟩], [], []⟩ ∧
    (ScriptType.scalar (.known s)).literal value = .ok (toString (Numeral.denoted negative digits))

theorem writesDenoted_iff_toIntegral {s : Scalar}
    (htype : ScriptType.ofName? typeName = some (.scalar (.known s))) (hinteger : ¬ s.isFloating)
    (hnumber : s ≠ .bool) (hname : isName name.toList) (h : Numeral.Digits digits)
    (hshort : digits.length ≤ Numeral.maxDecimalDigits) :
    WritesDenoted typeName name s negative digits ↔
      (Initializer.ofDigits negative digits).toIntegral =
        .ok (Numeral.denoted negative digits) := by
  have hdenoted : (Nat.toDigits 10 (Numeral.denoted negative digits).natAbs).length ≤
      Numeral.maxDecimalDigits := (Numeral.length_toDigits_denoted h).trans hshort
  rw [← literal_eq_toString_iff hinteger hnumber hdenoted, WritesDenoted]
  simp only [read_constantText_eq_ok_iff htype hname h hshort]
  constructor
  · rintro ⟨_, ⟨rfl, -⟩, hliteral⟩
    exact hliteral
  · intro hliteral
    exact ⟨_, ⟨rfl, _, hliteral⟩, hliteral⟩

/-- **A constant is written as the integer that its digits denote,** if its type is one of integers,
exactly if the digits do not start with a zero or a double holds the integer. -/
theorem writesDenoted_iff {s : Scalar}
    (htype : ScriptType.ofName? typeName = some (.scalar (.known s))) (hinteger : ¬ s.isFloating)
    (hnumber : s ≠ .bool) (hname : isName name.toList) (h : Numeral.Digits digits)
    (hshort : digits.length ≤ Numeral.maxDecimalDigits) :
    WritesDenoted typeName name s negative digits ↔
      digits.head? ≠ some '0' ∨ Binary64.Holds (Nat.ofDigitChars 10 digits 0) := by
  rw [writesDenoted_iff_toIntegral htype hinteger hnumber hname h hshort]
  exact Initializer.toIntegral_ofDigits_iff

/-- A zero before the digits of `2^60 + 256`, which a double holds. -/
theorem writesDenoted_iff_padded :
    Numeral.Digits "01152921504606847232".toList ∧
      ∃ value, Surface.read "const long x = -01152921504606847232;" =
          .ok ⟨[⟨"x", .scalar (.known .long), some value⟩], [], []⟩ ∧
        (ScriptType.scalar (.known .long)).literal value = .ok "-1152921504606847232" := by
  have hdigits : Numeral.Digits "01152921504606847232".toList :=
    ⟨by decide, List.all_eq_true.1 rfl⟩
  have hholds : Binary64.Holds (Nat.ofDigitChars 10 "01152921504606847232".toList 0) :=
    ⟨2 ^ 52 + 1, 8, by decide, by decide, by decide⟩
  have htext : "const long x = -01152921504606847232;" =
      String.ofList (Declaration.constantText "long" "x"
        (Numeral.withSign true "01152921504606847232".toList) ++ [';']) := by decide
  have hdenoted : "-1152921504606847232" =
      toString (Numeral.denoted true "01152921504606847232".toList) := by decide
  rw [htext, hdenoted]
  exact ⟨hdigits, (writesDenoted_iff rfl (by decide) (by decide) (by decide) hdigits
    (by decide)).2 (.inr hholds)⟩

/-- A zero before the digits of the first integer that no double holds. -/
theorem not_writesDenoted_padded :
    ¬ ∀ (typeName name : String) (s : Scalar) (negative : Bool) (digits : List Char),
      ScriptType.ofName? typeName = some (.scalar (.known s)) → ¬ s.isFloating → s ≠ .bool →
        isName name.toList → Numeral.Digits digits → digits.length ≤ Numeral.maxDecimalDigits →
          WritesDenoted typeName name s negative digits := by
  intro h
  have hdigits : Numeral.Digits "09007199254740993".toList :=
    ⟨by decide, List.all_eq_true.1 rfl⟩
  have hwrites := h "long" "x" .long false "09007199254740993".toList rfl (by decide) (by decide)
    (by decide) hdigits (by decide)
  rw [writesDenoted_iff_toIntegral rfl (by decide) (by decide) (by decide) hdigits (by decide),
    Initializer.toIntegral_ofDigits_iff] at hwrites
  rcases hwrites with hhead | hholds
  · exact hhead rfl
  · exact Binary64.not_holds_of_odd (by decide) (by decide) hholds

end

end ScriptBindings
