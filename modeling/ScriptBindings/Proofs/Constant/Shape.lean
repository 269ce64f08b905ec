import ScriptBindings.Constant.Literal
import ScriptBindings.Proofs.Number.Shape
import ScriptBindings.Proofs.Traversal

/-!
# The shape of literals

Whatever value a constant is given, and whatever its type is, a literal that is written at all can
be read as one of that type in C++.  Three mistakes would go unnoticed until then: a zero before
other digits makes an octal number, a suffix needs a fraction or an exponent before it, and an
infinity is no literal at all.

* `Scalar.Writes` — the texts that are literals of a scalar.
* `ScriptType.Writes` — those of a type: the literals of a vector or matrix are lists of literals in
  braces, with no list inside another.
* `writes_of_literal` — every literal that is written is one of them.

Types without literals have no texts here, so for them the statement says that nothing is written.
-/

namespace ScriptBindings

open ScriptBindings.Text Numeral Traversal

/-- **The literals of a scalar**: a word for a truth value, a whole number for an integer, and a
magnitude for a double, followed by one `f` below double precision. -/
inductive Scalar.Writes : Scalar → List Char → Prop
  | no : Writes .bool "false".toList
  | yes : Writes .bool "true".toList
  | whole {s : Scalar} {cs : List Char} (integral : ¬ s.isFloating) (number : s ≠ .bool)
      (shaped : Signed Whole cs) : Writes s cs
  | single {s : Scalar} {cs : List Char} (narrow : s = .half ∨ s = .float)
      (shaped : Signed Magnitude cs) : Writes s (cs ++ ['f'])
  | double {cs : List Char} (shaped : Signed Magnitude cs) : Writes .double cs

/-- **A list in braces**: entries of a shape with commas between them, none of which has a brace. -/
inductive Enclosed (shape : List Char → Prop) : List Char → Prop
  | entries {parts : List (List Char)} (shaped : ∀ p ∈ parts, shape p)
      (flat : ∀ p ∈ parts, '{' ∉ p ∧ '}' ∉ p) :
      Enclosed shape ('{' :: (List.intercalate [',', ' '] parts ++ ['}']))

/-- **The literals of a type.** -/
inductive ScriptType.Writes : ScriptType → List Char → Prop
  | scalar {s : Scalar} {cs : List Char} (written : s.Writes cs) : Writes (scalar (.known s)) cs
  | vector {s : Scalar} {length : Int} {cs : List Char} (numeric : s ≠ .bool)
      (written : Enclosed s.Writes cs) : Writes (vector (.known s) length) cs
  | matrix {rows : Int} {cs : List Char} (written : Enclosed Scalar.float.Writes cs) :
      Writes (matrix rows) cs

/-! ## Literals of scalars -/

namespace Scalar.Writes

variable {s : Scalar} {cs : List Char}

/-- The characters of a literal: letters, digits and three marks. -/
theorem consists (h : s.Writes cs) : Consists ['-', '+', '.'] cs := by
  cases h with
  | no | yes => exact consists_of_isName (by decide)
  | whole _ _ hshaped => exact hshaped.consists (fun _ h => h.digits.consists) (by simp)
  | single _ hshaped =>
      exact consists_append (hshaped.consists (fun _ h => h.consists) (by simp))
        (consists_of_isName (by decide))
  | double hshaped => exact hshaped.consists (fun _ h => h.consists) (by simp)

theorem ne_nil (h : s.Writes cs) : cs ≠ [] := by
  cases h with
  | no | yes => simp
  | whole _ _ hshaped => exact hshaped.ne_nil fun h => h.digits.nonempty
  | single => simp
  | double hshaped => exact hshaped.ne_nil Magnitude.ne_nil

/-- A literal of a scalar is one word. -/
theorem tight (h : s.Writes cs) : Tight cs := by
  refine .of_forall_not h.ne_nil (h.consists.forall_not_isBlank ?_)
  exact List.forall_mem_cons.2 ⟨rfl, List.forall_mem_cons.2 ⟨rfl, List.forall_mem_singleton.2 rfl⟩⟩

/-- **A double is a literal** of every floating-point type, once its suffix is there. -/
theorem of_isFinite {x : Binary64} (hfinite : x.isFinite = true) (hs : s.isFloating = true) :
    s.Writes (x.text .constant ++ if s = .double then "" else "f").toList := by
  have hshaped := Binary64.signed_text hfinite .constant
  rw [String.toList_append]
  cases s with
  | half => exact .single (.inl rfl) hshaped
  | float => exact .single (.inr rfl) hshaped
  | double => simpa using double hshaped
  | _ => cases hs

end Scalar.Writes

/-- **An integer that is written** is a whole number. -/
theorem signed_of_integerLiteral {n : Int} {text : String} (h : integerLiteral n = .ok text) :
    Signed Whole text.toList := by
  rw [integerLiteral] at h
  split at h <;> cases h
  exact signed_toString n

/-- **The literal of an integer scalar** is that of an integer. -/
theorem scalarLiteral_integer {s : Scalar} (hinteger : ¬ s.isFloating) (hnumber : s ≠ .bool)
    (value : Initializer) :
    ScriptType.scalarLiteral (.known s) value = (do integerLiteral (← value.toIntegral)) := by
  rw [ScriptType.scalarLiteral, Tag.resolve_known, ok_bind, if_neg hnumber, if_neg hinteger]

/-- **The literal of a scalar** is one of those that it has. -/
theorem writes_of_scalarLiteral {s : Scalar} {value : Initializer} {text : String}
    (h : ScriptType.scalarLiteral (.known s) value = .ok text) : s.Writes text.toList := by
  rw [ScriptType.scalarLiteral, Tag.resolve_known, ok_bind] at h
  by_cases hbool : s = .bool
  · subst hbool
    cases h
    cases value.truth with
    | false => exact .no
    | true => exact .yes
  rw [if_neg hbool] at h
  by_cases hfloating : s.isFloating
  · rw [if_pos hfloating] at h
    obtain ⟨x, -, h⟩ := bind_eq_ok_iff.1 h
    cases hfinite : x.isFinite with
    | false => simp [hfinite] at h
    | true =>
        simp only [hfinite] at h
        cases h
        exact .of_isFinite hfinite hfloating
  · rw [if_neg hfloating] at h
    obtain ⟨n, -, h⟩ := bind_eq_ok_iff.1 h
    exact .whole hfloating hbool (signed_of_integerLiteral h)

theorem writes_of_mem_scalarLiterals {s : Scalar} {values : List Initializer} {texts : List String}
    (h : values.mapM (ScriptType.scalarLiteral (.known s)) = .ok texts) :
    ∀ p ∈ texts.map String.toList, s.Writes p := by
  intro p hp
  obtain ⟨text, htext, rfl⟩ := List.mem_map.1 hp
  obtain ⟨value, -, hvalue⟩ := exists_of_mem_mapM h htext
  exact writes_of_scalarLiteral hvalue

/-! ## Lists of literals -/

/-- The text in braces, as characters. -/
theorem toList_braced (items : List String) :
    (braced items).toList =
      '{' :: (List.intercalate [',', ' '] (items.map String.toList) ++ ['}']) := by
  rw [braced, String.toList_append, String.toList_append, String.toList_intercalate]
  rfl

/-- **Literals in braces** are an enclosed list, since none of them has a brace itself. -/
theorem enclosed_of_scalarLiterals {s : Scalar} {values : List Initializer} {texts : List String}
    (h : values.mapM (ScriptType.scalarLiteral (.known s)) = .ok texts) :
    Enclosed s.Writes (braced texts).toList := by
  have hwrites := writes_of_mem_scalarLiterals h
  have hflat {brace : Char} (hword : isWordChar brace = false) (hmark : brace ∉ ['-', '+', '.']) :
      ∀ p ∈ texts.map String.toList, brace ∉ p :=
    fun p hp => (hwrites p hp).consists.not_mem hword hmark
  rw [toList_braced]
  exact .entries hwrites fun p hp =>
    ⟨hflat (by decide) (by decide) p hp, hflat (by decide) (by decide) p hp⟩

/-! ## Literals of types -/

section

variable {s : Scalar} {length rows : Int} {value : Initializer} {text : String}

/-- **The literal of a vector** has one entry for each of its values. -/
theorem literal_vector_eq_ok_iff :
    (ScriptType.vector (.known s) length).literal value = .ok text ↔
      s ≠ .bool ∧ ∃ texts, (ScriptType.elementValues length value).mapM
        (ScriptType.scalarLiteral (.known s)) = .ok texts ∧ text = braced texts := by
  rw [ScriptType.literal, ScriptType.render, ScriptType.elementSpelling, Tag.resolve_known, ok_bind]
  by_cases hbool : s = .bool
  · rw [if_pos hbool]
    exact iff_of_false nofun fun h => h.1 hbool
  · have hsize : ∃ size, vectorSize (.known s) length = .ok size := ⟨_, rfl⟩
    obtain ⟨size, hsize⟩ := hsize
    rw [if_neg hbool, hsize]
    simp only [ok_bind, pure_eq_ok, bind_eq_ok_iff, Except.ok.injEq, eq_comm (a := text)]
    exact (and_iff_right hbool).symm

/-- **The literal of a matrix** needs a group of as many values as the matrix has elements. -/
theorem literal_matrix_eq_ok_iff :
    (ScriptType.matrix rows).literal value = .ok text ↔
      ∃ items texts, value = .group items ∧ (items.length : Int) = rows * rows ∧
        items.mapM (ScriptType.scalarLiteral (.known .float)) = .ok texts ∧
        text = braced texts := by
  constructor
  · intro h
    obtain ⟨rendered, -, h⟩ := bind_eq_ok_iff.1 h
    cases value with
    | group items =>
        dsimp only at h
        split at h
        · rename_i hcount
          obtain ⟨texts, htexts, heq⟩ := bind_eq_ok_iff.1 h
          cases heq
          exact ⟨items, texts, rfl, hcount, htexts, rfl⟩
        · cases h
    | _ => cases h
  · rintro ⟨items, texts, rfl, hcount, htexts, rfl⟩
    have hrender : ∃ rendered, (ScriptType.matrix rows).render = .ok rendered := ⟨_, rfl⟩
    obtain ⟨rendered, hrender⟩ := hrender
    rw [ScriptType.literal, hrender, ok_bind]
    dsimp only
    rw [if_pos hcount, htexts]
    rfl

/-- **Every literal has the shape of its type.** -/
theorem writes_of_literal {type : ScriptType} (h : type.literal value = .ok text) :
    type.Writes text.toList := by
  cases type with
  | scalar tag =>
      obtain ⟨rendered, hrendered, h⟩ := bind_eq_ok_iff.1 h
      cases tag with
      | unknown name => cases hrendered
      | known s => exact .scalar (writes_of_scalarLiteral h)
  | vector element length =>
      cases element with
      | unknown name => cases h
      | known s =>
          obtain ⟨hnumeric, texts, htexts, rfl⟩ := literal_vector_eq_ok_iff.1 h
          exact .vector hnumeric (enclosed_of_scalarLiterals htexts)
  | matrix rows =>
      obtain ⟨items, texts, rfl, hcount, htexts, rfl⟩ := literal_matrix_eq_ok_iff.1 h
      exact .matrix (enclosed_of_scalarLiterals htexts)
  | object | record | untyped =>
      obtain ⟨rendered, -, h⟩ := bind_eq_ok_iff.1 h
      cases h

/-- A vector of doubles from a truth value, an integer and a small fraction. -/
theorem writes_of_literal_mixed :
    ∃ text, (ScriptType.vector (.known .double) 3).literal
        (.group [.bool true, .int (-7), .float (.ofRatio false 1 100000)]) = .ok text ∧
      (ScriptType.vector (.known .double) 3).Writes text.toList := by
  obtain ⟨text, htext⟩ : ∃ text, (ScriptType.vector (.known .double) 3).literal
      (.group [.bool true, .int (-7), .float (.ofRatio false 1 100000)]) = .ok text := ⟨_, rfl⟩
  exact ⟨text, htext, writes_of_literal htext⟩

end

end ScriptBindings
