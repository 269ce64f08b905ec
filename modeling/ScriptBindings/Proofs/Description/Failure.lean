import ScriptBindings.Description.Reader
import ScriptBindings.Proofs.Number.Range
import ScriptBindings.Proofs.Types.WellFormed

/-!
# Descriptions that fail

Whatever is wrong with a description is reported to its author, with one exception: a number beyond
the range of its type stops the reading with a fault of its own.  This file says exactly for which
descriptions that happens.

* `ReadError.isReported` — all errors but the exception.
* `Scalar.Exceeds`, `ScriptType.Exceeds` — a value beyond the range of a scalar, and the first one
  in the value of a constant.
* `Declaration.Exceeds` — a constant with such a value.
* `reported_iff` — reading reports what is wrong unless the first declaration that cannot be read is
  such a constant.

There are two ways to be out of range: an integer from `Binary64.leastOverflow` on where a double is
wanted, and an infinite decimal where an integer is wanted.
-/

namespace ScriptBindings

open Traversal

/-! ## Errors that are reported -/

/-- **Errors that are reported** to the author of a description. -/
def ReadError.isReported : ReadError → Bool
  | outOfRange _ => false
  | _ => true

/-- **Faults that nothing reports**: all but those of the wrong sort and of impossible values. -/
def Fault.Unreported (fault : Fault) : Prop :=
  fault.kind ≠ .sort ∧ fault.kind ≠ .value

theorem ofFault_eq_outOfRange_iff {name : String} {fault fault' : Fault} :
    ReadError.ofFault name fault = .outOfRange fault' ↔ fault = fault' ∧ fault.Unreported := by
  rw [ReadError.ofFault, Fault.Unreported]
  cases fault.kind <;> simp

/-! ## Values beyond a range -/

/-- **A value beyond the range of a scalar**, and its fault. -/
inductive Scalar.Exceeds (s : Scalar) : Initializer → Fault → Prop
  /-- The integer has no double. -/
  | integer (floating : s.isFloating) {n : Int} (large : Binary64.leastOverflow ≤ n.natAbs) :
      Exceeds s (.int n) .integerTooLarge
  /-- The decimal has no integer part. -/
  | infinite (integral : ¬ s.isFloating) (number : s ≠ .bool) (negative : Bool) :
      Exceeds s (.float (.infinity negative)) .infinityAsInteger

/-- The scalar whose literals make up the literal of a constant, and the values they are of. -/
def ScriptType.parts? : ScriptType → Initializer → Option (Scalar × List Initializer)
  | scalar (.known s), value => some (s, [value])
  | vector (.known s) length, value => some (s, elementValues length value)
  | matrix rows, .group items =>
      if (items.length : Int) = rows * rows then some (.float, items) else none
  | _, _ => none

/-- **A constant beyond the range of its type**: the first of its parts without a literal is beyond
the range of the scalar. -/
def ScriptType.Exceeds (type : ScriptType) (value : Initializer) (fault : Fault) : Prop :=
  ∃ s before part after, type.parts? value = some (s, before ++ part :: after) ∧
    (∀ p ∈ before, ∃ text, scalarLiteral (.known s) p = .ok text) ∧ s.Exceeds part fault

theorem not_unreported_notReal (given : NonNumber) : ¬ (Fault.notReal given).Unreported := by
  simp [Fault.Unreported, Fault.kind]

theorem not_unreported_notIntegral (given : NonNumber) :
    ¬ (Fault.notIntegral given).Unreported := by
  simp [Fault.Unreported, Fault.kind]

/-- A value without a double goes unreported exactly if it is an integer out of range. -/
theorem toReal_unreported_iff {value : Initializer} {fault : Fault} :
    value.toReal = .error fault ∧ fault.Unreported ↔
      ∃ n, value = .int n ∧ Binary64.leastOverflow ≤ n.natAbs ∧ fault = .integerTooLarge := by
  cases value with
  | bool b => simp [Initializer.toReal]
  | float x => simp [Initializer.toReal]
  | int n =>
      rw [Initializer.toReal]
      simp only [← Binary64.ofInt?_eq_none_iff]
      cases hn : Binary64.ofInt? n with
      | some x => simp [hn]
      | none =>
          constructor
          · rintro ⟨⟨⟩, -⟩
            exact ⟨n, rfl, hn, rfl⟩
          · rintro ⟨_, -, -, rfl⟩
            exact ⟨rfl, by simp [Fault.Unreported, Fault.kind]⟩
  | absent | group =>
      constructor
      · rintro ⟨⟨⟩, hunreported⟩
        exact absurd hunreported (not_unreported_notReal _)
      · rintro ⟨_, ⟨⟩, -⟩

/-- A value without an integer part goes unreported exactly if it is infinite. -/
theorem toIntegral_unreported_iff {value : Initializer} {fault : Fault} :
    value.toIntegral = .error fault ∧ fault.Unreported ↔
      ∃ negative, value = .float (.infinity negative) ∧ fault = .infinityAsInteger := by
  cases value with
  | bool b => simp [Initializer.toIntegral]
  | int n => simp [Initializer.toIntegral]
  | float x =>
      cases x with
      | finite => simp [Initializer.toIntegral]
      | infinity negative =>
          constructor
          · rintro ⟨⟨⟩, -⟩
            exact ⟨negative, rfl, rfl⟩
          · rintro ⟨_, -, rfl⟩
            exact ⟨rfl, by simp [Fault.Unreported, Fault.kind]⟩
      | nan =>
          constructor
          · rintro ⟨⟨⟩, hunreported⟩
            exact absurd rfl hunreported.2
          · rintro ⟨_, ⟨⟩, -⟩
  | absent | group =>
      constructor
      · rintro ⟨⟨⟩, hunreported⟩
        exact absurd hunreported (not_unreported_notIntegral _)
      · rintro ⟨_, ⟨⟩, -⟩

/-- **The literal of a scalar** fails unreported exactly for the values beyond its range. -/
theorem scalarLiteral_unreported_iff {s : Scalar} {value : Initializer} {fault : Fault} :
    ScriptType.scalarLiteral (.known s) value = .error fault ∧ fault.Unreported ↔
      s.Exceeds value fault := by
  have hresolve : (Tag.known s).resolve = .ok s := rfl
  rw [ScriptType.scalarLiteral, hresolve, ok_bind]
  constructor
  · rintro ⟨h, hunreported⟩
    by_cases hbool : s = .bool
    · rw [if_pos hbool] at h
      cases h
    · rw [if_neg hbool] at h
      by_cases hfloating : s.isFloating
      · rw [if_pos hfloating] at h
        rcases bind_eq_error_iff.1 h with hreal | ⟨x, -, hrest⟩
        · obtain ⟨n, rfl, hlarge, rfl⟩ := toReal_unreported_iff.1 ⟨hreal, hunreported⟩
          exact .integer hfloating hlarge
        · split at hrest <;> cases hrest
          exact absurd rfl hunreported.2
      · rw [if_neg hfloating] at h
        rcases bind_eq_error_iff.1 h with hintegral | ⟨n, -, hrest⟩
        · obtain ⟨negative, rfl, rfl⟩ := toIntegral_unreported_iff.1 ⟨hintegral, hunreported⟩
          exact .infinite hfloating hbool negative
        · rw [integerLiteral] at hrest
          split at hrest <;> cases hrest
          exact absurd rfl hunreported.2
  · rintro (⟨hfloating, hlarge⟩ | ⟨hfloating, hbool, negative⟩)
    · have hbool : s ≠ .bool := by
        rintro rfl
        cases hfloating
      obtain ⟨hreal, hunreported⟩ := toReal_unreported_iff.2 ⟨_, rfl, hlarge, rfl⟩
      rw [if_neg hbool, if_pos hfloating, hreal]
      exact ⟨rfl, hunreported⟩
    · obtain ⟨hintegral, hunreported⟩ := toIntegral_unreported_iff.2 ⟨negative, rfl, rfl⟩
      rw [if_neg hbool, if_neg hfloating, hintegral]
      exact ⟨rfl, hunreported⟩

/-- The literals of some values, one after the other, fail unreported at the first without one. -/
theorem scalarLiterals_unreported_iff {s : Scalar} {values : List Initializer} {fault : Fault} :
    values.mapM (ScriptType.scalarLiteral (.known s)) = .error fault ∧ fault.Unreported ↔
      ∃ before part after, values = before ++ part :: after ∧
        (∀ p ∈ before, ∃ text, ScriptType.scalarLiteral (.known s) p = .ok text) ∧
        s.Exceeds part fault := by
  rw [mapM_eq_error_iff]
  constructor
  · rintro ⟨⟨before, part, after, hvalues, hbefore, hpart⟩, hunreported⟩
    exact ⟨before, part, after, hvalues, hbefore,
      scalarLiteral_unreported_iff.1 ⟨hpart, hunreported⟩⟩
  · rintro ⟨before, part, after, hvalues, hbefore, hexceeds⟩
    obtain ⟨hpart, hunreported⟩ := scalarLiteral_unreported_iff.2 hexceeds
    exact ⟨⟨before, part, after, hvalues, hbefore, hpart⟩, hunreported⟩

/-- A type with parts is beyond its range if their literals fail so. -/
theorem exceeds_iff_of_parts? {type : ScriptType} {value : Initializer} {s : Scalar}
    {values : List Initializer} (h : type.parts? value = some (s, values)) {fault : Fault} :
    type.Exceeds value fault ↔
      values.mapM (ScriptType.scalarLiteral (.known s)) = .error fault ∧ fault.Unreported := by
  rw [scalarLiterals_unreported_iff, ScriptType.Exceeds, h]
  constructor
  · rintro ⟨_, before, part, after, heq, hrest⟩
    obtain ⟨rfl, hvalues⟩ := Prod.mk.inj (Option.some.inj heq)
    exact ⟨before, part, after, hvalues, hrest⟩
  · rintro ⟨before, part, after, rfl, hrest⟩
    exact ⟨s, before, part, after, rfl, hrest⟩

theorem not_exceeds_of_parts? {type : ScriptType} {value : Initializer}
    (h : type.parts? value = none) {fault : Fault} : ¬ type.Exceeds value fault := by
  rintro ⟨_, _, _, _, heq, -⟩
  rw [h] at heq
  cases heq

/-- Writing literals in braces fails exactly as the literals do. -/
theorem braced_eq_error_iff {x : Except Fault (List String)} {fault : Fault} :
    (do return braced (← x)) = Except.error fault ↔ x = .error fault := by
  cases x <;> simp

/-- **The literal of a constant of a plain type** fails unreported exactly for the values beyond the
range of the type. -/
theorem literal_unreported_iff {type : ScriptType} (h : type.Plain) {value : Initializer}
    {fault : Fault} :
    type.literal value = .error fault ∧ fault.Unreported ↔ type.Exceeds value fault := by
  obtain ⟨rendered, hrendered⟩ := h.exists_render
  rw [ScriptType.literal, hrendered, ok_bind]
  -- A plain type has a name, so that only the literal itself can fail; handles never have one.
  cases h with
  | scalar s =>
      have hparts : (ScriptType.scalar (.known s)).parts? value = some (s, [value]) := rfl
      rw [exceeds_iff_of_parts? hparts]
      refine and_congr_left' ?_
      cases hs : ScriptType.scalarLiteral (.known s) value <;> simp [hs]
  | @vector s length numeric short =>
      have hparts : (ScriptType.vector (.known s) length).parts? value =
          some (s, ScriptType.elementValues length value) := rfl
      rw [exceeds_iff_of_parts? hparts]
      exact and_congr_left' braced_eq_error_iff
  | @matrix rows small =>
      cases value with
      | group items =>
          by_cases hcount : (items.length : Int) = rows * rows
          · have hparts : (ScriptType.matrix rows).parts? (.group items) =
                some (.float, items) := by
              rw [ScriptType.parts?, if_pos hcount]
            rw [exceeds_iff_of_parts? hparts]
            dsimp only
            rw [if_pos hcount]
            exact and_congr_left' braced_eq_error_iff
          · have hparts : (ScriptType.matrix rows).parts? (.group items) = none := by
              rw [ScriptType.parts?, if_neg hcount]
            refine iff_of_false ?_ (not_exceeds_of_parts? hparts)
            rintro ⟨hfault, hunreported⟩
            dsimp only at hfault
            rw [if_neg hcount] at hfault
            cases hfault
            exact absurd rfl hunreported.2
      | _ =>
          refine iff_of_false ?_ (not_exceeds_of_parts? rfl)
          rintro ⟨⟨⟩, hunreported⟩
          exact absurd rfl hunreported.2
  | object kind =>
      refine iff_of_false ?_ (not_exceeds_of_parts? rfl)
      rintro ⟨⟨⟩, hunreported⟩
      exact absurd rfl hunreported.1

/-! ## What reading reports -/

/-- The error of a type without a name is reported. -/
theorem typeRead_isReported {name : String} {e : ReadError} (h : ScriptType.read name = .error e) :
    e.isReported := by
  rw [ScriptType.read] at h
  split at h
  · cases h
  · cases h
    rfl

theorem fieldRead_isReported {cs : List Char} {e : ReadError} (h : Field.read cs = .error e) :
    e.isReported := by
  rw [Field.read] at h
  split at h
  · rcases bind_eq_error_iff.1 h with htype | ⟨_, -, ⟨⟩⟩
    exact typeRead_isReported htype
  · cases h
    rfl

/-- **The errors of parameters** are reported. -/
theorem packetRead_isReported {name : String} {parameters : List (List Char)} {e : ReadError}
    (h : Packet.read name parameters = .error e) : e.isReported := by
  rcases bind_eq_error_iff.1 h with hfields | ⟨_, -, ⟨⟩⟩
  obtain ⟨_, cs, _, -, -, hcs⟩ := mapM_eq_error_iff.1 hfields
  exact fieldRead_isReported hcs

/-- A value that cannot be read is reported, however deep it stands. -/
theorem readWithin_isReported {depth : Nat} {cs : List Char} {e : ReadError}
    (h : Initializer.readWithin depth cs = .error e) : e.isReported := by
  -- The induction is on the depth: the error of a group is that of an entry one level further in.
  induction depth generalizing cs e with
  | zero =>
      cases h
      rfl
  | succ depth ih =>
      rw [Initializer.readWithin] at h
      dsimp only at h
      split at h
      · cases h
      split at h
      · cases h
      split at h
      · rcases bind_eq_error_iff.1 h with hentries | ⟨_, -, ⟨⟩⟩
        obtain ⟨_, entry, _, -, -, hentry⟩ := mapM_eq_error_iff.1 hentries
        exact ih hentry
      · split at h
        · cases h
        · cases h
          rfl

/-- **A constant beyond the range of its type**, as it is declared. -/
def Declaration.Exceeds (cs : List Char) (fault : Fault) : Prop :=
  ∃ typeName name text type value, Form.ofChars? cs = some (.constant typeName name text) ∧
    ScriptType.ofName? typeName = some type ∧ Initializer.read text = .ok value ∧
    type.Exceeds value fault

/-- **Reading a constant** fails unreported exactly if its value is beyond the range of its type. -/
theorem readConstant_eq_outOfRange_iff {typeName name : String} {text : List Char} {fault : Fault} :
    Declaration.readConstant typeName name text = .error (.outOfRange fault) ↔
      ∃ type value, ScriptType.ofName? typeName = some type ∧ Initializer.read text = .ok value ∧
        type.Exceeds value fault := by
  rw [Declaration.readConstant]
  constructor
  · intro h
    rcases bind_eq_error_iff.1 h with htype | ⟨type, htype, h⟩
    · cases typeRead_isReported htype
    rcases bind_eq_error_iff.1 h with hvalue | ⟨value, hvalue, h⟩
    · cases readWithin_isReported hvalue
    have hname : ScriptType.ofName? typeName = some type := by
      rw [ScriptType.read] at htype
      split at htype <;> cases htype
      assumption
    refine ⟨type, value, hname, hvalue, ?_⟩
    split at h
    · cases h
    · rename_i hfault
      obtain ⟨rfl, hunreported⟩ := ofFault_eq_outOfRange_iff.1 (Except.error.inj h)
      exact (literal_unreported_iff (ScriptType.plain_of_ofName? hname)).1 ⟨hfault, hunreported⟩
  · rintro ⟨type, value, hname, hvalue, hexceeds⟩
    obtain ⟨hfault, hunreported⟩ :=
      (literal_unreported_iff (ScriptType.plain_of_ofName? hname)).2 hexceeds
    have htype : ScriptType.read typeName = .ok type := by rw [ScriptType.read, hname]
    rw [htype, ok_bind, hvalue, ok_bind, hfault]
    exact congrArg _ (ofFault_eq_outOfRange_iff.2 ⟨rfl, hunreported⟩)

/-- **Reading a declaration** fails unreported exactly if it declares such a constant. -/
theorem declarationRead_eq_outOfRange_iff {cs : List Char} {fault : Fault} :
    Declaration.read cs = .error (.outOfRange fault) ↔ Declaration.Exceeds cs fault := by
  constructor
  · intro h
    rw [Declaration.read] at h
    split at h
    · rename_i form hform
      match form, h with
      | .variable type name, h =>
          rcases bind_eq_error_iff.1 h with htype | ⟨_, -, ⟨⟩⟩
          cases typeRead_isReported htype
      | .constant typeName name text, h =>
          rcases bind_eq_error_iff.1 h with hconstant | ⟨_, -, ⟨⟩⟩
          obtain ⟨type, value, hrest⟩ := readConstant_eq_outOfRange_iff.1 hconstant
          exact ⟨typeName, name, text, type, value, hform, hrest⟩
      | .kernel name arguments isDefault, h =>
          rcases bind_eq_error_iff.1 h with hkernel | ⟨_, -, ⟨⟩⟩
          rcases bind_eq_error_iff.1 hkernel with hpacket | ⟨_, -, ⟨⟩⟩
          cases packetRead_isReported hpacket
      | .function name arguments, h =>
          rcases bind_eq_error_iff.1 h with hpacket | ⟨_, -, ⟨⟩⟩
          cases packetRead_isReported hpacket
    · cases h
  · rintro ⟨typeName, name, text, type, value, hform, hrest⟩
    have hconstant : Declaration.readConstant typeName name text = .error (.outOfRange fault) :=
      readConstant_eq_outOfRange_iff.2 ⟨type, value, hrest⟩
    rw [Declaration.read, hform]
    exact bind_eq_error_iff.2 (.inl hconstant)

/-- **Reading a description** fails unreported exactly if the first declaration that cannot be read
is a constant beyond the range of its type. -/
theorem read_eq_outOfRange_iff {text : String} {fault : Fault} :
    Surface.read text = .error (.outOfRange fault) ↔
      ∃ before cs after, Declaration.split text.toList = before ++ cs :: after ∧
        (∀ d ∈ before, ∃ r, Declaration.read d = .ok r) ∧ Declaration.Exceeds cs fault := by
  rw [Surface.read]
  constructor
  · intro h
    rcases bind_eq_error_iff.1 h with hdeclarations | ⟨_, -, ⟨⟩⟩
    obtain ⟨before, cs, after, hsplit, hbefore, hcs⟩ := mapM_eq_error_iff.1 hdeclarations
    exact ⟨before, cs, after, hsplit, hbefore, declarationRead_eq_outOfRange_iff.1 hcs⟩
  · rintro ⟨before, cs, after, hsplit, hbefore, hexceeds⟩
    have hcs := declarationRead_eq_outOfRange_iff.2 hexceeds
    exact bind_eq_error_iff.2
      (.inl (mapM_eq_error_iff.2 ⟨before, cs, after, hsplit, hbefore, hcs⟩))

/-- **Everything else is reported.**  Reading gives a surface or an error that is reported, unless
the first declaration that cannot be read is a constant beyond the range of its type. -/
theorem reported_iff (text : String) :
    ((∃ s, Surface.read text = .ok s) ∨ ∃ e, Surface.read text = .error e ∧ e.isReported) ↔
      ¬ ∃ before cs after fault, Declaration.split text.toList = before ++ cs :: after ∧
        (∀ d ∈ before, ∃ r, Declaration.read d = .ok r) ∧ Declaration.Exceeds cs fault := by
  constructor
  · rintro h ⟨before, cs, after, fault, hfault⟩
    have hread := read_eq_outOfRange_iff.2 ⟨before, cs, after, hfault⟩
    rcases h with ⟨s, hs⟩ | ⟨e, he, hreported⟩
    · rw [hs] at hread
      cases hread
    · rw [he] at hread
      cases hread
      cases hreported
  · intro h
    cases hread : Surface.read text with
    | ok s => exact .inl ⟨s, rfl⟩
    | error e =>
        refine .inr ⟨e, rfl, ?_⟩
        cases e with
        | outOfRange fault =>
            obtain ⟨before, cs, after, hfault⟩ := read_eq_outOfRange_iff.1 hread
            exact absurd ⟨before, cs, after, fault, hfault⟩ h
        | _ => rfl

/-- An infinite decimal for an integer is an error that is not reported. -/
theorem not_reported_infinite :
    ¬ ∀ text : String,
      (∃ s, Surface.read text = .ok s) ∨ ∃ e, Surface.read text = .error e ∧ e.isReported := by
  intro h
  have hread : Surface.read "const int x = 1e400;" =
      .error (.outOfRange .infinityAsInteger) := rfl
  rcases h "const int x = 1e400;" with ⟨s, hs⟩ | ⟨e, he, hreported⟩
  · rw [hread] at hs
    cases hs
  · rw [hread] at he
    cases he
    cases hreported

end ScriptBindings
