import ScriptBindings.Constant.Initializer
import ScriptBindings.Number.Numeral
import ScriptBindings.Types.Layout

/-!
# Literals

The text of a constant in the generated code depends on its type: `true` or `false`, an integer in
decimal, the shortest decimal of a double (with the suffix `f` below double precision), or a list of
such in braces.

* `Initializer.toReal`, `Initializer.toIntegral` — a value as the number that a scalar type wants.
* `ScriptType.scalarLiteral`, `ScriptType.literal` — the text of a value of a type.
-/

namespace ScriptBindings

namespace Initializer

/-- **A value as a double.**  Truth values count as zero and one, and an integer is rounded. -/
def toReal : Initializer → Except Fault Binary64
  | absent => .error (.notReal .nothing)
  | bool value => .ok (.ofRatio false value.toNat 1)
  | int value => match Binary64.ofInt? value with
    | some x => .ok x
    | none => .error .integerTooLarge
  | float value => .ok value
  | group _ => .error (.notReal .group)

/-- **A value as an integer.**  Truth values count as zero and one, and a double loses its
fraction. -/
def toIntegral : Initializer → Except Fault Int
  | absent => .error (.notIntegral .nothing)
  | bool value => .ok value.toNat
  | int value => .ok value
  | float .nan => .error .nanAsInteger
  | float (.infinity _) => .error .infinityAsInteger
  | float value => .ok (value.truncate?.getD 0)
  | group _ => .error (.notIntegral .group)

end Initializer

/-- **An integer in decimal**, unless it has more digits than a numeral may have. -/
def integerLiteral (n : Int) : Except Fault String :=
  if Nat.pow 10 Numeral.maxDecimalDigits ≤ n.natAbs then .error .tooManyDigits else .ok (toString n)

/-- Texts in braces, separated by commas. -/
def braced (items : List String) : String :=
  "\x7b" ++ ", ".intercalate items ++ "\x7d"

/-- The literal of a truth value. -/
def boolLiteral (value : Bool) : String :=
  if value then "true" else "false"

namespace ScriptType

/-- **The literal of a scalar.** -/
def scalarLiteral (tag : Tag Scalar) (value : Initializer) : Except Fault String := do
  let s ← tag.resolve
  if s = .bool then return boolLiteral value.truth
  else if s.isFloating then
    let x ← value.toReal
    if !x.isFinite then .error (.nonFinite x)
    else return x.text .constant ++ (if s = .double then "" else "f")
  else integerLiteral (← value.toIntegral)

/-- The values for the elements of a vector: those of a group, or a single value for all. -/
def elementValues (length : Int) : Initializer → List Initializer
  | .group items => items
  | value => List.replicate length.toNat value

/-- **The literal of a constant.**  Records and handles have none. -/
def literal (type : ScriptType) (value : Initializer) : Except Fault String := do
  let rendered ← type.render
  match type with
  | scalar tag => scalarLiteral tag value
  | vector element length =>
      return braced (← (elementValues length value).mapM (scalarLiteral element))
  | matrix rows => match value with
    | .group items =>
        if (items.length : Int) = rows * rows then
          return braced (← items.mapM (scalarLiteral (.known .float)))
        else .error (.wrongElementCount rows)
    | _ => .error (.wrongElementCount rows)
  | _ => .error (.noLiteral rendered.name)

end ScriptType

end ScriptBindings
