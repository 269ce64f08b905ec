import ScriptBindings.Number.Decimal
import ScriptBindings.Types.Basic

/-!
# Faults of a model

What can be wrong with the types and constants of a script, named by its cause.  `Fault.message` is
the wording for the user and `Fault.kind` the family a fault belongs to.
-/

namespace ScriptBindings

/-- **The families of faults**: a name or tag that no table has, a thing of the wrong sort, a thing
of the right sort with an impossible value, a number beyond its range, and a division by zero. -/
inductive FaultKind where
  | lookup | sort | value | range | division
deriving DecidableEq, Repr

/-- What stands in a constant where a number is wanted. -/
inductive NonNumber where
  | group | nothing
deriving DecidableEq, Repr

/-- How a diagnostic calls what is not a number. -/
def NonNumber.describe : NonNumber → String
  | .group => "'tuple'"
  | .nothing => "'NoneType'"

/-- **A fault of a model**, by its cause. -/
inductive Fault where
  /-- No type has the name. -/
  | unknownName (name : String)
  /-- No entry of a type table has the tag. -/
  | unknownTag (tag : String)
  /-- A type is needed where none was given. -/
  | noType
  /-- Something is to be aligned to a multiple of zero bytes. -/
  | zeroAlignment
  /-- A floating-point constant is not a number. -/
  | notReal (given : NonNumber)
  /-- An integer constant is not a number. -/
  | notIntegral (given : NonNumber)
  /-- A floating-point constant is infinite or no number. -/
  | nonFinite (given : Binary64)
  /-- An integer constant is no number. -/
  | nanAsInteger
  /-- An integer constant is infinite. -/
  | infinityAsInteger
  /-- An integer is too large for a floating-point constant. -/
  | integerTooLarge
  /-- An integer has too many decimal digits to be written. -/
  | tooManyDigits
  /-- A matrix constant is not a group of as many elements as the matrix has. -/
  | wrongElementCount (rows : Int)
  /-- Constants of the type cannot be written. -/
  | noLiteral (typeName : String)
deriving DecidableEq, Repr

namespace Fault

/-- The family of a fault. -/
def kind : Fault → FaultKind
  | unknownName _ | unknownTag _ => .lookup
  | noType | notReal _ | notIntegral _ | noLiteral _ => .sort
  | nonFinite _ | nanAsInteger | tooManyDigits | wrongElementCount _ => .value
  | infinityAsInteger | integerTooLarge => .range
  | zeroAlignment => .division

/-- The wording of a fault. -/
def message : Fault → String
  | unknownName name => "Unknown type: " ++ name
  | unknownTag tag => tag
  | noType => "Not an export type: None"
  | zeroAlignment => "integer division or modulo by zero"
  | notReal given => "float() argument must be a string or a real number, not " ++ given.describe
  | notIntegral given =>
      "int() argument must be a string, a bytes-like object or a real number, not " ++
        given.describe
  | nonFinite given => "Non-finite initializer: " ++ given.text .constant
  | nanAsInteger => "cannot convert float NaN to integer"
  | infinityAsInteger => "cannot convert float infinity to integer"
  | integerTooLarge => "int too large to convert to float"
  | tooManyDigits =>
      "Exceeds the limit (4300 digits) for integer string conversion; " ++
        "use sys.set_int_max_str_digits() to increase the limit"
  | wrongElementCount rows =>
      ScriptType.matrixName rows ++ " needs " ++ toString (rows * rows) ++ " elements"
  | noLiteral typeName => "No literal form for " ++ typeName

end Fault

end ScriptBindings
