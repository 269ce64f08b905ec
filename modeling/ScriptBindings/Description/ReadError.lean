import ScriptBindings.Fault

/-!
# Errors of a description

Why a description cannot be read, by its cause, and the wording for the user.
-/

namespace ScriptBindings

/-- **Why a description cannot be read.** -/
inductive ReadError where
  /-- A declaration has none of the known forms. -/
  | unrecognized (declaration : String)
  /-- No type has the name. -/
  | unknownType (name : String)
  /-- The text of a value is neither a truth value, nor a number, nor a group. -/
  | badLiteral (text : String)
  /-- The value of a constant does not suit its type. -/
  | badInitializer (name : String) (fault : Fault)
  /-- The number of a constant is beyond the range of its type. -/
  | outOfRange (fault : Fault)
  /-- A parameter consists of one word only. -/
  | incompleteParameter (text : String)
deriving DecidableEq, Repr

namespace ReadError

/-- The wording of an error. -/
def message : ReadError → String
  | unrecognized declaration => "Unrecognized declaration: " ++ declaration
  | unknownType name => (Fault.unknownName name).message
  | badLiteral text => "Bad initializer: " ++ text
  | badInitializer name fault => "Bad initializer for " ++ name ++ ": " ++ fault.message
  | outOfRange fault => fault.message
  | incompleteParameter text => "Parameter needs a type and a name: " ++ text

/-- **A fault of a constant as an error of the description.**  A number out of range is reported for
itself, every other fault with the name of the constant. -/
def ofFault (name : String) (fault : Fault) : ReadError :=
  match fault.kind with
  | .sort | .value => .badInitializer name fault
  | .lookup | .range | .division => .outOfRange fault

end ReadError

end ScriptBindings
