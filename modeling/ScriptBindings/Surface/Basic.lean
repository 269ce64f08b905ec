import ScriptBindings.Constant.Initializer
import ScriptBindings.Types.Basic

/-!
# The exported surface of a script

A script exports variables, kernels, which run once per element of an allocation, and functions,
which are invoked once.  The parameters of a kernel or function travel together in a packet.
-/

namespace ScriptBindings

/-- **An exported variable**; a constant has a value, a mutable variable has none. -/
structure Variable where
  name : String
  type : ScriptType
  constant? : Option Initializer := none
deriving DecidableEq, Repr

/-- Whether a variable is a constant. -/
def Variable.isConstant (v : Variable) : Bool :=
  v.constant?.isSome

/-- **A parameter packet**: the record of the parameters of one call. -/
structure Packet where
  name : String
  fields : List Field
deriving DecidableEq, Repr

/-- The type of a packet. -/
def Packet.type (p : Packet) : ScriptType :=
  .record p.name p.fields

/-- **An exported kernel.**  Its flags say whether it reads an input allocation, writes an output
allocation, or returns the elements of one.  A default kernel takes part in the order of the kernels
but cannot be called. -/
structure Kernel where
  name : String
  takesInput : Bool := false
  takesOutput : Bool := false
  returnsOutput : Bool := false
  isDefault : Bool := false
  packet? : Option Packet := none
deriving DecidableEq, Repr

/-- **An exported function.** -/
structure Function where
  name : String
  packet? : Option Packet := none
deriving DecidableEq, Repr

/-- **The surface of a script**, in the order of its declarations.  Its variables are global to the
script. -/
structure Surface where
  globals : List Variable := []
  kernels : List Kernel := []
  functions : List Function := []
deriving DecidableEq, Repr

end ScriptBindings
