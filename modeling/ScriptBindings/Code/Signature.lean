import ScriptBindings.Surface.Basic
import ScriptBindings.Text.Textual
import ScriptBindings.Types.Layout

/-!
# What the two generated files share

A class is generated as a header, which declares it, and an implementation, which defines its
methods.  Both begin with the same notice and spell the methods' parameters alike.

* `ScriptClass` — the class to generate, and `ScriptClass.notice` the opening comment.
* `Kernel.allocations`, `Kernel.parameters`, `Function.parameters` — the parameters of the methods.
* `signatureText` — a method with its parameters, perhaps qualified with its class.
-/

namespace ScriptBindings

/-- **A class to generate**: its name, the script that it stands for, and its base class, whose name
is empty if there is none. -/
structure ScriptClass (τ : Type := String) where
  name : String
  source : τ
  base : τ
deriving DecidableEq, Repr

namespace ScriptClass

variable {τ : Type} [Append τ] [Textual τ]

/-- The base class of scripts in the runtime. -/
def defaultBase : String := ScriptType.runtimeScope ++ "::ScriptC"

/-- Whether a class has a base class. -/
def hasBase (c : ScriptClass τ) : Bool :=
  !Textual.isEmpty c.base

/-- **The notice** at the top of both files, which names the script. -/
def notice (source : τ) : List τ :=
  ["/*",
   " * This file is auto-generated. DO NOT MODIFY!",
   " * The source Renderscript file: " ++ source,
   " */",
   ""]

/-- The parameters of the constructor. -/
def constructorArguments : String :=
  "android::sp<" ++ ScriptType.runtimeScope ++
    "::RS> rs, const char *cacheDir, size_t cacheDirLength"

/-- The comment that stands for a default kernel. -/
def defaultKernelComment : String := "// No forEach_root(...)"

end ScriptClass

/-- **The allocations of a kernel**: the names of its input and output parameters.  A kernel without
input has an output. -/
def Kernel.allocations (k : Kernel) : List String :=
  if !k.takesInput then ["aout"]
  else if k.takesOutput || k.returnsOutput then ["ain", "aout"]
  else ["ain"]

/-- The parameters that a packet carries. -/
def parametersOf : Option Packet → Except Fault (List String)
  | none => .ok []
  | some packet => packet.fields.mapM Field.parameter

/-- **The parameters of a kernel's method**: its allocations, then those of its packet. -/
def Kernel.parameters (k : Kernel) : Except Fault (List String) :=
  return (k.allocations.map fun name => ScriptType.handleName "Allocation" ++ " " ++ name) ++
    (← parametersOf k.packet?)

/-- The parameters of a function's method. -/
def Function.parameters (f : Function) : Except Fault (List String) :=
  parametersOf f.packet?

/-- The name of a kernel's method. -/
def Kernel.methodName (k : Kernel) : String := "forEach_" ++ k.name

/-- The name of a function's method. -/
def Function.methodName (f : Function) : String := "invoke_" ++ f.name

/-- **A method's signature**, qualified with the name of its class unless that is empty. -/
def signatureText (className name : String) (parameters : List String) : String :=
  "void " ++ (if className.isEmpty then "" else className ++ "::") ++ name ++
    "(" ++ ", ".intercalate parameters ++ ")"

end ScriptBindings
