import ScriptBindings.Code.Buffer
import ScriptBindings.Code.Signature
import ScriptBindings.Constant.Literal
import ScriptBindings.Surface.Slots

/-!
# Headers

The header declares the class of a script: the storage of its mutable variables, the constructor and
destructor, the accessors of all variables, and a method for each kernel and function.

* `Header.storage`, `Header.accessors` — the two parts that a variable has.
* `Header.kernelLine`, `Header.functionLine` — the declarations of the methods.
* `Header.generate` — the whole file.
-/

namespace ScriptBindings.Header

variable {τ : Type} [Append τ] [Textual τ]

/-- The member that stores a mutable variable. -/
def storageLine (v : Variable) : Except Fault String :=
  return (← v.type.cppName) ++ " __" ++ v.name ++ ";"

/-- **The storage** of the mutable variables; constants need none. -/
def storage (globals : List (Nat × Variable)) : Except Fault (List String) :=
  (globals.filter (!·.2.isConstant)).mapM fun (_, v) => storageLine v

/-- The setter of a mutable variable: it tells the runtime by slot, and stores the value. -/
def setter (slot : Nat) (name typeName : String) : List String :=
  ["void set_" ++ name ++ "(" ++ typeName ++ " v) \x7b",
   "    setVar(" ++ toString slot ++ ", &v, sizeof(v));",
   "    __" ++ name ++ " = v;",
   "\x7d"]

/-- A getter that returns the given expression. -/
def getter (name typeName result : String) : List String :=
  [typeName ++ " get_" ++ name ++ "() const \x7b",
   "    return " ++ result ++ ";",
   "\x7d"]

/-- **The accessors of a variable**: setter and getter of a mutable one, only a getter of a
constant, which returns its literal. -/
def accessors (slot : Nat) (v : Variable) : Except Fault (List String) := do
  let typeName ← v.type.cppName
  match v.constant? with
  | none =>
      return setter slot v.name typeName ++ getter v.name typeName ("__" ++ v.name) ++ [""]
  | some value =>
      return getter v.name typeName (← v.type.literal value) ++ [""]

/-- **The declaration of a kernel's method**, or a comment for a default kernel. -/
def kernelLine : Option Nat × Kernel → Except Fault String
  | (none, _) => .ok ScriptClass.defaultKernelComment
  | (some _, k) => return signatureText "" k.methodName (← k.parameters) ++ ";"

/-- **The declaration of a function's method.** -/
def functionLine (f : Function) : Except Fault String :=
  return signatureText "" f.methodName (← f.parameters) ++ ";"

/-- The line that opens the class. -/
def classLine (c : ScriptClass τ) : τ :=
  "class " ++ c.name ++ (if c.hasBase then " : public " ++ c.base else Textual.ofString "") ++
    " \x7b"

/-- The declarations of constructor and destructor. -/
def lifetimeLines (c : ScriptClass τ) : List String :=
  [c.name ++ "(" ++ ScriptClass.constructorArguments ++ ");", "virtual ~" ++ c.name ++ "();", ""]

/-- What the header needs of the runtime. -/
def includeLines : List String :=
  ["#include \"RenderScript.h\"", "using namespace " ++ ScriptType.runtimeScope ++ ";", ""]

/-- **The header of a class.** -/
def generate (c : ScriptClass τ) (slots : SlotMap) : Except Fault (Buffer τ) := do
  let storage ← storage slots.globals
  let accessors ← slots.globals.mapM fun (slot, v) => accessors slot v
  let kernels ← slots.kernels.mapM kernelLine
  let functions ← slots.functions.mapM fun (_, f) => functionLine f
  return ({ fileName := c.name ++ ".h" : Buffer τ }
    |>.append (ScriptClass.notice c.source)
    |>.append (Textual.ofStrings includeLines)
    |>.push (classLine c)
    |>.push "private:"
    |>.indented (Textual.ofStrings storage)
    |>.push "public:"
    |>.indented (Textual.ofStrings
      (lifetimeLines c ++ accessors.flatten ++ kernels ++ functions))
    |>.push "\x7d;")

end ScriptBindings.Header
