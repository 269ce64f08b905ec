import ScriptBindings.Code.Blob
import ScriptBindings.Code.Buffer
import ScriptBindings.Code.Signature
import ScriptBindings.Surface.Slots

/-!
# Implementations

The implementation defines what the header declares: the array of the compiled script, constructor
and destructor, and the methods, each of which packs its parameters and dispatches by slot.

* `Implementation.packing` — the statements that fill a packet, and the arguments that pass it on.
* `Implementation.Block` — a method's definition, or the comment of a default kernel.
* `Implementation.generate` — the whole file.
-/

namespace ScriptBindings.Implementation

variable {τ : Type} [Append τ] [Textual τ]

/-- The name of the array that holds the compiled script. -/
def blobName : String := "__txt"

/-- The definition of the array. -/
def blobLines (b : Buffer τ) (blob : Blob) : Buffer τ :=
  b |>.push ("static const unsigned char " ++ blobName ++ "[] = \x7b")
    |>.indented (Textual.ofStrings blob.lines)
    |>.append ["\x7d;", ""]

/-- **The constructor**, which hands the array, its size and the name of the class on to the base
class if there is one. -/
def constructorLines (c : ScriptClass τ) (size : Nat) : List τ :=
  let signature :=
    c.name ++ "::" ++ c.name ++ "(" ++ ScriptClass.constructorArguments ++ ")"
  let opening : List τ :=
    if c.hasBase then
      [signature ++ " :",
       "        " ++ c.base ++ "(rs, " ++ blobName ++ ", " ++ toString size ++ ", \"" ++ c.name ++
         "\", " ++ toString c.name.length ++ ", cacheDir, cacheDirLength) \x7b"]
    else [signature ++ " \x7b"]
  opening ++ Textual.ofStrings ["\x7d", ""]

/-- The destructor. -/
def destructorLines (c : ScriptClass τ) : List String :=
  [c.name ++ "::~" ++ c.name ++ "() \x7b", "\x7d", ""]

/-- **Packing parameters**: the statements that fill the packet, and the two arguments for it, its
data and its size. -/
def packing : Option Packet → Except Fault (List String × String)
  | none => .ok ([], "NULL, 0")
  | some packet => do
      let size := toString (← packet.type.paddedSize)
      return (("FieldPacker __fp(" ++ size ++ ");") ::
          packet.fields.map (fun f => "__fp.add(" ++ f.name ++ ");"),
        "__fp.getData(), " ++ size)

/-- **A part of the implementation**: a comment, or a method with the statements of its body. -/
inductive Block where
  | comment (text : String)
  | method (signature : String) (body : List String)
deriving DecidableEq, Repr

/-- The argument for an allocation, if the kernel has it. -/
def allocationArgument (k : Kernel) (name : String) : String :=
  if k.allocations.contains name then name else "NULL"

/-- **The definition of a kernel's method**: it packs the parameters and runs the kernel of its
slot. -/
def kernelBlock (c : ScriptClass τ) : Option Nat × Kernel → Except Fault Block
  | (none, _) => .ok (.comment ScriptClass.defaultKernelComment)
  | (some slot, k) => do
      let signature := signatureText c.name k.methodName (← k.parameters)
      let (statements, packet) ← packing k.packet?
      return .method signature (statements ++
        ["forEach(" ++ toString slot ++ ", " ++ allocationArgument k "ain" ++ ", " ++
          allocationArgument k "aout" ++ ", " ++ packet ++ ");"])

/-- **The definition of a function's method**: it packs the parameters and invokes the function of
its slot. -/
def functionBlock (c : ScriptClass τ) : Nat × Function → Except Fault Block
  | (slot, f) => do
      let signature := signatureText c.name f.methodName (← f.parameters)
      let (statements, packet) ← packing f.packet?
      return .method signature (statements ++
        ["invoke(" ++ toString slot ++ ", " ++ packet ++ ");"])

/-- Adding a part to a file, with an empty line after it. -/
def addBlock (b : Buffer τ) : Block → Buffer τ
  | .comment text => b.append [text, ""]
  | .method signature body =>
      b |>.push (signature ++ " \x7b") |>.indented (Textual.ofStrings body) |>.append ["\x7d", ""]

/-- **The implementation of a class** with its compiled script. -/
def generate (c : ScriptClass τ) (slots : SlotMap) (bytes : List UInt8) :
    Except Fault (Buffer τ) := do
  let blob := Blob.ofBytes bytes
  let kernels ← slots.kernels.mapM (kernelBlock c)
  let functions ← slots.functions.mapM (functionBlock c)
  let opening := { fileName := c.name ++ ".cpp" : Buffer τ }
    |>.append (ScriptClass.notice c.source)
    |>.append ["#include \"" ++ c.name ++ ".h\"", ""]
  let lifetime := constructorLines c blob.size ++ Textual.ofStrings (destructorLines c)
  return (kernels ++ functions).foldl addBlock ((blobLines opening blob).append lifetime)

end ScriptBindings.Implementation
