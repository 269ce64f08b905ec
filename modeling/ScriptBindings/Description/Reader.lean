import ScriptBindings.Constant.Literal
import ScriptBindings.Description.Comments
import ScriptBindings.Description.Form
import ScriptBindings.Description.Literal
import ScriptBindings.Surface.Basic
import ScriptBindings.Types.Spelling

/-!
# Reading a description

A description lists what a script exports, one declaration before each semicolon.  Comments are
taken out first; pieces that are blank declare nothing.

* `Packet.read` — the typed parameters of a kernel or function.
* `Declaration.read` — one declaration.
* `Surface.read` — a whole description.  The first declaration that cannot be read decides the
  error.
-/

namespace ScriptBindings

open ScriptBindings.Text

/-- The type with a name, as an error of the description if there is none. -/
def ScriptType.read (name : String) : Except ReadError ScriptType :=
  match ofName? name with
  | some type => .ok type
  | none => .error (.unknownType name)

/-- **A parameter**: its last word is the name, all before it the name of the type. -/
def Field.read (cs : List Char) : Except ReadError Field := do
  match splitLastWord? cs with
  | some (type, name) => return ⟨String.ofList name, ← ScriptType.read (String.ofList type)⟩
  | none => .error (.incompleteParameter (String.ofList (trim cs)))

/-- **The packet of a call** from its parameters, blank ones left out; no parameters make no
packet. -/
def Packet.read (name : String) (parameters : List (List Char)) :
    Except ReadError (Option Packet) := do
  let fields ← (parameters.filter fun p => trim p ≠ []).mapM Field.read
  return if fields.isEmpty then none else some ⟨name ++ "_params", fields⟩

/-- **The flags** among the arguments of a kernel, which tell of its allocations. -/
def flagWords : List (List Char) :=
  ["in".toList, "out".toList, "return".toList]

/-- **A declaration** that has been read. -/
inductive Declaration where
  | variable (v : Variable)
  | kernel (k : Kernel)
  | function (f : Function)
deriving DecidableEq, Repr

namespace Declaration

/-- A constant: its type must be known, its value readable, and a literal of its type. -/
def readConstant (type name : String) (value : List Char) : Except ReadError Variable := do
  let type ← ScriptType.read type
  let value ← Initializer.read value
  match type.literal value with
  | .ok _ => return ⟨name, type, some value⟩
  | .error fault => .error (.ofFault name fault)

/-- A kernel: the flags among its arguments are set apart from its parameters. -/
def readKernel (name : String) (arguments : List Char) (isDefault : Bool) :
    Except ReadError Kernel := do
  let arguments := (pieces (· == ',') arguments).map trim
  let packet ← Packet.read name (arguments.filter (!flagWords.contains ·))
  return {
    name
    takesInput := arguments.contains "in".toList
    takesOutput := arguments.contains "out".toList
    returnsOutput := arguments.contains "return".toList
    isDefault
    packet? := packet }

/-- A declaration from its form. -/
def ofForm : Form → Except ReadError Declaration
  | .variable type name => return .variable ⟨name, ← ScriptType.read type, none⟩
  | .constant type name value => return .variable (← readConstant type name value)
  | .kernel name arguments isDefault => return .kernel (← readKernel name arguments isDefault)
  | .function name arguments =>
      return .function ⟨name, ← Packet.read name (pieces (· == ',') arguments)⟩

/-- **Reading one declaration** whose blanks are squeezed. -/
def read (cs : List Char) : Except ReadError Declaration :=
  match Form.ofChars? cs with
  | some form => ofForm form
  | none => .error (.unrecognized (String.ofList cs))

/-- The variable that a declaration declares. -/
def toVariable? : Declaration → Option Variable
  | .variable v => some v
  | _ => none

/-- The kernel that a declaration declares. -/
def toKernel? : Declaration → Option Kernel
  | .kernel k => some k
  | _ => none

/-- The function that a declaration declares. -/
def toFunction? : Declaration → Option Function
  | .function f => some f
  | _ => none

/-- **The declarations of a description**, squeezed and still unread. -/
def split (cs : List Char) : List (List Char) :=
  ((pieces (· == ';') (Comments.remove cs)).map squeeze).filter (· ≠ [])

end Declaration

/-- **The surface that declarations declare**, each kind in their order. -/
def Surface.ofDeclarations (ds : List Declaration) : Surface where
  globals := ds.filterMap Declaration.toVariable?
  kernels := ds.filterMap Declaration.toKernel?
  functions := ds.filterMap Declaration.toFunction?

/-- **Reading a description.** -/
def Surface.read (text : String) : Except ReadError Surface :=
  return .ofDeclarations (← (Declaration.split text.toList).mapM Declaration.read)

end ScriptBindings
