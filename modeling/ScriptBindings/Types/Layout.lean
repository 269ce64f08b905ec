import ScriptBindings.Fault
import ScriptBindings.Types.Basic

/-!
# Sizes, alignments and C++ names of types

A record is laid out in the order of its fields: each begins at the next multiple of its alignment,
and the whole is padded to a multiple of the record's own alignment, the greatest of its fields'.

* `alignUp` — the next multiple of an alignment.
* `ScriptType.alignment`, `ScriptType.paddedSize` — the alignment and the padded size in bytes.
* `ScriptType.place` — the offsets that the fields of a record get.
* `ScriptType.render`, `ScriptType.cppName` — a type as it appears in the generated code.

The sizes of well-formed types are positive.  Lengths and row counts that make no sense are carried
through the same formulas, with division toward minus infinity, and only an alignment of zero is a
fault.
-/

namespace ScriptBindings

/-- The bytes of a runtime handle. -/
def handleSize : Int := 4

/-- **The next multiple of an alignment** at or above an offset. -/
def alignUp (offset alignment : Int) : Except Fault Int :=
  if alignment = 0 then .error .zeroAlignment
  else .ok (Int.fdiv (offset + alignment - 1) alignment * alignment)

namespace Tag

/-- The thing that a tag identifies. -/
def resolve {α : Type} : Tag α → Except Fault α
  | known value => .ok value
  | unknown name => .error (.unknownTag name)

@[simp] theorem resolve_known {α : Type} (value : α) : (known value).resolve = .ok value := rfl

end Tag

/-- **The size of a vector**: three elements take the room of four. -/
def vectorSize (element : Tag Scalar) (length : Int) : Except Fault Int := do
  let s ← element.resolve
  return s.size * (if length = 3 then 4 else length)

namespace ScriptType

mutual

/-- **The alignment of a type** in bytes: that of a scalar or vector is its size, that of a record
the greatest of its fields', and one if it has none. -/
def alignment : ScriptType → Except Fault Int
  | scalar tag => return (← tag.resolve).size
  | vector element length => vectorSize element length
  | record _ fields => return (← alignments fields).max?.getD 1
  | _ => .ok 4

/-- The alignments of fields, in order. -/
def alignments : List Field → Except Fault (List Int)
  | [] => .ok []
  | ⟨_, type⟩ :: fields => do
      let first ← alignment type
      return first :: (← alignments fields)

end

mutual

/-- **The size of a type** in bytes, padding included. -/
def paddedSize : ScriptType → Except Fault Int
  | scalar tag => return (← tag.resolve).size
  | vector element length => vectorSize element length
  | matrix rows => .ok (Scalar.float.size * rows * rows)
  | object _ => .ok handleSize
  | record name fields => do
      let (_, stop) ← place 0 fields
      alignUp stop (← alignment (record name fields))
  | untyped => .error .noType

/-- **Placing fields** from an offset on: where each of them begins, and where the last one ends. -/
def place (offset : Int) : List Field → Except Fault (List Int × Int)
  | [] => .ok ([], offset)
  | ⟨_, type⟩ :: fields => do
      let start ← alignUp offset (← alignment type)
      let (starts, stop) ← place (start + (← paddedSize type)) fields
      return (start :: starts, stop)

end

/-- **A type in the generated code**: its name, its size and whether it is the truth type. -/
structure Rendered where
  name : String
  size : Int
  isBool : Bool
deriving DecidableEq, Repr

/-- The namespace of the runtime's classes. -/
def runtimeScope : String := "android::renderscriptCpp"

/-- **A shared handle** of a runtime object that must not be changed through it. -/
def handleName (className : String) : String :=
  "android::sp<const " ++ runtimeScope ++ "::" ++ className ++ ">"

/-- The spelling of a vector's element; the truth type has none. -/
def elementSpelling (element : Tag Scalar) : Except Fault String := do
  let s ← element.resolve
  if s = .bool then .error (.unknownTag s.tag) else .ok s.spelling

/-- **Rendering a type.** -/
def render : ScriptType → Except Fault Rendered
  | scalar tag => do
      let s ← tag.resolve
      return ⟨s.cppName, s.size, s == .bool⟩
  | vector element length => do
      let name ← elementSpelling element
      return ⟨name ++ toString length, ← vectorSize element length, false⟩
  | matrix rows => return ⟨matrixName rows, ← paddedSize (matrix rows), false⟩
  | object tag => return ⟨handleName (← tag.resolve).className, handleSize, false⟩
  | record name fields => return ⟨name, ← paddedSize (record name fields), false⟩
  | untyped => .error .noType

/-- The name of a type in the generated code. -/
def cppName (type : ScriptType) : Except Fault String :=
  return (← type.render).name

end ScriptType

/-- A field as a parameter of a C++ function. -/
def Field.parameter (field : Field) : Except Fault String :=
  return (← field.type.cppName) ++ " " ++ field.name

end ScriptBindings
