/-!
# Types of a script

What a script exports is typed: scalars, short vectors of scalars, square matrices, handles of
runtime objects, and records, which carry the parameters of a call.

* `Scalar`, `ObjectKind` — the scalars and the kinds of runtime object, each with the tag that
  identifies it.
* `Tag` — a tag as it is found: one of those, or a name that none of them has.
* `ScriptType`, `Field` — the types, and the named members of a record.
-/

namespace ScriptBindings

/-- **The scalars**, named as scripts name them. -/
inductive Scalar where
  | half | float | double
  | char | short | int | long
  | uchar | ushort | uint | ulong
  | bool
deriving DecidableEq, Repr

namespace Scalar

/-- All scalars. -/
def all : List Scalar :=
  [half, float, double, char, short, int, long, uchar, ushort, uint, ulong, bool]

/-- The scalars that are numbers, and hence elements of vectors. -/
def numeric : List Scalar :=
  [half, float, double, char, short, int, long, uchar, ushort, uint, ulong]

/-- The tag of a scalar. -/
def tag : Scalar → String
  | half => "FLOAT_16"
  | float => "FLOAT_32"
  | double => "FLOAT_64"
  | char => "SIGNED_8"
  | short => "SIGNED_16"
  | int => "SIGNED_32"
  | long => "SIGNED_64"
  | uchar => "UNSIGNED_8"
  | ushort => "UNSIGNED_16"
  | uint => "UNSIGNED_32"
  | ulong => "UNSIGNED_64"
  | bool => "BOOLEAN"

/-- The name of a scalar in scripts. -/
def spelling : Scalar → String
  | half => "half"
  | float => "float"
  | double => "double"
  | char => "char"
  | short => "short"
  | int => "int"
  | long => "long"
  | uchar => "uchar"
  | ushort => "ushort"
  | uint => "uint"
  | ulong => "ulong"
  | bool => "bool"

/-- The name of a scalar in the generated C++. -/
def cppName : Scalar → String
  | half => "half"
  | float => "float"
  | double => "double"
  | char => "int8_t"
  | short => "int16_t"
  | int => "int32_t"
  | long => "int64_t"
  | uchar => "uint8_t"
  | ushort => "uint16_t"
  | uint => "uint32_t"
  | ulong => "uint64_t"
  | bool => "bool"

/-- The size of a scalar in bytes. -/
def size : Scalar → Int
  | half => 2
  | float => 4
  | double => 8
  | char => 1
  | short => 2
  | int => 4
  | long => 8
  | uchar => 1
  | ushort => 2
  | uint => 4
  | ulong => 8
  | bool => 1

/-- Whether a scalar is a floating-point number. -/
def isFloating : Scalar → Bool
  | half | float | double => true
  | _ => false

/-- The scalar with a tag. -/
def ofTag? (tag : String) : Option Scalar :=
  all.find? (·.tag = tag)

theorem mem_all (s : Scalar) : s ∈ all := by
  cases s <;> decide

theorem ofTag?_tag (s : Scalar) : ofTag? s.tag = some s := by
  cases s <;> decide

theorem size_pos (s : Scalar) : 0 < s.size := by
  cases s <;> decide

end Scalar

/-- **The kinds of runtime object** that a script can hold a handle of. -/
inductive ObjectKind where
  | element | type | allocation | sampler | script
deriving DecidableEq, Repr

namespace ObjectKind

/-- All kinds of object. -/
def all : List ObjectKind :=
  [element, type, allocation, sampler, script]

/-- The tag of a kind of object. -/
def tag : ObjectKind → String
  | element => "RS_ELEMENT"
  | type => "RS_TYPE"
  | allocation => "RS_ALLOCATION"
  | sampler => "RS_SAMPLER"
  | script => "RS_SCRIPT"

/-- The name of a handle of the kind in scripts. -/
def spelling : ObjectKind → String
  | element => "rs_element"
  | type => "rs_type"
  | allocation => "rs_allocation"
  | sampler => "rs_sampler"
  | script => "rs_script"

/-- The runtime's class for the kind. -/
def className : ObjectKind → String
  | element => "Element"
  | type => "Type"
  | allocation => "Allocation"
  | sampler => "Sampler"
  | script => "Script"

/-- The kind of object with a tag. -/
def ofTag? (tag : String) : Option ObjectKind :=
  all.find? (·.tag = tag)

theorem mem_all (k : ObjectKind) : k ∈ all := by
  cases k <;> decide

theorem ofTag?_tag (k : ObjectKind) : ofTag? k.tag = some k := by
  cases k <;> decide

end ObjectKind

/-- **A tag as it is found** in a description of types: that of a known thing, or some other
name. -/
inductive Tag (α : Type) where
  | known (value : α)
  | unknown (name : String)
deriving DecidableEq, Repr

mutual

/-- **A type of a script.**  Vectors and matrices carry their number of elements and of rows as they
were given, which need not make sense; `untyped` stands where no type was given. -/
inductive ScriptType where
  | scalar (tag : Tag Scalar)
  | vector (element : Tag Scalar) (length : Int)
  | matrix (rows : Int)
  | object (tag : Tag ObjectKind)
  | record (name : String) (fields : List Field)
  | untyped

/-- **A member of a record**, with its name and its type. -/
structure Field where
  name : String
  type : ScriptType

end

deriving instance Repr for ScriptType, Field

instance : Inhabited ScriptType := ⟨.untyped⟩

instance : Inhabited Field := ⟨⟨"", .untyped⟩⟩

mutual

/-- Types are compared part by part. -/
def ScriptType.decEq : (s t : ScriptType) → Decidable (s = t)
  | .scalar a, .scalar b => decidable_of_iff (a = b) (by simp)
  | .vector a m, .vector b n => decidable_of_iff (a = b ∧ m = n) (by simp)
  | .matrix m, .matrix n => decidable_of_iff (m = n) (by simp)
  | .object a, .object b => decidable_of_iff (a = b) (by simp)
  | .record m fs, .record n gs =>
      have := Field.decEqList fs gs
      decidable_of_iff (m = n ∧ fs = gs) (by simp)
  | .untyped, .untyped => .isTrue rfl
  | .scalar _, .vector .. | .scalar _, .matrix _ | .scalar _, .object _ | .scalar _, .record ..
  | .scalar _, .untyped | .vector .., .scalar _ | .vector .., .matrix _ | .vector .., .object _
  | .vector .., .record .. | .vector .., .untyped | .matrix _, .scalar _ | .matrix _, .vector ..
  | .matrix _, .object _ | .matrix _, .record .. | .matrix _, .untyped | .object _, .scalar _
  | .object _, .vector .. | .object _, .matrix _ | .object _, .record .. | .object _, .untyped
  | .record .., .scalar _ | .record .., .vector .. | .record .., .matrix _ | .record .., .object _
  | .record .., .untyped | .untyped, .scalar _ | .untyped, .vector .. | .untyped, .matrix _
  | .untyped, .object _ | .untyped, .record .. => .isFalse (by simp)

/-- Lists of fields are compared field by field. -/
def Field.decEqList : (fs gs : List Field) → Decidable (fs = gs)
  | [], [] => .isTrue rfl
  | [], _ :: _ | _ :: _, [] => .isFalse (by simp)
  | ⟨m, s⟩ :: fs, ⟨n, t⟩ :: gs =>
      have := ScriptType.decEq s t
      have := Field.decEqList fs gs
      decidable_of_iff ((m = n ∧ s = t) ∧ fs = gs) (by simp)

end

instance : DecidableEq ScriptType := ScriptType.decEq

instance : DecidableEq Field
  | ⟨m, s⟩, ⟨n, t⟩ => decidable_of_iff (m = n ∧ s = t) (by simp)

/-- The name of a square matrix, in scripts and in the generated C++. -/
def ScriptType.matrixName (rows : Int) : String :=
  "rs_matrix" ++ toString rows ++ "x" ++ toString rows

end ScriptBindings
