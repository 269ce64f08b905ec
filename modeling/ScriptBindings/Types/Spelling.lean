import ScriptBindings.Fault
import ScriptBindings.Text.Capital
import ScriptBindings.Types.Basic

/-!
# Names of types in scripts

A type is named by one word.  The names of scalars, vectors and matrices form a table; those of
handles are the spellings of the kinds of object, in any case.
-/

namespace ScriptBindings.ScriptType

/-- The names of scalars, each with its fixed-width names. -/
def scalarSpellings : List (String × ScriptType) :=
  (Scalar.all.map fun s => (s.spelling, scalar (.known s))) ++
    ([.char, .short, .int, .long, .uchar, .ushort, .uint, .ulong].map fun s : Scalar =>
      (s.cppName, scalar (.known s)))

/-- The names of vectors: a numeric scalar and two to four elements. -/
def vectorSpellings : List (String × ScriptType) :=
  Scalar.numeric.flatMap fun s =>
    [2, 3, 4].map fun n : Nat => (s.spelling ++ toString n, vector (.known s) n)

/-- The names of matrices: two to four rows. -/
def matrixSpellings : List (String × ScriptType) :=
  [2, 3, 4].map fun rows : Int => (matrixName rows, matrix rows)

/-- **The table of type names** that are told apart by case. -/
def spellings : List (String × ScriptType) :=
  scalarSpellings ++ vectorSpellings ++ matrixSpellings

/-- **The type with a name.**  Handles are recognised by their capitals. -/
def ofName? (name : String) : Option ScriptType :=
  match spellings.lookup name with
  | some type => some type
  | none => (ObjectKind.ofTag? (Text.capitals name)).map fun kind => object (.known kind)

/-- The type with a name, which it is a fault not to have. -/
def ofName (name : String) : Except Fault ScriptType :=
  match ofName? name with
  | some type => .ok type
  | none => .error (.unknownName name)

end ScriptBindings.ScriptType
