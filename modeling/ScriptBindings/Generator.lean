import ScriptBindings.Code.Header
import ScriptBindings.Code.Implementation
import ScriptBindings.Files.Publish
import ScriptBindings.Text.Word

/-!
# Generating the class of a script

A generator holds the surface of a script and turns it, once or several times, into the two files of
a class.  The class is named for the script's source file.

* `scriptName`, `className` — the names that a source file gives.
* `Generator.run` — both files or, if the compiled script cannot be read, none.
-/

namespace ScriptBindings

variable {τ : Type} [Append τ] [Textual τ]

/-- **The name of a script**: that of its source file without the suffix `.rs`, with an underscore
for each character that cannot stand in a name. -/
def scriptName (source : τ) : String :=
  let name := (Textual.shown (Textual.name source)).toList
  let stem := (".rs".toList.isSuffixOf? name).getD name
  String.ofList (stem.map fun c => if Text.isWordChar c then c else '_')

/-- **The name of the class** for a source file. -/
def className (source : τ) : String :=
  "ScriptC_" ++ scriptName source

/-- **A generator**: a surface and a base class, and what the latest run left, the name of the class
and the paths of the files. -/
structure Generator (τ : Type := String) [Append τ] [Textual τ] where
  surface : Surface
  base : τ := Textual.ofString ScriptClass.defaultBase
  className : String := ""
  outputs : List Path := []
deriving Repr

namespace Generator

/-- Why a run of a generator breaks off. -/
inductive Failure where
  /-- The surface has a fault. -/
  | model (fault : Fault)
  /-- The compiled script cannot be read, but not for the system, or the files cannot be
  published. -/
  | file (error : FileError)
deriving DecidableEq, Repr

/-- How a run of a generator ends. -/
inductive Outcome where
  /-- Both files are published. -/
  | published
  /-- The compiled script cannot be read, and nothing is written. -/
  | unreadableBlob
deriving DecidableEq, Repr

/-- **Whether a run breaks off for the system**, so that what it staged is removed. -/
def Failure.ofSystem : Failure → Bool
  | model _ => false
  | file e => e.ofSystem

variable {m : Type → Type} [Monad m] [FileSystem m]

/-- The class that a generator makes of a source file. -/
def scriptClass (g : Generator τ) (source : τ) : ScriptClass τ :=
  ⟨ScriptBindings.className source, Textual.name source, g.base⟩

/-- **The two files** of a source file, the header first.  The compiled script is read between them,
and there are none if the system cannot read it. -/
def files (g : Generator τ) (source : τ) (blob : Path) :
    m (Except Failure (Option (List (Buffer τ)))) := do
  let c := g.scriptClass source
  match Header.generate c g.surface.slots with
  | .error fault => return .error (.model fault)
  | .ok header =>
      match ← FileSystem.readFile blob with
      | .error e => return if e.ofSystem then .ok none else .error (.file e)
      | .ok bytes => match Implementation.generate c g.surface.slots bytes with
        | .error fault => return .error (.model fault)
        | .ok implementation => return .ok (some [header, implementation])

/-- **A run**: generates both files and publishes them in the output directory.  The name of the
class is set in any case, the paths only when the files are published. -/
def run (g : Generator τ) (output : Path) (source : τ) (blob : Path) :
    m (Generator τ × Except Failure Outcome) := do
  let g := { g with className := ScriptBindings.className source }
  match ← g.files source blob with
  | .error failure => return (g, .error failure)
  | .ok none => return (g, .ok .unreadableBlob)
  | .ok (some buffers) =>
      match ← publish output buffers with
      | .error e => return (g, .error (.file e))
      | .ok paths => return ({ g with outputs := paths }, .ok .published)

/-- The diagnostic for a compiled script that cannot be read. -/
def unreadableBlobMessage (blob : Path) : String :=
  "Error: could not read file " ++ blob.text ++ "\n"

end Generator

end ScriptBindings
