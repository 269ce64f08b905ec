import ScriptBindings.CommandLine.Options
import ScriptBindings.Description.Reader
import ScriptBindings.Generator
import ScriptBindings.Text.Newline

/-!
# Running a command

A run reads a description, generates the class of the script and publishes its two files.  Whatever
is wrong with the description or the compiled script is told on one line.  A number out of range, a
path that the system does not take, a text that cannot be encoded and a failure to write end the run
without one.

* `run` — the run of a command with its arguments.
* `Outcome.exitCode?`, `Outcome.output`, `Outcome.diagnostics` — what the caller sees of it.
-/

namespace ScriptBindings.CommandLine

/-- **Why a run breaks off** without a diagnostic of its own. -/
inductive Failure where
  /-- The description is not UTF-8. -/
  | undecodable
  /-- A constant in the description, or the surface, has a fault. -/
  | model (fault : Fault)
  /-- One of the files to read has a path that the system does not take, or the files cannot be
  published. -/
  | file (error : FileError)
deriving DecidableEq, Repr

/-- **Whether a run breaks off for the system.** -/
def Failure.ofSystem : Failure → Bool
  | undecodable | model _ => false
  | file e => e.ofSystem

/-- **How a run ends.** -/
inductive Outcome where
  /-- The files are published under these paths. -/
  | published (paths : List Path)
  /-- The run ends with a diagnostic, and nothing is written. -/
  | refused (diagnostic : String)
  /-- The run breaks off. -/
  | broken (failure : Failure)
deriving DecidableEq, Repr

namespace Outcome

/-- The exit code of a run that does not break off. -/
def exitCode? : Outcome → Option Nat
  | published _ => some 0
  | refused _ => some 1
  | broken _ => none

/-- What a run prints, `elapsed` being the time it took in milliseconds. -/
def output (elapsed : String) : Outcome → String
  | published paths =>
      String.join (paths.map fun p => "Generated: " ++ p.text ++ "\n") ++
        "Generation completed in " ++ elapsed ++ " ms\n"
  | _ => ""

/-- What a run tells about its failure. -/
def diagnostics : Outcome → String
  | refused diagnostic => diagnostic
  | _ => ""

end Outcome

/-- The diagnostic for a description that cannot be opened. -/
def unreadableMessage (p : Path) (e : FileError) : String :=
  let (number, reason) := e.describe
  "Error: [Errno " ++ toString number ++ "] " ++ reason ++ ": " ++ Text.quoted p.text ++ "\n"

/-- **The name of the source file**: as given, or that of the description with the suffix `.rs`. -/
def Arguments.source {τ : Type} [Append τ] [Textual τ] (a : Arguments τ) : τ :=
  if Textual.isEmpty a.input then
    Textual.ofString ((Path.ofString a.description).stem ++ ".rs")
  else a.input

variable {m : Type → Type} [Monad m] [FileSystem m] {τ : Type} [Append τ] [Textual τ]

/-- Generating the files for a surface that has been read. -/
def generate (a : Arguments τ) (surface : Surface) : m Outcome := do
  let blob := Path.ofString a.blob
  let g : Generator τ := { surface, base := a.base }
  let (g, outcome) ← g.run (Path.ofString a.output) a.source blob
  return match outcome with
    | .ok .published => .published g.outputs
    | .ok .unreadableBlob => .refused (Generator.unreadableBlobMessage blob)
    | .error (.model fault) => .broken (.model fault)
    | .error (.file e) => .broken (.file e)

/-- **The run of a command.** -/
def run (a : Arguments τ) : m Outcome := do
  let description := Path.ofString a.description
  match ← FileSystem.readFile description with
  | .error e =>
      if e.ofSystem then return .refused (unreadableMessage description e)
      else return .broken (.file e)
  | .ok bytes => match Text.ofFile? bytes with
    | none => return .broken .undecodable
    | some text => match Surface.read text with
      | .error (.outOfRange fault) => return .broken (.model fault)
      | .error e => return .refused ("Error: " ++ e.message ++ "\n")
      | .ok surface => generate a surface

/-! ## Usage -/

/-- The name of the program in its own messages. -/
def programName : String := "reflect_cpp.py"

/-- One line on how to call the program. -/
def usage : String :=
  "usage: " ++ programName ++ " [-h] [--input INPUT] --bitcode BITCODE " ++
    "[--output-dir OUTPUT_DIR] [--base-class BASE_CLASS] exports\n"

/-- What a request for help prints. -/
def help : String :=
  usage ++ "\nGenerate C++ reflection for a RenderScript script\n"

/-- What a usage error prints. -/
def usageDiagnostics (e : UsageError) : String :=
  usage ++ programName ++ ": error: " ++ e.message ++ "\n"

end ScriptBindings.CommandLine
