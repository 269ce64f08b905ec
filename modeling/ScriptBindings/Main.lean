import ScriptBindings.CommandLine.Run

/-!
# The program

The command line on the files of the machine.
-/

namespace ScriptBindings

/-- The code of an error and its words. -/
def describeError : IO.Error → UInt32 × String
  | .noFileOrDirectory _ code details | .alreadyExists _ code details
  | .inappropriateType _ code details | .permissionDenied _ code details
  | .invalidArgument _ code details | .resourceExhausted _ code details
  | .noSuchThing _ code details => (code, details)
  | .otherError code details | .resourceBusy code details | .hardwareFault code details
  | .unsatisfiedConstraints code details | .illegalOperation code details
  | .resourceVanished code details | .timeExpired code details
  | .unsupportedOperation code details | .protocolError code details => (code, details)
  | .interrupted _ code details => (code, details)
  | .userError details => (0, details)
  | .unexpectedEof => (0, "unexpected end of file")

/-- The number of the system for the code of an error; some operations give it with a minus. -/
def systemNumber (code : UInt32) : Nat :=
  if code.toNat < Nat.pow 2 31 then code.toNat else Nat.pow 2 32 - code.toNat

/-- An error of the system by its cause. -/
def FileError.ofError (e : IO.Error) : FileError :=
  let (code, details) := describeError e
  match systemNumber code with
  | 2 => .notFound
  | 17 => .alreadyExists
  | 21 => .isDirectory
  | 20 => .notDirectory
  | 39 => .notEmpty
  | 16 => .busy
  | number => .other number details

/-- An operation of the system with its error as a result. -/
def attempt {α : Type} (action : IO α) : IO (Except FileError α) := do
  try
    return .ok (← action)
  catch e =>
    return .error (.ofError e)

instance : FileSystem IO where
  makeDirectory p := attempt (IO.FS.createDir p.text)
  isDirectory p := ({ root := p.text, fileName := "." } : IO.FS.DirEntry).path.isDir
  readFile p := attempt (return (← IO.FS.readBinFile p.text).toList)
  writeFile p bytes := attempt (IO.FS.writeBinFile p.text bytes.toByteArray)
  renameFile old new := attempt (IO.FS.rename old.text new.text)
  removeFile p := attempt (IO.FS.removeFile p.text)

/-- A time in nanoseconds as milliseconds with two places. -/
def milliseconds (nanoseconds : Nat) : String :=
  let hundredths := (nanoseconds + 5000) / 10000
  toString (hundredths / 100) ++ "." ++
    String.ofList ((toString (hundredths % 100)).toList.leftpad 2 '0')

/-- The wording of a failure that ends the program. -/
def describeFailure : CommandLine.Failure → String
  | .undecodable => "the description is not UTF-8"
  | .model fault => fault.message
  | .file e => e.describe.2

end ScriptBindings

open ScriptBindings CommandLine in
/-- Runs a command and gives its exit code. -/
def main (command : List String) : IO UInt32 := do
  let start ← IO.monoNanosNow
  match Request.read (command.map Wide.ofString) with
  | .error e =>
      IO.eprint (usageDiagnostics e)
      return 2
  | .ok .help =>
      IO.print help
      return 0
  | .ok .unnameable =>
      IO.eprintln "a path is no text"
      return 1
  | .ok (.generate a) =>
      let outcome ← run a
      IO.print (outcome.output (milliseconds ((← IO.monoNanosNow) - start)))
      IO.eprint outcome.diagnostics
      match outcome with
      | .broken failure =>
          IO.eprintln (describeFailure failure)
          return 1
      | _ => return UInt32.ofNat (outcome.exitCode?.getD 1)
