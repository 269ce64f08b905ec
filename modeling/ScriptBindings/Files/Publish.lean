import ScriptBindings.Code.Buffer
import ScriptBindings.Files.FileSystem

/-!
# Publishing generated files

Generated files are published together.  Each is first staged under a hidden name beside its final
one; only when all of them are staged are they renamed into place.  If the system fails on the way,
what was staged is removed.  A failure that is not the system's ends everything at once.

* `makeDirectories` — a directory with all that are missing above it.
* `writeText` — a file with a text, which may turn out to be no text for a file.
* `stage`, `renameAll`, `cleanUp` — the three steps.
* `publish` — all of them in order.
-/

namespace ScriptBindings

variable {m : Type → Type} [Monad m] [FileSystem m] {τ : Type} [Append τ] [Textual τ]

/-! ## Directories -/

/-- **Making one directory**; it is no failure if it exists. -/
def makeOne (p : Path) : m (Except FileError Unit) := do
  match ← FileSystem.makeDirectory p with
  | .ok () => return .ok ()
  | .error .notFound => return .error .notFound
  | .error e => if ← FileSystem.isDirectory p then return .ok () else return .error e

/-- **Making a directory with those above it**, the parts of its path given from the last to the
first.  Those above are made only when the directory cannot be made without them. -/
def makeAbove (root : String) : List String → m (Except FileError Unit)
  | [] => makeOne ⟨root, []⟩
  | last :: above => do
      let p : Path := ⟨root, (last :: above).reverse⟩
      match ← makeOne p with
      | .error .notFound =>
          match ← makeAbove root above with
          | .ok () => makeOne p
          | .error e => return .error e
      | outcome => return outcome

/-- A directory with all that are missing above it. -/
def makeDirectories (p : Path) : m (Except FileError Unit) :=
  makeAbove p.root p.parts.reverse

/-! ## Staging -/

/-- **Writing a text to a file.**  Whether it can be encoded comes out when the file is open, and
empty. -/
def writeText (p : Path) (text : τ) : m (Except FileError Unit) := do
  match ← FileSystem.writeFile p (Textual.written text) with
  | .error e => return .error e
  | .ok () => match Textual.unencodable? text with
    | none => return .ok ()
    | some why => return .error (.unencodable why)

/-- The hidden path under which a file is staged. -/
def stagingPath (directory : Path) (b : Buffer τ) : Path :=
  directory.child ("." ++ b.fileName ++ ".tmp")

/-- The path under which a file is published. -/
def finalPath (directory : Path) (b : Buffer τ) : Path :=
  directory.child b.fileName

/-- **Staging files** in order, up to the first failure.  Also gives the staging paths that have
been tried. -/
def stage (directory : Path) : List (Buffer τ) → m (List Path × Except FileError Unit)
  | [] => return ([], .ok ())
  | b :: bs => do
      let p := stagingPath directory b
      match ← writeText p b.text with
      | .ok () =>
          let (tried, outcome) ← stage directory bs
          return (p :: tried, outcome)
      | .error e => return ([p], .error e)

/-- Renaming staged files into place, up to the first failure. -/
def renameAll (directory : Path) : List (Buffer τ) → m (Except FileError Unit)
  | [] => return .ok ()
  | b :: bs => do
      match ← FileSystem.renameFile (stagingPath directory b) (finalPath directory b) with
      | .ok () => renameAll directory bs
      | .error e => return .error e

/-- **Removing staged files.**  A path at which nothing lies is passed over; any other failure ends
the cleaning. -/
def cleanUp : List Path → m (Except FileError Unit)
  | [] => return .ok ()
  | p :: ps => do
      match ← FileSystem.removeFile p with
      | .ok () | .error .notFound => cleanUp ps
      | .error e => return .error e

/-- **Publishing files** in a directory, which is made if it is missing.  Gives their final paths.
A failure of the system is cleaned up after; if that fails too, its failure is reported in place of
the one that was the reason for it. -/
def publish (directory : Path) (bs : List (Buffer τ)) : m (Except FileError (List Path)) := do
  match ← makeDirectories directory with
  | .error e => return .error e
  | .ok () =>
      let (tried, staged) ← stage directory bs
      let outcome ← match staged with
        | .ok () => renameAll directory bs
        | .error e => pure (.error e)
      match outcome with
      | .ok () => return .ok (bs.map (finalPath directory))
      | .error e =>
          if e.ofSystem then
            match ← cleanUp tried with
            | .ok () => return .error e
            | .error e' => return .error e'
          else return .error e

end ScriptBindings
