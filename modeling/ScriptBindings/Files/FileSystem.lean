import ScriptBindings.Files.Path
import ScriptBindings.Text.Wide

/-!
# File systems

What the library asks of a file system.  Every operation either happens as a whole or fails for a
reason and changes nothing.
-/

namespace ScriptBindings

/-- **Why a file operation fails.** -/
inductive FileError where
  /-- A part of the path does not exist. -/
  | notFound
  /-- The path exists already. -/
  | alreadyExists
  /-- A plain file is wanted and the path is a directory. -/
  | isDirectory
  /-- A part before the last is a plain file. -/
  | notDirectory
  /-- The directory has entries. -/
  | notEmpty
  /-- The path stands for a directory in use. -/
  | busy
  /-- Any other reason, by the number and the words of the system. -/
  | other (number : Nat) (reason : String)
  /-- The path has the null character in it, and is not handed to the system at all. -/
  | nullCharacter
  /-- The text for a file cannot be encoded. -/
  | unencodable (why : Unencodable)
deriving DecidableEq, Repr

namespace FileError

/-- **Whether an error is one of the system.**  The others are found by the program. -/
def ofSystem : FileError → Bool
  | nullCharacter | unencodable _ => false
  | _ => true

/-- The number and the words for an error; those that are not of the system have no number. -/
def describe : FileError → Nat × String
  | notFound => (2, "No such file or directory")
  | alreadyExists => (17, "File exists")
  | isDirectory => (21, "Is a directory")
  | notDirectory => (20, "Not a directory")
  | notEmpty => (39, "Directory not empty")
  | busy => (16, "Device or resource busy")
  | other number reason => (number, reason)
  | nullCharacter => (0, "embedded null byte")
  | unencodable why => (0, why.message)

end FileError

/-- **A file system** that the programs of `m` act on. -/
class FileSystem (m : Type → Type) where
  /-- Makes a directory in an existing one. -/
  makeDirectory : Path → m (Except FileError Unit)
  /-- Whether a path leads to a directory. -/
  isDirectory : Path → m Bool
  /-- The bytes of a file. -/
  readFile : Path → m (Except FileError (List UInt8))
  /-- Writes a file, in place of the one that was there. -/
  writeFile : Path → List UInt8 → m (Except FileError Unit)
  /-- Gives a file another path, in place of the file that was there. -/
  renameFile : Path → Path → m (Except FileError Unit)
  /-- Removes a file. -/
  removeFile : Path → m (Except FileError Unit)

end ScriptBindings
