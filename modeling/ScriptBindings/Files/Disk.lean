import ScriptBindings.Files.FileSystem

/-!
# Disks

A disk is a tree of directories and files, held as a list of entries by location.  It is a file
system whose operations are plain functions, so that what a program does to its files can be
computed and proved.

* `Disk.get?`, `Disk.set`, `Disk.erase` — the entry at a location, and changing it.
* `Disk.enter`, `Disk.resolve` — following a path through the directories.
* `Disk.readFile`, `Disk.writeFile`, … — the operations of a file system.
* `Disk.listing` — everything below the working directory, in order.
-/

namespace ScriptBindings

/-- **A place on a disk**: the names that lead there from the root. -/
abbrev Location := List String

/-- **What lies at a place.** -/
inductive Entry where
  | file (bytes : List UInt8)
  | directory
deriving DecidableEq, Repr

/-- **A disk**, with the working directory in which relative paths begin. -/
structure Disk where
  entries : List (Location × Entry) := []
  workingDirectory : Location := []
deriving Repr

namespace Disk

/-- **The entry at a location**; the root is always a directory. -/
def get? (d : Disk) (l : Location) : Option Entry :=
  if l = [] then some .directory else d.entries.lookup l

/-- The disk without the entry at a location. -/
def erase (d : Disk) (l : Location) : Disk :=
  { d with entries := d.entries.filter fun entry => entry.1 ≠ l }

/-- The disk with another entry at a location. -/
def set (d : Disk) (l : Location) (entry : Entry) : Disk :=
  { d with entries := (l, entry) :: (d.erase l).entries }

theorem get?_erase_self (d : Disk) {l : Location} (h : l ≠ []) : (d.erase l).get? l = none := by
  simp only [get?, erase, h, ↓reduceIte, List.lookup_eq_none_iff, List.mem_filter]
  intro entry he
  have hne : entry.1 ≠ l := by simpa using he.2
  simpa using hne.symm

theorem lookup_filter_of_ne (entries : List (Location × Entry)) {l l' : Location} (h : l' ≠ l) :
    (entries.filter fun entry => entry.1 ≠ l).lookup l' = entries.lookup l' := by
  induction entries with
  | nil => rfl
  | cons entry entries ih =>
      obtain ⟨key, value⟩ := entry
      by_cases hk : key = l
      · subst hk
        have hne : (l' == key) = false := by simpa using h
        rw [List.filter_cons_of_neg (by simp), ih, List.lookup_cons, hne]
      · rw [List.filter_cons_of_pos (by simpa using hk), List.lookup_cons, List.lookup_cons, ih]

theorem get?_erase_of_ne (d : Disk) {l l' : Location} (h : l' ≠ l) :
    (d.erase l).get? l' = d.get? l' := by
  unfold get? erase
  split
  · rfl
  · exact lookup_filter_of_ne d.entries h

theorem get?_set_self (d : Disk) {l : Location} (h : l ≠ []) (entry : Entry) :
    (d.set l entry).get? l = some entry := by
  simp [get?, set, h]

theorem get?_set_of_ne (d : Disk) {l l' : Location} (h : l' ≠ l) (entry : Entry) :
    (d.set l entry).get? l' = d.get? l' := by
  rw [← get?_erase_of_ne d h]
  have hne : (l' == l) = false := by simpa using h
  simp [get?, set, List.lookup_cons, hne]

/-! ## Following paths -/

/-- **Following parts** from a directory on, all of which must be directories. -/
def enter (d : Disk) (here : Location) : List String → Except FileError Location
  | [] => .ok here
  | part :: parts =>
      if part = ".." then d.enter here.dropLast parts
      else match d.get? (here ++ [part]) with
        | some .directory => d.enter (here ++ [part]) parts
        | some (.file _) => .error .notDirectory
        | none => .error .notFound

/-- **Where a path leads**: to a directory that it goes through, or to a name in one, at which
anything may lie. -/
inductive Target where
  | through (directory : Location)
  | name (location : Location)
deriving DecidableEq, Repr

/-- **Resolving a path.**  All parts but the last must be directories, and a last part that leads up
must be one too. -/
def resolve (d : Disk) (p : Path) : Except FileError Target :=
  let start := if p.root = "" then d.workingDirectory else []
  if p.hasNull then .error .nullCharacter
  else match p.parts.getLast? with
  | none => .ok (.through start)
  | some last =>
      if last = ".." then return .through (← d.enter start p.parts)
      else return .name ((← d.enter start p.parts.dropLast) ++ [last])

/-! ## Operations -/

/-- Makes a directory. -/
def makeDirectory (d : Disk) (p : Path) : Except FileError Disk := do
  match ← d.resolve p with
  | .through _ => .error .alreadyExists
  | .name l => match d.get? l with
    | some _ => .error .alreadyExists
    | none => .ok (d.set l .directory)

/-- Whether a path leads to a directory. -/
def isDirectory (d : Disk) (p : Path) : Bool :=
  match d.resolve p with
  | .ok (.through _) => true
  | .ok (.name l) => d.get? l == some .directory
  | .error _ => false

/-- The bytes of a file. -/
def readFile (d : Disk) (p : Path) : Except FileError (List UInt8) := do
  match ← d.resolve p with
  | .through _ => .error .isDirectory
  | .name l => match d.get? l with
    | some (.file bytes) => .ok bytes
    | some .directory => .error .isDirectory
    | none => .error .notFound

/-- Writes a file. -/
def writeFile (d : Disk) (p : Path) (bytes : List UInt8) : Except FileError Disk := do
  match ← d.resolve p with
  | .through _ => .error .isDirectory
  | .name l => match d.get? l with
    | some .directory => .error .isDirectory
    | _ => .ok (d.set l (.file bytes))

/-- **Gives a file another path.**  A directory cannot be replaced, least of all one that the file
lies in. -/
def renameFile (d : Disk) (old new : Path) : Except FileError Disk := do
  match ← d.resolve old, ← d.resolve new with
  | .name source, .name target => match d.get? source with
    | some (.file bytes) =>
        if target.isPrefixOf source && target ≠ source then .error .notEmpty
        else if d.get? target = some .directory then .error .isDirectory
        else .ok ((d.erase source).set target (.file bytes))
    | some .directory => .error .isDirectory
    | none => .error .notFound
  | _, _ => .error .busy

/-- Removes a file. -/
def removeFile (d : Disk) (p : Path) : Except FileError Disk := do
  match ← d.resolve p with
  | .through _ => .error .isDirectory
  | .name l => match d.get? l with
    | some (.file _) => .ok (d.erase l)
    | some .directory => .error .isDirectory
    | none => .error .notFound

/-- Removes a directory without entries. -/
def removeDirectory (d : Disk) (p : Path) : Except FileError Disk := do
  match ← d.resolve p with
  | .through _ => .error .busy
  | .name l => match d.get? l with
    | some .directory =>
        if d.entries.any fun entry => l.isPrefixOf entry.1 && entry.1 ≠ l then .error .notEmpty
        else .ok (d.erase l)
    | some (.file _) => .error .notDirectory
    | none => .error .notFound

/-- Acting on the disk of a program; what fails leaves it as it is. -/
def act (f : Disk → Except FileError Disk) : StateM Disk (Except FileError Unit) := fun d =>
  match f d with
  | .ok d' => (.ok (), d')
  | .error e => (.error e, d)

instance : FileSystem (StateM Disk) where
  makeDirectory p := act (·.makeDirectory p)
  isDirectory p := fun d => (d.isDirectory p, d)
  readFile p := fun d => (d.readFile p, d)
  writeFile p bytes := act (·.writeFile p bytes)
  renameFile old new := act (·.renameFile old new)
  removeFile p := act (·.removeFile p)

/-- **Everything below the working directory**, by path relative to it and in the order of the
paths. -/
def listing (d : Disk) : List (String × Entry) :=
  let below := d.entries.filterMap fun (l, entry) =>
    match d.workingDirectory.isPrefixOf? l with
    | some (part :: parts) => some ("/".intercalate (part :: parts), entry)
    | _ => none
  below.mergeSort fun a b => a.1 ≤ b.1

end Disk

end ScriptBindings
