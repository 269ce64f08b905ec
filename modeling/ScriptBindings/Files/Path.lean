import ScriptBindings.Text.Blank

/-!
# Paths

A path is a root, which a relative path does not have, and a list of parts.  Empty parts and single
points between the slashes mean nothing and are left out; two points lead one directory up and are
kept, since only the file system knows where they lead.

* `Path.ofString`, `Path.text` — reading and printing.
* `Path.name`, `Path.stem` — the last part, and the last part without its suffix.
* `Path.append` — a path below another one.
* `Path.hasNull` — whether a path is none that a file can have.
-/

namespace ScriptBindings

/-- **A path.**  The root is empty for a relative path, otherwise one slash or two. -/
structure Path where
  root : String := ""
  parts : List String := []
deriving DecidableEq, Repr

namespace Path

/-- **The root of a path**: its slashes at the start.  Exactly two are a root of their own; any
other number of them counts as one. -/
def rootOf (cs : List Char) : String :=
  match (cs.takeWhile (· == '/')).length with
  | 0 => ""
  | 2 => "//"
  | _ => "/"

/-- The parts between the slashes that mean something. -/
def partsOf (cs : List Char) : List String :=
  ((Text.pieces (· == '/') cs).map String.ofList).filter fun part => part ≠ "" && part ≠ "."

/-- **Reading a path.** -/
def ofString (s : String) : Path :=
  ⟨rootOf s.toList, partsOf s.toList⟩

/-- **Printing a path**; the path with neither root nor parts is the point. -/
def text (p : Path) : String :=
  if p.root = "" && p.parts.isEmpty then "." else p.root ++ "/".intercalate p.parts

/-- The last part, which is empty if there is none. -/
def name (p : Path) : String :=
  p.parts.getLast?.getD ""

/-- **The name without its suffix**: what stands before the last point, unless that is the first or
the last character. -/
def stem (p : Path) : String :=
  let reversed := p.name.toList.reverse
  let suffix := reversed.takeWhile (· != '.')
  match reversed.dropWhile (· != '.') with
  | _ :: before => if suffix.isEmpty || before.isEmpty then p.name else String.ofList before.reverse
  | [] => p.name

/-- **A path below another one**; a path with a root stands for itself. -/
def append (p q : Path) : Path :=
  if q.root = "" then ⟨p.root, p.parts ++ q.parts⟩ else q

/-- Whether the null character is in a path.  No file has such a path. -/
def hasNull (p : Path) : Bool :=
  p.parts.any (·.toList.contains '\x00')

/-- The path with a name, or with a relative path, below another one. -/
def child (p : Path) (name : String) : Path :=
  p.append (ofString name)

/-- A text without slashes is one part, if it means anything. -/
theorem partsOf_of_slash_notMem {cs : List Char} (h : '/' ∉ cs) :
    partsOf cs = [String.ofList cs].filter fun part => part ≠ "" && part ≠ "." := by
  have hpieces : Text.pieces (· == '/') cs = [cs] :=
    Text.pieces_of_forall_not fun c mem => beq_eq_false_iff_ne.2 fun heq => h (heq ▸ mem)
  rw [partsOf, hpieces, List.map_singleton]

end Path

end ScriptBindings
