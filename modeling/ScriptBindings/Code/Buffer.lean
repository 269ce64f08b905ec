import ScriptBindings.Text.Textual

/-!
# Text buffers

A generated file is built line by line in a buffer that knows how deep its lines are indented.

* `Buffer.push`, `Buffer.append` — lines at the present level; an empty line stays empty.
* `Buffer.indent`, `Buffer.outdent` — one level in, and one out unless there is none.
* `Buffer.indented` — lines one level further in.
* `Buffer.text` — the text of the file, every line ended by a newline.
-/

namespace ScriptBindings

/-- **A file in the making**: its name, its lines with their indentation, and the level of the next
line.  The lines are strings unless another type of texts is named. -/
structure Buffer (τ : Type := String) where
  fileName : String
  lines : List τ := []
  level : Nat := 0
deriving DecidableEq, Repr

namespace Buffer

/-- What can be wrong with a step on a buffer. -/
inductive Error where
  /-- There is no level to go back from. -/
  | notIndented
deriving DecidableEq, Repr

/-- The wording of an error. -/
def Error.message : Error → String
  | notIndented => "Indent level is already 0"

variable {τ : Type}

/-- One level in. -/
def indent (b : Buffer τ) : Buffer τ :=
  { b with level := b.level + 1 }

/-- One level out, which fails if there is none. -/
def outdent (b : Buffer τ) : Except Error (Buffer τ) :=
  match b.level with
  | 0 => .error .notIndented
  | level + 1 => .ok { b with level }

/-- An empty buffer of the same name. -/
def clear (b : Buffer τ) : Buffer τ :=
  { fileName := b.fileName }

theorem outdent_indent (b : Buffer τ) : b.indent.outdent = .ok b := rfl

variable [Append τ] [Textual τ]

/-- The white space of a level. -/
def margin (level : Nat) : String :=
  String.ofList (List.replicate (4 * level) ' ')

/-- **A line at a level**: indented, unless it is empty. -/
def atLevel (level : Nat) (line : τ) : τ :=
  if Textual.isEmpty line then Textual.ofString "" else margin level ++ line

/-- **Adding lines** at the present level. -/
def append (b : Buffer τ) (lines : List τ) : Buffer τ :=
  { b with lines := b.lines ++ lines.map (atLevel b.level) }

/-- Adding one line at the present level. -/
def push (b : Buffer τ) (line : τ) : Buffer τ :=
  b.append [line]

/-- **Lines one level further in**; the level is the same before and after. -/
def indented (b : Buffer τ) (lines : List τ) : Buffer τ :=
  { b.indent.append lines with level := b.level }

/-- **The text of the file.** -/
def text (b : Buffer τ) : τ :=
  Textual.join (b.lines.intersperse (Textual.ofString "\n")) ++ "\n"

@[simp] theorem lines_append (b : Buffer τ) (lines : List τ) :
    (b.append lines).lines = b.lines ++ lines.map (atLevel b.level) := rfl

@[simp] theorem level_append (b : Buffer τ) (lines : List τ) :
    (b.append lines).level = b.level := rfl

@[simp] theorem level_push (b : Buffer τ) (line : τ) : (b.push line).level = b.level := rfl

@[simp] theorem lines_indented (b : Buffer τ) (lines : List τ) :
    (b.indented lines).lines = b.lines ++ lines.map (atLevel (b.level + 1)) := rfl

@[simp] theorem level_indented (b : Buffer τ) (lines : List τ) :
    (b.indented lines).level = b.level := rfl

/-- Going in, adding lines and coming back out never fails, and adds the lines one level in. -/
theorem outdent_append_indent (b : Buffer τ) (lines : List τ) :
    (b.indent.append lines).outdent = .ok (b.indented lines) := rfl

@[simp] theorem atLevel_zero (line : τ) : atLevel 0 line = line := by
  rw [atLevel]
  split
  · rename_i h
    exact (Textual.isEmpty_iff.1 h).symm
  · exact Textual.ofString_empty_append line

@[simp] theorem map_atLevel_zero (lines : List τ) : lines.map (atLevel 0) = lines := by
  simp [show atLevel 0 = id from funext (atLevel_zero (τ := τ))]

/-- Spaces before a line do not matter to its encoding. -/
theorem unencodable?_atLevel_iff {level : Nat} {line : τ} :
    Textual.unencodable? (atLevel level line) = none ↔ Textual.unencodable? line = none := by
  rw [atLevel]
  split
  · rename_i h
    simp only [Textual.unencodable?_ofString, Textual.unencodable?_of_isEmpty h]
  · simp [Textual.unencodable?_append_iff, Textual.unencodable?_ofString]

theorem atLevel_string (level : Nat) (line : String) :
    atLevel level line = if line.isEmpty then "" else margin level ++ line := rfl

/-- A string among the texts is indented as a string. -/
theorem atLevel_ofString (level : Nat) (line : String) :
    atLevel level (Textual.ofString line : τ) = Textual.ofString (atLevel level line) := by
  rw [atLevel, atLevel_string, Textual.isEmpty_ofString]
  split
  · rfl
  · exact (Textual.ofString_append (margin level) line).symm

theorem map_atLevel_ofStrings (level : Nat) (lines : List String) :
    (Textual.ofStrings lines).map (atLevel level) =
      (Textual.ofStrings (lines.map (atLevel level)) : List τ) := by
  simp only [Textual.ofStrings, List.map_map, Function.comp_def, atLevel_ofString]

theorem atLevel_one {line : String} (h : line ≠ "") : atLevel 1 line = "    " ++ line := by
  have hempty : Textual.isEmpty line = false := by simpa using h
  rw [atLevel, hempty]
  rfl

end Buffer

end ScriptBindings
