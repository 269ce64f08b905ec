import ScriptBindings.Code.Header
import ScriptBindings.Code.Implementation
import ScriptBindings.Proofs.Traversal

/-!
# The lines of the generated files

A generator succeeds exactly if each of its parts does, and the file is then those parts in a fixed
order.  The two statements here, one for each file, are all that other files need to know of the
generators.

* `Header.generate_eq_ok_iff`, `Header.lines` — the header from its four parts.
* `Implementation.generate_eq_ok_iff`, `Implementation.lines` — the implementation from its two.

* `Buffer.text_eq_ended` — the text of a file is its lines, each with its newline.

Both files end at the level at which they began.
-/

namespace ScriptBindings

open Traversal

variable {τ : Type} [Append τ] [Textual τ]

namespace Buffer

/-- **Lines as they stand in a file**, each ended by a newline. -/
def ended (lines : List τ) : τ :=
  Textual.join (lines.map (· ++ "\n"))

theorem ended_nil : ended ([] : List τ) = Textual.ofString "" :=
  Textual.ext (by simp [ended])

theorem ended_cons (line : τ) (lines : List τ) :
    ended (line :: lines) = line ++ "\n" ++ ended lines :=
  Textual.ext (by simp [ended])

theorem ended_append (lines lines' : List τ) :
    ended (lines ++ lines') = ended lines ++ ended lines' :=
  Textual.ext (by simp [ended])

/-- **The text of a file** with at least one line. -/
theorem text_eq_ended {b : Buffer τ} (h : b.lines ≠ []) : b.text = ended b.lines := by
  rw [text]
  generalize b.lines = lines at h
  induction lines with
  | nil => exact absurd rfl h
  | cons line lines ih =>
      rw [ended_cons]
      cases lines with
      | nil => exact Textual.ext (by simp [ended])
      | cons next lines =>
          rw [← ih (by simp), List.intersperse_cons_cons]
          exact Textual.ext (by simp)

end Buffer

namespace Header

/-- The lines of a header before its methods, with the given storage and accessors. -/
def opening (c : ScriptClass τ) (storage : List String) (accessors : List (List String)) :
    List τ :=
  ScriptClass.notice c.source ++ Textual.ofStrings includeLines ++ [classLine c, "private:"] ++
    (Textual.ofStrings storage).map (Buffer.atLevel 1) ++ (["public:"] : List τ) ++
    (Textual.ofStrings (lifetimeLines c ++ accessors.flatten)).map (Buffer.atLevel 1)

/-- **The lines of a header** with the given storage, accessors, kernels and functions. -/
def lines (c : ScriptClass τ) (storage : List String) (accessors : List (List String))
    (kernels functions : List String) : List τ :=
  opening c storage accessors ++
    ((Textual.ofStrings (kernels ++ functions)).map (Buffer.atLevel 1) ++
      (["\x7d;"] : List τ))

theorem generate_eq_ok_iff {c : ScriptClass τ} {slots : SlotMap} {header : Buffer τ} :
    generate c slots = .ok header ↔
      ∃ storage accessors kernels functions,
        Header.storage slots.globals = .ok storage ∧
        slots.globals.mapM (fun (slot, v) => Header.accessors slot v) = .ok accessors ∧
        slots.kernels.mapM kernelLine = .ok kernels ∧
        slots.functions.mapM (fun (_, f) => functionLine f) = .ok functions ∧
        header = ⟨c.name ++ ".h", lines c storage accessors kernels functions, 0⟩ := by
  have hfile (storage : List String) (accessors : List (List String))
      (kernels functions : List String) :
      ({ fileName := c.name ++ ".h" : Buffer τ }
        |>.append (ScriptClass.notice c.source)
        |>.append (Textual.ofStrings includeLines)
        |>.push (classLine c)
        |>.push "private:"
        |>.indented (Textual.ofStrings storage)
        |>.push "public:"
        |>.indented (Textual.ofStrings
          (lifetimeLines c ++ accessors.flatten ++ kernels ++ functions))
        |>.push "\x7d;") = ⟨c.name ++ ".h", lines c storage accessors kernels functions, 0⟩ := by
    simp [lines, opening, Buffer.push, Buffer.append, Buffer.indented, Buffer.indent]
  simp only [generate, bind_eq_ok_iff, pure_eq_ok, Except.ok.injEq, hfile]
  constructor
  · rintro ⟨storage, hs, accessors, ha, kernels, hk, functions, hf, rfl⟩
    exact ⟨storage, accessors, kernels, functions, hs, ha, hk, hf, rfl⟩
  · rintro ⟨storage, accessors, kernels, functions, hs, ha, hk, hf, rfl⟩
    exact ⟨storage, hs, accessors, ha, kernels, hk, functions, hf, rfl⟩

theorem fileName_of_generate {c : ScriptClass τ} {slots : SlotMap} {header : Buffer τ}
    (h : generate c slots = .ok header) : header.fileName = c.name ++ ".h" := by
  obtain ⟨_, _, _, _, -, -, -, -, rfl⟩ := generate_eq_ok_iff.1 h
  rfl

end Header

namespace Implementation

/-- The lines of a part of the implementation. -/
def Block.lines : Block → List τ
  | .comment text => [text, ""]
  | .method signature body =>
      (signature ++ " \x7b" : τ) ::
        ((Textual.ofStrings body).map (Buffer.atLevel 1) ++ (["\x7d", ""] : List τ))

/-- All lines of a part are strings. -/
theorem Block.lines_eq_ofStrings (block : Block) :
    (block.lines : List τ) = Textual.ofStrings block.lines := by
  cases block with
  | comment text => rfl
  | method signature body =>
      simp only [Block.lines, Buffer.map_atLevel_ofStrings, Textual.ofStrings_string,
        Textual.ofString_string, Textual.ofStrings_cons, Textual.ofStrings_append,
        Textual.ofStrings_nil, Textual.ofString_append]

theorem flatMap_lines_eq_ofStrings (blocks : List Block) :
    (blocks.flatMap Block.lines : List τ) = Textual.ofStrings (blocks.flatMap Block.lines) := by
  simp only [Textual.ofStrings, List.map_flatMap]
  exact congrArg blocks.flatMap (funext Block.lines_eq_ofStrings)

/-- Adding parts at level zero adds their lines in order. -/
theorem foldl_addBlock (blocks : List Block) {b : Buffer τ} (h : b.level = 0) :
    blocks.foldl addBlock b = ⟨b.fileName, b.lines ++ blocks.flatMap Block.lines, 0⟩ := by
  induction blocks generalizing b with
  | nil =>
      cases b
      simp_all
  | cons block blocks ih =>
      cases block with
      | comment text =>
          rw [List.foldl_cons, ih (by simpa [addBlock] using h)]
          simp [addBlock, Buffer.append, Block.lines, h]
      | method signature body =>
          rw [List.foldl_cons, ih (by simpa [addBlock] using h)]
          simp [addBlock, Buffer.push, Buffer.append, Buffer.indented, Buffer.indent, Block.lines,
            h]

/-- The lines of an implementation before its parts, with the given bytes. -/
def opening (c : ScriptClass τ) (bytes : List UInt8) : List τ :=
  ScriptClass.notice c.source ++ (["#include \"" ++ c.name ++ ".h\"", ""] : List τ) ++
    (["static const unsigned char " ++ blobName ++ "[] = \x7b"] : List τ) ++
    (Textual.ofStrings (Blob.ofBytes bytes).lines).map (Buffer.atLevel 1) ++
    (["\x7d;", ""] : List τ) ++
    constructorLines c bytes.length ++ Textual.ofStrings (destructorLines c)

/-- **The lines of an implementation** with the given bytes and parts. -/
def lines (c : ScriptClass τ) (bytes : List UInt8) (blocks : List Block) : List τ :=
  opening c bytes ++ blocks.flatMap Block.lines

theorem generate_eq_ok_iff {c : ScriptClass τ} {slots : SlotMap} {bytes : List UInt8}
    {implementation : Buffer τ} :
    generate c slots bytes = .ok implementation ↔
      ∃ kernels functions,
        slots.kernels.mapM (kernelBlock c) = .ok kernels ∧
        slots.functions.mapM (functionBlock c) = .ok functions ∧
        implementation = ⟨c.name ++ ".cpp", lines c bytes (kernels ++ functions), 0⟩ := by
  have hfile (blocks : List Block) :
      blocks.foldl addBlock
        ((blobLines
          ({ fileName := c.name ++ ".cpp" : Buffer τ }
            |>.append (ScriptClass.notice c.source)
            |>.append ["#include \"" ++ c.name ++ ".h\"", ""])
          (Blob.ofBytes bytes)).append
          (constructorLines c (Blob.ofBytes bytes).size ++
            Textual.ofStrings (destructorLines c))) =
        ⟨c.name ++ ".cpp", lines c bytes blocks, 0⟩ := by
    rw [foldl_addBlock _ rfl]
    simp [lines, opening, blobLines, Blob.ofBytes, Buffer.push, Buffer.append, Buffer.indented,
      Buffer.indent]
  simp only [generate, bind_eq_ok_iff, pure_eq_ok, Except.ok.injEq, hfile]
  constructor
  · rintro ⟨kernels, hk, functions, hf, rfl⟩
    exact ⟨kernels, functions, hk, hf, rfl⟩
  · rintro ⟨kernels, functions, hk, hf, rfl⟩
    exact ⟨kernels, hk, functions, hf, rfl⟩

theorem fileName_of_generate {c : ScriptClass τ} {slots : SlotMap} {bytes : List UInt8}
    {implementation : Buffer τ} (h : generate c slots bytes = .ok implementation) :
    implementation.fileName = c.name ++ ".cpp" := by
  obtain ⟨_, _, -, -, rfl⟩ := generate_eq_ok_iff.1 h
  rfl

end Implementation

end ScriptBindings
