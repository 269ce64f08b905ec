import ScriptBindings.Number.Numeral
import ScriptBindings.Proofs.Code.Variables

/-!
# The embedded script and the base class

The implementation carries the compiled script as an array of bytes.  Its constructor hands the
array on to the base class, which the header names in the line that opens the class.

* `Blob.readLines?` — the bytes that the lines of an array spell.
* `EmbedsScript` — what both files say about the compiled script and the base class.
* `exists_embedsScript` — they say it whenever they are generated.

### What is load-bearing

The array is found in the implementation by its text alone, from the first line that opens it to the
first closing line after that.  Names on the surface cannot interfere: what stands before the array
begins with other characters, and every row is indented.
-/

namespace ScriptBindings

/-! ## Reading an array -/

namespace Blob

/-- **Reading entries**: `0x`, two hexadecimal digits and a comma, one entry after the other. -/
def readEntries? : List Char → Option (List UInt8)
  | [] => some []
  | '0' :: 'x' :: high :: low :: ',' :: rest => do
      let byte := 16 * (← Numeral.digitIn? 16 high) + (← Numeral.digitIn? 16 low)
      return UInt8.ofNat byte :: (← readEntries? rest)
  | _ => none

/-- **Reading the lines of an array**: the entries of all lines in order, whatever their
indentation. -/
def readLines? (lines : List String) : Option (List UInt8) :=
  readEntries? (lines.flatMap fun line => line.toList.dropWhile (· == ' '))

/-- A number below 256 has two hexadecimal digits, the first of which may be a zero. -/
theorem leftpad_toDigits {n : Nat} (h : n < 256) :
    (Nat.toDigits 16 n).leftpad 2 '0' = [Nat.digitChar (n / 16), Nat.digitChar (n % 16)] := by
  by_cases hsmall : n < 16
  · rw [Nat.toDigits_of_lt_base hsmall, Nat.div_eq_of_lt hsmall, Nat.mod_eq_of_lt hsmall]
    rfl
  · rw [Nat.toDigits_of_base_le (by decide) (by omega), Nat.toDigits_of_lt_base (by omega)]
    rfl

theorem digitIn?_digitChar {d : Nat} (h : d < 16) :
    Numeral.digitIn? 16 (Nat.digitChar d) = some d := by
  have hdigits : ∀ d < 16, Numeral.digitIn? 16 (Nat.digitChar d) = some d := by decide
  exact hdigits d h

/-- **One entry** is read as its byte. -/
theorem readEntries?_byteLiteral (byte : UInt8) (rest : List Char) :
    readEntries? ((byteLiteral byte).toList ++ rest) = (readEntries? rest).map (byte :: ·) := by
  have hbyte : byte.toNat < 256 := byte.toNat_lt
  have htext : (byteLiteral byte).toList =
      ['0', 'x', Nat.digitChar (byte.toNat / 16), Nat.digitChar (byte.toNat % 16), ','] := by
    rw [byteLiteral, leftpad_toDigits hbyte]
    simp
  have hvalue : UInt8.ofNat (16 * (byte.toNat / 16) + byte.toNat % 16) = byte := by
    rw [Nat.div_add_mod, UInt8.ofNat_toNat]
  rw [htext]
  simp only [List.cons_append, List.nil_append, readEntries?,
    digitIn?_digitChar (show byte.toNat / 16 < 16 by omega),
    digitIn?_digitChar (show byte.toNat % 16 < 16 by omega), Option.bind_eq_bind,
    Option.bind_some, hvalue]
  cases readEntries? rest <;> rfl

/-- **All entries** are read as their bytes. -/
theorem readEntries?_flatMap (bytes : List UInt8) :
    readEntries? (bytes.flatMap fun byte => (byteLiteral byte).toList) = some bytes := by
  induction bytes with
  | nil => rfl
  | cons byte bytes ih => rw [List.flatMap_cons, readEntries?_byteLiteral, ih, Option.map_some]

example : readEntries? "0x00,0x7d,0xff,".toList = some [0, 125, 255] := by decide

/-- The line of a row. -/
def rowLine (row : List UInt8) : String :=
  String.join (row.map byteLiteral)

theorem lines_ofBytes (bytes : List UInt8) :
    (ofBytes bytes).lines = (rows (lineWidth - 1) bytes).map rowLine := rfl

theorem toList_rowLine (row : List UInt8) :
    (rowLine row).toList = row.flatMap fun byte => (byteLiteral byte).toList := by
  simp [rowLine, List.flatMap_map]

/-- A row begins with an entry, and no entry begins with a space. -/
theorem dropWhile_rowLine (row : List UInt8) :
    (rowLine row).toList.dropWhile (· == ' ') = (rowLine row).toList := by
  rw [toList_rowLine]
  cases row with
  | nil => rfl
  | cons byte row => simp [byteLiteral]

/-- **Rows are read as their bytes**, whatever the bytes of each row are. -/
theorem readLines?_rowLine (rows : List (List UInt8)) :
    readLines? (rows.map rowLine) = some rows.flatten := by
  have hchars : ((rows.map rowLine).flatMap fun line => line.toList.dropWhile (· == ' ')) =
      rows.flatten.flatMap fun byte => (byteLiteral byte).toList := by
    simp only [List.flatMap_map, dropWhile_rowLine]
    simp only [toList_rowLine, ← List.flatMap_id, List.flatMap_assoc, id_eq]
  rw [readLines?, hchars, readEntries?_flatMap]

/-- Indentation means nothing. -/
theorem readLines?_map_atLevel (level : Nat) (lines : List String) :
    readLines? (lines.map (Buffer.atLevel level)) = readLines? lines := by
  have hline (line : String) : (Buffer.atLevel level line).toList.dropWhile (· == ' ') =
      line.toList.dropWhile (· == ' ') := by
    rw [Buffer.atLevel_string]
    split
    · rename_i hempty
      rw [String.isEmpty_iff.1 hempty]
    · rw [String.toList_append, Buffer.margin, String.toList_ofList, List.dropWhile_append_of_pos]
      intro c hc
      simp [List.eq_of_mem_replicate hc]
  simp only [readLines?, List.flatMap_map, hline]

/-- **The array of a file** is read as the bytes that it embeds. -/
theorem readLines?_ofBytes (level : Nat) (bytes : List UInt8) :
    readLines? ((ofBytes bytes).lines.map (Buffer.atLevel level)) = some bytes := by
  rw [readLines?_map_atLevel, lines_ofBytes, readLines?_rowLine, flatten_rows]

end Blob

/-! ## Finding lines by their beginning -/

/-- **An indented line** is empty or begins with a space. -/
theorem Buffer.atLevel_succ_eq (level : Nat) (line : String) :
    atLevel (level + 1) line = "" ∨
      ∃ rest, (atLevel (level + 1) line).toList = ' ' :: rest := by
  rw [atLevel_string]
  split
  · exact .inl rfl
  · refine .inr ⟨List.replicate (4 * level + 3) ' ' ++ line.toList, ?_⟩
    rw [String.toList_append, margin, String.toList_ofList]
    rfl

/-- No indented line is one that begins with another character. -/
theorem Buffer.notMem_map_atLevel {level : Nat} {mark : String} {c : Char} {rest : List Char}
    (hmark : mark.toList = c :: rest) (hc : c ≠ ' ') (lines : List String) :
    mark ∉ lines.map (atLevel (level + 1)) := by
  rintro hmem
  obtain ⟨line, -, rfl⟩ := List.mem_map.1 hmem
  rcases atLevel_succ_eq level line with hempty | ⟨rest', hspace⟩
  · simp [hempty] at hmark
  · rw [hspace] at hmark
    exact hc (List.cons.inj hmark).1.symm

/-- **The line that opens a class.** -/
def isClassLine (line : String) : Bool :=
  "class ".toList.isPrefixOf line.toList

theorem isClassLine_atLevel (level : Nat) (line : String) :
    isClassLine (Buffer.atLevel (level + 1) line) = false := by
  rw [isClassLine]
  rcases Buffer.atLevel_succ_eq level line with hempty | ⟨rest, hspace⟩
  · rw [hempty]
    rfl
  · rw [hspace]
    rfl

theorem filter_isClassLine_atLevel (level : Nat) (lines : List String) :
    (lines.map (Buffer.atLevel (level + 1))).filter isClassLine = [] := by
  rw [List.filter_eq_nil_iff]
  intro line hmem
  obtain ⟨line, -, rfl⟩ := List.mem_map.1 hmem
  simp [isClassLine_atLevel]

variable {τ : Type} [Append τ] [Textual τ]

/-- **A header has one line that opens a class.** -/
theorem Header.filter_isClassLine_lines (c : ScriptClass τ) (storage : List String)
    (accessors : List (List String)) (kernels functions : List String) :
    (Header.lines c storage accessors kernels functions).filter (isClassLine ∘ Textual.shown) =
      [Header.classLine c] := by
  have hnotice : (ScriptClass.notice c.source).filter (isClassLine ∘ Textual.shown) = [] := by
    simp [ScriptClass.notice, isClassLine, List.isPrefixOf]
  have hinclude : Header.includeLines.filter isClassLine = [] := by decide
  have hclass : isClassLine (Textual.shown (Header.classLine c)) = true := by
    simp [isClassLine, Header.classLine, List.isPrefixOf]
  have hmarks : isClassLine "private:" = false ∧ isClassLine "public:" = false ∧
      isClassLine "\x7d;" = false := by decide
  have hbody : (Header.body c storage accessors kernels functions).filter isClassLine = [] := by
    have haccessors : (accessors.map (·.map (Buffer.atLevel 1))).flatten =
        accessors.flatten.map (Buffer.atLevel 1) := by rw [List.map_flatten]
    simp only [Header.body, haccessors, List.filter_cons, List.filter_append,
      filter_isClassLine_atLevel, hmarks, List.filter_nil, List.append_nil]
    rfl
  have hline : [Header.classLine c].filter (isClassLine ∘ Textual.shown) = [Header.classLine c] :=
    List.filter_cons_of_pos hclass
  rw [Header.lines_eq_sections, Header.preamble, List.filter_append, List.filter_append,
    List.filter_append, hnotice, Textual.filter_shown_ofStrings, Textual.filter_shown_ofStrings,
    hinclude, hbody, hline]
  rfl

/-! ## Both files -/

/-- The line that opens the array of the compiled script. -/
def arrayOpening : String := "static const unsigned char __txt[] = \x7b"

/-- The definition of the constructor up to its parameters. -/
def constructorHead (c : ScriptClass τ) : String :=
  c.name ++ "::" ++ c.name ++ "(" ++ ScriptClass.constructorArguments ++ ")"

/-- **What both files say about the compiled script and the base class**, with the lines before,
inside and after the array of the implementation. -/
structure EmbedsScript (c : ScriptClass τ) (bytes : List UInt8) (header implementation : Buffer τ)
    (before : List τ) (array : List String) (after : List τ) : Prop where
  lines : implementation.lines =
    before ++ Textual.ofStrings (arrayOpening :: (array ++ ["\x7d;"])) ++ after
  /-- The array begins after the first line that opens one. -/
  opening_notMem : Textual.ofString arrayOpening ∉ before
  /-- It ends before the first closing line. -/
  closing_notMem : "\x7d;" ∉ array
  /-- It spells the bytes. -/
  spelled : Blob.readLines? array = some bytes
  /-- The class inherits publicly from its base class.  The constructor, which follows the array,
  hands the array, the number of bytes and the name of the class on to the same base class. -/
  based : c.base ≠ Textual.ofString "" →
    header.lines.filter (isClassLine ∘ Textual.shown) =
      ["class " ++ c.name ++ " : public " ++ c.base ++ " \x7b"] ∧
    (["", constructorHead c ++ " :",
      "        " ++ c.base ++ "(rs, __txt, " ++ toString bytes.length ++ ", \"" ++ c.name ++
        "\", " ++ toString c.name.length ++ ", cacheDir, cacheDirLength) \x7b",
      "\x7d", ""] : List τ) <+: after
  /-- Without a base class, neither line names one. -/
  baseless : c.base = Textual.ofString "" →
    header.lines.filter (isClassLine ∘ Textual.shown) = ["class " ++ c.name ++ " \x7b"] ∧
    (["", constructorHead c ++ " \x7b", "\x7d", ""] : List τ) <+: after

/-- The lines of an implementation before its array. -/
def Implementation.preamble (c : ScriptClass τ) : List τ :=
  ScriptClass.notice c.source ++ (["#include \"" ++ c.name ++ ".h\"", ""] : List τ)

/-- No line before the array opens one. -/
theorem Implementation.opening_notMem_preamble (c : ScriptClass τ) :
    Textual.ofString arrayOpening ∉ Implementation.preamble c := by
  intro hmem
  have hne {line : τ} (hfirst : (Textual.shown line).toList.head? ≠ some 's') :
      Textual.ofString arrayOpening ≠ line := by
    rintro rfl
    rw [Textual.shown_ofString] at hfirst
    exact hfirst rfl
  simp only [Implementation.preamble, ScriptClass.notice, List.mem_append, List.mem_cons,
    List.not_mem_nil, or_false] at hmem
  rcases hmem with (h | h | h | h | h) | h | h <;> exact hne (by simp) h

/-- **The sections of an implementation**: what stands before the array, in it and after it. -/
theorem Implementation.lines_eq_sections (c : ScriptClass τ) (bytes : List UInt8)
    (blocks : List Block) :
    Implementation.lines c bytes blocks = Implementation.preamble c ++
      Textual.ofStrings (arrayOpening ::
        ((Blob.ofBytes bytes).lines.map (Buffer.atLevel 1) ++ ["\x7d;"])) ++
      ((Textual.ofString "" :: constructorLines c bytes.length) ++
        Textual.ofStrings (destructorLines c ++ blocks.flatMap Block.lines)) := by
  have hopening : (Textual.ofString "static const unsigned char " ++ Textual.ofString blobName ++
      Textual.ofString "[] = \x7b" : τ) = Textual.ofString arrayOpening := by
    rw [← Textual.ofString_append, ← Textual.ofString_append]
    rfl
  rw [Implementation.lines, Implementation.opening, flatMap_lines_eq_ofStrings,
    Buffer.map_atLevel_ofStrings, hopening]
  simp [Implementation.preamble]

theorem ScriptClass.hasBase_iff {c : ScriptClass τ} :
    c.hasBase = true ↔ c.base ≠ Textual.ofString "" := by
  simp [ScriptClass.hasBase, ← Textual.isEmpty_iff]

/-- **The constructor with a base class.** -/
theorem Implementation.constructorLines_of_base {c : ScriptClass τ}
    (h : c.base ≠ Textual.ofString "") (size : Nat) :
    constructorLines c size =
      ([constructorHead c ++ " :",
        "        " ++ c.base ++ "(rs, __txt, " ++ toString size ++ ", \"" ++ c.name ++ "\", " ++
          toString c.name.length ++ ", cacheDir, cacheDirLength) \x7b",
        "\x7d", ""] : List τ) := by
  rw [constructorLines, if_pos (ScriptClass.hasBase_iff.2 h)]
  simp only [List.cons_append, List.nil_append, Textual.ofStrings_cons, Textual.ofStrings_nil,
    List.cons.injEq, and_true]
  exact ⟨Textual.ext (by simp [constructorHead]), Textual.ext (by simp [blobName])⟩

/-- **The constructor without a base class.** -/
theorem Implementation.constructorLines_of_no_base {c : ScriptClass τ}
    (h : c.base = Textual.ofString "") (size : Nat) :
    constructorLines c size = ([constructorHead c ++ " \x7b", "\x7d", ""] : List τ) := by
  rw [constructorLines, if_neg fun hbase => ScriptClass.hasBase_iff.1 hbase h]
  simp only [List.cons_append, List.nil_append, Textual.ofStrings_cons, Textual.ofStrings_nil,
    List.cons.injEq, and_true]
  exact Textual.ext (by simp [constructorHead])

/-- **The embedded script is exact, and both files name the same base class**, whenever they are
generated. -/
theorem exists_embedsScript (c : ScriptClass τ) (s : Surface) (bytes : List UInt8)
    {header implementation : Buffer τ} (hheader : Header.generate c s.slots = .ok header)
    (himplementation : Implementation.generate c s.slots bytes = .ok implementation) :
    ∃ before array after, EmbedsScript c bytes header implementation before array after := by
  obtain ⟨storage, accessors, kernels, functions, -, -, -, -, rfl⟩ :=
    Header.generate_eq_ok_iff.1 hheader
  obtain ⟨kernelBlocks, functionBlocks, -, -, rfl⟩ :=
    Implementation.generate_eq_ok_iff.1 himplementation
  have hclass := Header.filter_isClassLine_lines c storage accessors kernels functions
  refine ⟨_, _, _, Implementation.lines_eq_sections c bytes _,
    Implementation.opening_notMem_preamble c, Buffer.notMem_map_atLevel rfl (by decide) _,
    Blob.readLines?_ofBytes 1 bytes, fun hbase => ⟨hclass.trans ?_, ?_⟩,
    fun hbase => ⟨hclass.trans ?_, ?_⟩⟩
  · rw [Header.classLine, if_pos (ScriptClass.hasBase_iff.2 hbase)]
    exact congrArg (fun line => [line]) (Textual.ext (by simp))
  · rw [Implementation.constructorLines_of_base hbase]
    exact List.prefix_append _ _
  · rw [Header.classLine, if_neg fun h => ScriptClass.hasBase_iff.1 h hbase]
    exact congrArg (fun line => [line]) (Textual.ext (by simp))
  · rw [Implementation.constructorLines_of_no_base hbase]
    exact List.prefix_append _ _

/-- The class of a script on the base class of the runtime, with more bytes than one row holds. -/
theorem exists_embedsScript_palette :
    ∃ header implementation,
      Header.generate ⟨"ScriptC_palette", "palette.rs", ScriptClass.defaultBase⟩
        Surface.palette.slots = .ok header ∧
      Implementation.generate ⟨"ScriptC_palette", "palette.rs", ScriptClass.defaultBase⟩
        Surface.palette.slots ((List.range 17).map UInt8.ofNat) = .ok implementation ∧
      ∃ before array after, EmbedsScript
        ⟨"ScriptC_palette", "palette.rs", ScriptClass.defaultBase⟩
        ((List.range 17).map UInt8.ofNat) header implementation before array after := by
  obtain ⟨header, hheader⟩ : ∃ header,
      Header.generate ⟨"ScriptC_palette", "palette.rs", ScriptClass.defaultBase⟩
        Surface.palette.slots = .ok header :=
    ⟨_, rfl⟩
  obtain ⟨implementation, himplementation⟩ : ∃ implementation,
      Implementation.generate ⟨"ScriptC_palette", "palette.rs", ScriptClass.defaultBase⟩
        Surface.palette.slots ((List.range 17).map UInt8.ofNat) = .ok implementation :=
    ⟨_, rfl⟩
  exact ⟨header, implementation, hheader, himplementation,
    exists_embedsScript _ _ _ hheader himplementation⟩

end ScriptBindings
