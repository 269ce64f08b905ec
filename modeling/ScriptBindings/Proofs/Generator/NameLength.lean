import ScriptBindings.Proofs.Code.Embedding
import ScriptBindings.Proofs.Files.Delivery
import ScriptBindings.Proofs.Generator.Pair
import ScriptBindings.Proofs.Generator.Succession
import ScriptBindings.Proofs.Number.Integer
import ScriptBindings.Proofs.Text.Encoding

/-!
# The length of the class name

The constructor of a class with a base class hands on the name of the class and a length for it.
The base class receives the bytes between two quotation marks of the file; the length counts the
characters of the name.

* `PassesName` — the bytes and the number that a file passes on; it passes on one of each.
* `TellsLength` — the number is that of the bytes.
* `Generator.exists_passesName` — a published file passes on the name in UTF-8, and the number of
  its characters.
* `Generator.exists_tellsLength_iff` — so it tells the length exactly if the name is ASCII.

### What is load-bearing

The call is found by its place: what stands before the name is fixed by the class and the compiled
script.  From there the name ends at the first quotation mark and the number at the first comma,
since no character beyond ASCII has a byte of theirs.
-/

namespace ScriptBindings

/-- **What stands before a mark** ends at its first occurrence. -/
theorem eq_of_append_mark {mark : UInt8} {before before' after after' : List UInt8}
    (hbefore : mark ∉ before) (hbefore' : mark ∉ before')
    (h : before ++ mark :: after = before' ++ mark :: after') : before = before' := by
  have hstop {l rest : List UInt8} (hl : mark ∉ l) :
      (l ++ mark :: rest).takeWhile (fun byte => byte != mark) = l := by
    have hne : ∀ byte ∈ l, (byte != mark) = true := by
      intro byte hbyte
      exact bne_iff_ne.2 fun heq => hl (heq ▸ hbyte)
    rw [List.takeWhile_append_of_pos hne, List.takeWhile_cons_of_neg (by simp), List.append_nil]
  rw [← hstop hbefore, h, hstop hbefore']

/-! ## The call in the text of the file -/

variable {τ : Type} [Append τ] [Textual τ]

namespace Implementation

/-- **The text of an implementation up to the name** that its constructor hands on, with the opening
quotation mark. -/
def beforeName (c : ScriptClass τ) (bytes : List UInt8) : τ :=
  Buffer.ended (preamble c ++ Textual.ofStrings (arrayOpening ::
    ((Blob.ofBytes bytes).lines.map (Buffer.atLevel 1) ++
      ["\x7d;", "", constructorHead c ++ " :"]))) ++
    ("        " ++ c.base ++ "(rs, __txt, " ++ toString bytes.length ++ ", \"")

/-- **The rest of the call**, with the length and from the closing quotation mark on. -/
def afterName (count : Nat) : String :=
  "\", " ++ toString count ++ ", cacheDir, cacheDirLength) \x7b\n"

/-- **The text around the name**, in an implementation with a base class. -/
theorem exists_text_eq {c : ScriptClass τ} {slots : SlotMap} {bytes : List UInt8}
    {implementation : Buffer τ} (hbase : c.base ≠ Textual.ofString "")
    (h : generate c slots bytes = .ok implementation) :
    ∃ rest, implementation.text =
      beforeName c bytes ++ (Textual.ofString (c.name ++ afterName c.name.length) ++ rest) := by
  obtain ⟨kernels, functions, -, -, rfl⟩ := generate_eq_ok_iff.1 h
  have hlines := lines_eq_sections c bytes (kernels ++ functions)
  rw [constructorLines_of_base hbase] at hlines
  have hafter : "\", " ++ toString c.name.length ++ ", cacheDir, cacheDirLength) \x7b" ++ "\n" =
      afterName c.name.length := by
    rw [afterName, String.append_assoc]
    rfl
  refine ⟨Buffer.ended (Textual.ofStrings (["\x7d", ""] ++
    (destructorLines c ++ (kernels ++ functions).flatMap Block.lines))), ?_⟩
  rw [Buffer.text_eq_ended (by simp [hlines])]
  show Buffer.ended (lines c bytes (kernels ++ functions)) = _
  rw [hlines, ← hafter]
  simp only [beforeName, Buffer.ended_append, Buffer.ended_cons, Buffer.ended_nil,
    Textual.ofStrings_append, Textual.ofStrings_cons, Textual.ofStrings_nil,
    Textual.ofString_append, Textual.ofString_empty_append, List.cons_append, List.nil_append,
    Textual.append_assoc]

/-- The bytes of a number have no comma. -/
theorem comma_notMem_toString (count : Nat) : (44 : UInt8) ∉ bytesOfText (toString count) := by
  intro mem
  have hchar := (mem_bytesOfText_iff (c := ',') (by decide) (toString count)).1 mem
  rw [Nat.toString_eq_repr, Nat.toList_repr] at hchar
  exact (Numeral.digits_toDigits count).not_mem (by decide : ','.isDigit = false) hchar

/-- The bytes of the rest of the call, with the delimiters of the number. -/
theorem bytesOfText_afterName (count : Nat) :
    bytesOfText (afterName count) =
      34 :: 44 :: 32 :: (bytesOfText (toString count) ++
        44 :: bytesOfText " cacheDir, cacheDirLength) \x7b\n") := by
  have hopen : bytesOfText "\", " = [34, 44, 32] := by
    rw [bytesOfText_eq_flatMap]
    rfl
  have hclose : bytesOfText ", cacheDir, cacheDirLength) \x7b\n" =
      44 :: bytesOfText " cacheDir, cacheDirLength) \x7b\n" := by
    rw [bytesOfText_eq_flatMap, bytesOfText_eq_flatMap]
    rfl
  rw [afterName, bytesOfText_append, bytesOfText_append, hopen, hclose, List.append_assoc]
  rfl

/-- **The number is found again** among the bytes, whatever follows the call. -/
theorem afterName_injective {count count' : Nat} {rest rest' : List UInt8}
    (h : bytesOfText (afterName count) ++ rest = bytesOfText (afterName count') ++ rest') :
    count = count' := by
  rw [bytesOfText_afterName, bytesOfText_afterName] at h
  simp only [List.cons_append, List.append_assoc, List.cons.injEq, true_and] at h
  have htext : toString count = toString count' := bytesOfText_injective
    (eq_of_append_mark (comma_notMem_toString count) (comma_notMem_toString count') h)
  have hvalue (n : Nat) : Nat.ofDigitChars 10 (toString n).toList 0 = n := by
    rw [Nat.toString_eq_repr, Nat.toList_repr, Nat.ofDigitChars_toDigits (by decide) (by decide)]
  rw [← hvalue count, htext, hvalue]

end Implementation

open Implementation

/-! ## The name and the number -/

/-- **What a file passes on to the base class** of its class: the bytes between the quotation marks
of the call, and the number after them. -/
structure PassesName (c : ScriptClass τ) (bytes file name : List UInt8) (count : Nat) : Prop where
  /-- The name ends at the first quotation mark. -/
  unquoted : (34 : UInt8) ∉ name
  /-- It stands in the call, with the number behind it. -/
  called : ∃ rest, file = bytesOfText (Textual.shown (beforeName c bytes)) ++
    (name ++ (bytesOfText (afterName count) ++ rest))

/-- **The file tells the length of the name** that it passes on. -/
def TellsLength (c : ScriptClass τ) (bytes file : List UInt8) : Prop :=
  ∀ name count, PassesName c bytes file name count → count = name.length

/-- **A file passes on one name and one number.** -/
theorem PassesName.unique {c : ScriptClass τ} {bytes file name name' : List UInt8}
    {count count' : Nat} (h : PassesName c bytes file name count)
    (h' : PassesName c bytes file name' count') : name = name' ∧ count = count' := by
  obtain ⟨rest, hcall⟩ := h.called
  obtain ⟨rest', hcall'⟩ := h'.called
  have heq := List.append_cancel_left (hcall.symm.trans hcall')
  -- the rest of the call opens with the quotation mark that ends the name
  have hquote := heq
  rw [bytesOfText_afterName, bytesOfText_afterName] at hquote
  obtain rfl := eq_of_append_mark h.unquoted h'.unquoted hquote
  exact ⟨rfl, afterName_injective (List.append_cancel_left heq)⟩

/-- **An implementation passes on the name of its class** and the number of its characters, if there
is no quotation mark in the name. -/
theorem Implementation.passesName {c : ScriptClass τ} {slots : SlotMap} {bytes : List UInt8}
    {implementation : Buffer τ} (hbase : c.base ≠ Textual.ofString "") (hname : '"' ∉ c.name.toList)
    (h : generate c slots bytes = .ok implementation) :
    PassesName c bytes (bytesOfText (Textual.shown implementation.text)) (bytesOfText c.name)
      c.name.length := by
  obtain ⟨rest, htext⟩ := exists_text_eq hbase h
  refine ⟨fun mem => hname ((mem_bytesOfText_iff (by decide) c.name).1 mem),
    bytesOfText (Textual.shown rest), ?_⟩
  rw [htext, Textual.shown_append, Textual.shown_append, Textual.shown_ofString]
  simp only [bytesOfText_append, List.append_assoc]

/-! ## Runs that publish -/

namespace Generator

open Disk

variable {g g' : Generator τ} {output : Path} {source : τ} {blob : Path} {d d' : Disk}

/-- **A run that publishes** leaves an implementation that passes on the name of the class and the
number of its characters. -/
theorem exists_passesName (hbase : g.base ≠ Textual.ofString "")
    (hrun : (g.run output source blob : StateM Disk _) d = ((g', .ok .published), d')) :
    ∃ bytes file, d.readFile blob = .ok bytes ∧
      d'.at? (implementationPath output source) = some (.file file) ∧
        PassesName (g.scriptClass source) bytes file (bytesOfText (ScriptBindings.className source))
          (ScriptBindings.className source).length := by
  obtain ⟨bs, paths, hpair, hpublish, -⟩ := run_eq_published_iff.1 hrun
  obtain ⟨bytes, header, implementation, hblob, -, himplementation, rfl⟩ :=
    pair_eq_some_iff.1 hpair
  have hbs := (isPair_of_pair hpair).publishable
  have hfinal := (delivered_of_publish hbs hpublish).2.final implementation (by simp)
  have hwritable := (unobstructed_of_publish hbs hpublish).writable implementation (by simp)
  have hwritten : Textual.written implementation.text =
      bytesOfText (Textual.shown implementation.text) := by
    rw [Textual.written, hwritable.encodable]
  obtain ⟨_, _, -, -, hfile⟩ := Implementation.generate_eq_ok_iff.1 himplementation
  have hpath : finalPath output implementation = implementationPath output source := by
    rw [hfile]
    rfl
  have hquote : '"' ∉ (g.scriptClass source).name.toList := notMem_className (by decide) source
  rw [hpath, Buffer.contents, hwritten] at hfinal
  exact ⟨bytes, _, hblob, hfinal, Implementation.passesName hbase hquote himplementation⟩

/-- **A published implementation tells the length of the class name** exactly if the name is ASCII.
In any case the number is that of the characters, which is never more than that of the bytes. -/
theorem exists_tellsLength_iff (hbase : g.base ≠ Textual.ofString "")
    (hrun : (g.run output source blob : StateM Disk _) d = ((g', .ok .published), d')) :
    ∃ bytes file, d.readFile blob = .ok bytes ∧
      d'.at? (implementationPath output source) = some (.file file) ∧
      (∀ name count, PassesName (g.scriptClass source) bytes file name count ↔
        name = bytesOfText (ScriptBindings.className source) ∧
          count = (ScriptBindings.className source).length) ∧
      (∀ name count, PassesName (g.scriptClass source) bytes file name count →
        count ≤ name.length) ∧
      (TellsLength (g.scriptClass source) bytes file ↔
        ∀ c ∈ (ScriptBindings.className source).toList, c.toNat < 128) := by
  obtain ⟨bytes, file, hblob, hfile, hpasses⟩ := exists_passesName hbase hrun
  have hiff (name : List UInt8) (count : Nat) :
      PassesName (g.scriptClass source) bytes file name count ↔
        name = bytesOfText (ScriptBindings.className source) ∧
          count = (ScriptBindings.className source).length := by
    refine ⟨fun h => h.unique hpasses, ?_⟩
    rintro ⟨hname, hcount⟩
    rwa [hname, hcount]
  refine ⟨bytes, file, hblob, hfile, hiff, ?_, ?_⟩
  · intro name count h
    obtain ⟨hname, hcount⟩ := (hiff name count).1 h
    rw [hname, hcount]
    exact length_le_length_bytesOfText _
  · rw [← length_bytesOfText_eq_iff]
    constructor
    · intro htells
      exact htells _ _ hpasses
    · intro hlength name count h
      obtain ⟨hname, hcount⟩ := (hiff name count).1 h
      rw [hname, hcount, hlength]

/-- A run for a script whose name is ASCII, on the base class of the runtime. -/
theorem exists_tellsLength_iff_loose :
    ∃ bytes file, looseDisk.readFile ⟨"", ["b"]⟩ = .ok bytes ∧
      looseRun.2.at? (implementationPath ⟨"", ["tmp", "..", "out"]⟩ "s.rs") = some (.file file) ∧
      TellsLength (scriptClass { surface := {} } "s.rs") bytes file := by
  have hrun : (Generator.run { surface := {} } ⟨"", ["tmp", "..", "out"]⟩ "s.rs" ⟨"", ["b"]⟩ :
      StateM Disk _) looseDisk = ((looseRun.1.1, .ok .published), looseRun.2) := rfl
  obtain ⟨bytes, file, hblob, hfile, -, -, hiff⟩ := exists_tellsLength_iff (by decide) hrun
  have hascii : (ScriptBindings.className "s.rs").toList.all (·.toNat < 128) = true := by decide
  exact ⟨bytes, file, hblob, hfile, hiff.2 fun c mem => by
    simpa using List.all_eq_true.1 hascii c mem⟩

/-- A run for a script whose name has an accent. -/
def accentedRun : (Generator × Except Failure Outcome) × Disk :=
  (Generator.run { surface := {} } ⟨"", ["out"]⟩ "é.rs" ⟨"", ["b"]⟩ : StateM Disk _) looseDisk

/-- **The length is not always told.**  The name `ScriptC_é` has nine characters and ten bytes. -/
theorem not_exists_tellsLength_accented :
    ¬ ∀ (g g' : Generator) (output : Path) (source : String) (blob : Path) (d d' : Disk),
      g.base ≠ "" →
      (g.run output source blob : StateM Disk _) d = ((g', .ok .published), d') →
      ∃ bytes file, d.readFile blob = .ok bytes ∧
        d'.at? (implementationPath output source) = some (.file file) ∧
          TellsLength (g.scriptClass source) bytes file := by
  intro h
  have hbase : ({ surface := {} } : Generator).base ≠ "" := by decide
  have hrun : (Generator.run { surface := {} } ⟨"", ["out"]⟩ "é.rs" ⟨"", ["b"]⟩ :
      StateM Disk _) looseDisk = ((accentedRun.1.1, .ok .published), accentedRun.2) := rfl
  obtain ⟨bytes, file, hblob, hfile, htells⟩ := h _ _ _ _ _ _ _ hbase hrun
  obtain ⟨bytes', file', hblob', hfile', hpasses⟩ := exists_passesName hbase hrun
  obtain rfl : bytes = bytes' := Except.ok.inj (hblob.symm.trans hblob')
  obtain rfl : file = file' := Entry.file.inj (Option.some.inj (hfile.symm.trans hfile'))
  have haccent := (length_bytesOfText_eq_iff _).1 (htells _ _ hpasses) 'é' (by decide)
  exact absurd haccent (by decide)

end Generator

end ScriptBindings
