import ScriptBindings.Proofs.Code.Lines

/-!
# When generated files can be encoded

Two texts of a generated file come from outside and may hold surrogates: the name of the source
file, which the notice shows, and the base class.  All else is made of strings.  So the header and
the implementation of a class can be encoded under the same condition, whatever the surface and
the compiled script are.

* `ScriptClass.Encodable` — the two texts of a class can be encoded.
* `Buffer.unencodable?_text_iff` — a file can be encoded exactly if its lines can.
* `Header.unencodable?_text_iff`, `Implementation.unencodable?_text_iff` — both files can be encoded
  exactly if the texts of the class can.
-/

namespace ScriptBindings

variable {τ : Type} [Append τ] [Textual τ]

/-- **A class whose texts can be encoded**: the name of the source file and the base class. -/
structure ScriptClass.Encodable (c : ScriptClass τ) : Prop where
  source : Textual.unencodable? c.source = none
  base : Textual.unencodable? c.base = none

theorem ScriptClass.encodable_iff {c : ScriptClass τ} :
    c.Encodable ↔ Textual.unencodable? c.source = none ∧ Textual.unencodable? c.base = none :=
  ⟨fun h => ⟨h.source, h.base⟩, fun h => ⟨h.1, h.2⟩⟩

/-! ## Lines -/

/-- What stands between the members of a list can be encoded. -/
theorem Textual.forall_mem_intersperse_iff {separator : τ} (h : unencodable? separator = none)
    {ts : List τ} :
    (∀ t ∈ ts.intersperse separator, unencodable? t = none) ↔ ∀ t ∈ ts, unencodable? t = none := by
  induction ts with
  | nil => rfl
  | cons t ts ih =>
      cases ts with
      | nil => rfl
      | cons next ts =>
          rw [List.intersperse_cons_cons, List.forall_mem_cons, List.forall_mem_cons, ih,
            List.forall_mem_cons (a := t)]
          exact and_congr_right fun _ => and_iff_right h

/-- **A file can be encoded** exactly if its lines can. -/
theorem Buffer.unencodable?_text_iff {b : Buffer τ} :
    Textual.unencodable? b.text = none ↔ ∀ line ∈ b.lines, Textual.unencodable? line = none := by
  rw [text, Textual.unencodable?_append_iff, Textual.unencodable?_join_iff,
    Textual.forall_mem_intersperse_iff (Textual.unencodable?_ofString "\n")]
  exact and_iff_left (Textual.unencodable?_ofString "\n")

/-- A property of strings among the texts. -/
theorem Textual.forall_mem_ofStrings_iff {P : τ → Prop} {strings : List String} :
    (∀ t ∈ (ofStrings strings : List τ), P t) ↔ ∀ s ∈ strings, P (ofString s) :=
  List.forall_mem_map

/-- **The notice** shows the name of the source file. -/
theorem ScriptClass.forall_mem_notice_iff {source : τ} :
    (∀ line ∈ notice source, Textual.unencodable? line = none) ↔
      Textual.unencodable? source = none := by
  simp [notice, Textual.unencodable?_append_iff, Textual.unencodable?_ofString]

/-- A class without a base class has nothing there that could not be encoded. -/
theorem ScriptClass.unencodable?_base {c : ScriptClass τ} (h : c.hasBase = false) :
    Textual.unencodable? c.base = none :=
  Textual.unencodable?_of_isEmpty (by simpa [hasBase] using h)

/-! ## Both files -/

namespace Header

/-- The line that opens the class shows the base class. -/
theorem unencodable?_classLine_iff {c : ScriptClass τ} :
    Textual.unencodable? (classLine c) = none ↔ Textual.unencodable? c.base = none := by
  cases hbase : c.hasBase with
  | true => simp [classLine, hbase, Textual.unencodable?_append_iff, Textual.unencodable?_ofString]
  | false =>
      refine iff_of_true ?_ (ScriptClass.unencodable?_base hbase)
      simp [classLine, hbase, Textual.unencodable?_append_iff, Textual.unencodable?_ofString]

/-- **A header can be encoded** exactly if the texts of its class can. -/
theorem unencodable?_text_iff {c : ScriptClass τ} {slots : SlotMap} {header : Buffer τ}
    (h : generate c slots = .ok header) :
    Textual.unencodable? header.text = none ↔ c.Encodable := by
  obtain ⟨storage, accessors, kernels, functions, -, -, -, -, rfl⟩ := generate_eq_ok_iff.1 h
  rw [Buffer.unencodable?_text_iff]
  have hlines : (∀ line ∈ lines c storage accessors kernels functions,
      Textual.unencodable? line = none) ↔
        Textual.unencodable? c.source = none ∧ Textual.unencodable? c.base = none := by
    simp only [lines, opening, List.forall_mem_append, List.forall_mem_cons, List.forall_mem_map,
      List.not_mem_nil, false_imp_iff, Textual.forall_mem_ofStrings_iff,
      ScriptClass.forall_mem_notice_iff, unencodable?_classLine_iff,
      Buffer.unencodable?_atLevel_iff, Textual.unencodable?_ofString, implies_true, and_true]
  exact hlines.trans c.encodable_iff.symm

end Header

namespace Implementation

/-- The constructor shows the base class. -/
theorem forall_mem_constructorLines_iff {c : ScriptClass τ} {size : Nat} :
    (∀ line ∈ constructorLines c size, Textual.unencodable? line = none) ↔
      Textual.unencodable? c.base = none := by
  cases hbase : c.hasBase with
  | true => simp [constructorLines, hbase, Textual.unencodable?_append_iff,
      Textual.unencodable?_ofString]
  | false =>
      refine iff_of_true ?_ (ScriptClass.unencodable?_base hbase)
      simp [constructorLines, hbase, Textual.unencodable?_append_iff, Textual.unencodable?_ofString]

/-- **An implementation can be encoded** exactly if the texts of its class can. -/
theorem unencodable?_text_iff {c : ScriptClass τ} {slots : SlotMap} {bytes : List UInt8}
    {implementation : Buffer τ} (h : generate c slots bytes = .ok implementation) :
    Textual.unencodable? implementation.text = none ↔ c.Encodable := by
  obtain ⟨kernels, functions, -, -, rfl⟩ := generate_eq_ok_iff.1 h
  have hblocks : ∀ line ∈ (kernels ++ functions).flatMap Block.lines,
      Textual.unencodable? (line : τ) = none := by
    rw [flatMap_lines_eq_ofStrings, Textual.forall_mem_ofStrings_iff]
    exact fun line _ => Textual.unencodable?_ofString line
  have hopening : (∀ line ∈ opening c bytes, Textual.unencodable? line = none) ↔
      Textual.unencodable? c.source = none ∧ Textual.unencodable? c.base = none := by
    simp only [opening, List.forall_mem_append, List.forall_mem_cons, List.forall_mem_map,
      List.not_mem_nil, false_imp_iff, Textual.forall_mem_ofStrings_iff,
      ScriptClass.forall_mem_notice_iff, forall_mem_constructorLines_iff,
      Buffer.unencodable?_atLevel_iff, Textual.unencodable?_append_iff,
      Textual.unencodable?_ofString, implies_true, and_true]
  rw [Buffer.unencodable?_text_iff, lines, List.forall_mem_append, and_iff_left hblocks, hopening]
  exact c.encodable_iff.symm

end Implementation

end ScriptBindings
