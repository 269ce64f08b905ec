import ScriptBindings.Proofs.Traversal
import ScriptBindings.Types.Layout
import ScriptBindings.Types.Spelling

/-!
# Well-formed types

The types of the model may carry tags that no table has and lengths that make no sense, and every
question about them can fail.  The types that have a name are of four shapes, and for those, and the
records built from them, no question fails.

* `ScriptType.Plain` — the shapes of types with a name; `plain_of_ofName?` says that there are no
  others.
* `ScriptType.WellFormed` — records of such types, to any depth.
* `WellFormed.exists_alignment`, `WellFormed.exists_paddedSize`, `WellFormed.exists_render` — the
  questions that have an answer.

The alignment of a well-formed type is positive, which is why its layout never divides by zero.
-/

namespace ScriptBindings.ScriptType

open Traversal

/-- **The types with a name**: scalars, vectors of two to four numbers, square matrices of two to
four rows, and handles. -/
inductive Plain : ScriptType → Prop
  | scalar (s : Scalar) : Plain (scalar (.known s))
  | vector {s : Scalar} {length : Int} (numeric : s ≠ .bool)
      (short : length = 2 ∨ length = 3 ∨ length = 4) : Plain (vector (.known s) length)
  | matrix {rows : Int} (small : rows = 2 ∨ rows = 3 ∨ rows = 4) : Plain (matrix rows)
  | object (kind : ObjectKind) : Plain (object (.known kind))

/-- **Well-formed types**: the types with a name, and records of well-formed types. -/
inductive WellFormed : ScriptType → Prop
  | plain {type : ScriptType} (h : Plain type) : WellFormed type
  | record (name : String) {fields : List Field} (h : ∀ f ∈ fields, WellFormed f.type) :
      WellFormed (record name fields)

/-! ## Names give plain types -/

theorem ne_bool_of_mem_numeric {s : Scalar} (h : s ∈ Scalar.numeric) : s ≠ .bool := by
  rintro rfl
  revert h
  decide

theorem plain_of_mem_spellings {entry : String × ScriptType} (h : entry ∈ spellings) :
    Plain entry.2 := by
  rw [spellings, List.mem_append, List.mem_append] at h
  rcases h with (hscalar | hvector) | hmatrix
  · rcases List.mem_append.1 hscalar with hscalar | hscalar
    · obtain ⟨s, -, rfl⟩ := List.mem_map.1 hscalar
      exact .scalar s
    · obtain ⟨s, -, rfl⟩ := List.mem_map.1 hscalar
      exact .scalar s
  · obtain ⟨s, hs, hvector⟩ := List.mem_flatMap.1 hvector
    obtain ⟨length, hlength, rfl⟩ := List.mem_map.1 hvector
    refine .vector (ne_bool_of_mem_numeric hs) ?_
    simp only [List.mem_cons, List.not_mem_nil, or_false] at hlength
    omega
  · obtain ⟨rows, hrows, rfl⟩ := List.mem_map.1 hmatrix
    refine .matrix ?_
    simpa using hrows

/-- **A type with a name is plain.** -/
theorem plain_of_ofName? {name : String} {type : ScriptType} (h : ofName? name = some type) :
    Plain type := by
  rw [ofName?] at h
  split at h
  · rename_i hlookup
    obtain rfl := Option.some.inj h
    obtain ⟨before, after, heq, -⟩ := List.lookup_eq_some_iff.1 hlookup
    exact plain_of_mem_spellings (heq ▸ List.mem_append_right before List.mem_cons_self)
  · obtain ⟨kind, -, rfl⟩ := Option.map_eq_some_iff.1 h
    exact .object kind

/-! ## Every question has an answer -/

theorem alignUp_of_pos (offset : Int) {alignment : Int} (h : 0 < alignment) :
    alignUp offset alignment = .ok (Int.fdiv (offset + alignment - 1) alignment * alignment) := by
  rw [alignUp, if_neg (by omega)]

theorem Plain.exists_alignment {type : ScriptType} (h : Plain type) :
    ∃ a, type.alignment = .ok a ∧ 0 < a := by
  cases h with
  | scalar s => exact ⟨s.size, rfl, s.size_pos⟩
  | @vector s length numeric short =>
      refine ⟨s.size * (if length = 3 then 4 else length), by simp [alignment, vectorSize], ?_⟩
      have hsize := s.size_pos
      rcases short with rfl | rfl | rfl <;> simp <;> omega
  | matrix small => exact ⟨4, rfl, by decide⟩
  | object kind => exact ⟨4, rfl, by decide⟩

theorem Plain.exists_paddedSize {type : ScriptType} (h : Plain type) :
    ∃ size, type.paddedSize = .ok size := by
  cases h with
  | scalar s => exact ⟨s.size, rfl⟩
  | @vector s length numeric short =>
      exact ⟨s.size * (if length = 3 then 4 else length), by simp [paddedSize, vectorSize]⟩
  | @matrix rows small => exact ⟨Scalar.float.size * rows * rows, rfl⟩
  | object kind => exact ⟨handleSize, rfl⟩

theorem Plain.exists_render {type : ScriptType} (h : Plain type) :
    ∃ rendered, type.render = .ok rendered := by
  cases h with
  | scalar s => exact ⟨⟨s.cppName, s.size, s == .bool⟩, rfl⟩
  | @vector s length numeric short =>
      exact ⟨⟨s.spelling ++ toString length, s.size * (if length = 3 then 4 else length), false⟩,
        by simp [render, elementSpelling, vectorSize, numeric]⟩
  | @matrix rows small =>
      exact ⟨⟨matrixName rows, Scalar.float.size * rows * rows, false⟩, rfl⟩
  | object kind => exact ⟨⟨handleName kind.className, handleSize, false⟩, rfl⟩

/-- Fields with positive alignments have a list of positive alignments. -/
theorem exists_alignments {fields : List Field}
    (h : ∀ f ∈ fields, ∃ a, f.type.alignment = .ok a ∧ 0 < a) :
    ∃ as, alignments fields = .ok as ∧ ∀ a ∈ as, 0 < a := by
  induction fields with
  | nil => exact ⟨[], rfl, by simp⟩
  | cons f fields ih =>
      obtain ⟨a, ha, hpos⟩ := h f (by simp)
      obtain ⟨as, has, hall⟩ := ih fun g hg => h g (by simp [hg])
      obtain ⟨name, type⟩ := f
      refine ⟨a :: as, ?_, ?_⟩
      · rw [alignments, ha]
        simp [has]
      · simpa using ⟨hpos, hall⟩

/-- **The alignment of a well-formed type** is positive. -/
theorem WellFormed.exists_alignment {type : ScriptType} (h : WellFormed type) :
    ∃ a, type.alignment = .ok a ∧ 0 < a := by
  induction h with
  | plain h => exact h.exists_alignment
  | @record name fields _ ih =>
      obtain ⟨as, has, hall⟩ := exists_alignments ih
      refine ⟨as.max?.getD 1, by simp [alignment, has], ?_⟩
      cases hmax : as.max? with
      | none => simp
      | some a => exact hall a (List.max?_mem hmax)

/-- Fields whose types have an alignment and a size can be placed from every offset on. -/
theorem exists_place {fields : List Field}
    (halignment : ∀ f ∈ fields, ∃ a, f.type.alignment = .ok a ∧ 0 < a)
    (hsize : ∀ f ∈ fields, ∃ size, f.type.paddedSize = .ok size) (offset : Int) :
    ∃ placed, place offset fields = .ok placed := by
  induction fields generalizing offset with
  | nil => exact ⟨([], offset), rfl⟩
  | cons f fields ih =>
      obtain ⟨a, ha, hpos⟩ := halignment f (by simp)
      obtain ⟨size, hs⟩ := hsize f (by simp)
      -- The next field begins from the end of this one on.
      obtain ⟨⟨starts, stop⟩, hplaced⟩ := ih (fun g hg => halignment g (by simp [hg]))
        (fun g hg => hsize g (by simp [hg]))
        (Int.fdiv (offset + a - 1) a * a + size)
      obtain ⟨name, type⟩ := f
      refine ⟨(Int.fdiv (offset + a - 1) a * a :: starts, stop), ?_⟩
      rw [place, ha, ok_bind, alignUp_of_pos offset hpos, ok_bind, hs, ok_bind, hplaced]
      rfl

/-- **The size of a well-formed type** exists. -/
theorem WellFormed.exists_paddedSize {type : ScriptType} (h : WellFormed type) :
    ∃ size, type.paddedSize = .ok size := by
  induction h with
  | plain h => exact h.exists_paddedSize
  | @record name fields hfields ih =>
      obtain ⟨a, ha, hpos⟩ := (WellFormed.record name hfields).exists_alignment
      obtain ⟨⟨starts, stop⟩, hplaced⟩ :=
        exists_place (fun f hf => (hfields f hf).exists_alignment) ih 0
      refine ⟨Int.fdiv (stop + a - 1) a * a, ?_⟩
      rw [paddedSize, hplaced, ok_bind, ha]
      exact alignUp_of_pos stop hpos

/-- **The name of a plain type** in the generated code exists. -/
theorem Plain.exists_cppName {type : ScriptType} (h : Plain type) :
    ∃ name, type.cppName = .ok name := by
  obtain ⟨rendered, hrendered⟩ := h.exists_render
  exact ⟨rendered.name, by simp [cppName, hrendered]⟩

end ScriptBindings.ScriptType
