import ScriptBindings.Proofs.Code.Embedding

/-!
# Embedding in lines of any width

Bytes are embedded row by row, and the width of a row is chosen for the reader of the file only.
Whatever it is, as long as a row has room for a byte and can be held, the entries are the same and
in the same order; the width decides where the lines break and nothing else.

* `Roomy` — the widths that have room for bytes.
* `Ruled` — lines that are full but for the last one.
* `Embeds` — what an embedding tells about its bytes, and `exists_embeds` every embedding with room.
* `not_exists_embeds_immense` — a width can be too large for the machine.
-/

namespace ScriptBindings.Blob

/-- **A width with room for bytes**: a positive number of them that can be held, or minus one for
all there are. -/
def Roomy (width : Int) : Prop :=
  (0 < width ∧ width ≤ widest) ∨ width = -1

instance (width : Int) : Decidable (Roomy width) :=
  inferInstanceAs (Decidable (_ ∨ _))

/-- The number of entries on a line, if there is nothing else on it. -/
def entryCount? (line : String) : Option Nat :=
  (readEntries? line.toList).map List.length

/-- **Lines of a width**: each but the last is full, and the last one is neither empty nor longer
than the others. -/
structure Ruled (width : Nat) (lines : List String) : Prop where
  full : ∀ line ∈ lines.dropLast, entryCount? line = some width
  last : ∀ line ∈ lines.getLast?, ∃ n, entryCount? line = some n ∧ 1 ≤ n ∧ n ≤ width

/-- **An embedding of bytes** in lines of a width. -/
structure Embeds (bytes : List UInt8) (width : Int) (blob : Blob) : Prop where
  size : blob.size = bytes.length
  /-- The lines, one after the other, spell the bytes in order. -/
  spelled : readEntries? (String.join blob.lines).toList = some bytes
  /-- They make up the same text as in lines of any other width. -/
  sameText : ∀ width' blob', Roomy width' → embed width' bytes = .ok blob' →
    String.join blob'.lines = String.join blob.lines
  ruled : ∀ n : Nat, width = n → Ruled n blob.lines
  nonempty : ∀ line ∈ blob.lines, line ≠ ""
  empty : bytes = [] → blob.lines = []

/-! ## Rows -/

/-- Every row holds a byte. -/
theorem ne_nil_of_mem_rows {extra : Nat} {bytes row : List UInt8} (h : row ∈ rows extra bytes) :
    row ≠ [] := by
  fun_induction rows extra bytes with
  | case1 => cases h
  | case2 byte bytes ih =>
      rcases List.mem_cons.1 h with rfl | h
      · exact List.cons_ne_nil _ _
      · exact ih h

/-- No row holds more bytes than there is room for. -/
theorem length_le_of_mem_rows {extra : Nat} {bytes row : List UInt8} (h : row ∈ rows extra bytes) :
    row.length ≤ extra + 1 := by
  fun_induction rows extra bytes with
  | case1 => cases h
  | case2 byte bytes ih =>
      rcases List.mem_cons.1 h with rfl | h
      · rw [List.length_cons, List.length_take]
        omega
      · exact ih h

/-- **Every row but the last is full**: a row is only left for the next one when it is. -/
theorem length_of_mem_dropLast_rows {extra : Nat} {bytes row : List UInt8}
    (h : row ∈ (rows extra bytes).dropLast) : row.length = extra + 1 := by
  fun_induction rows extra bytes with
  | case1 => cases h
  | case2 byte bytes ih =>
      by_cases hrest : bytes.drop extra = []
      · rw [hrest, rows] at h
        cases h
      · have hrows : rows extra (bytes.drop extra) ≠ [] := by
          intro hnil
          have hflatten := flatten_rows extra (bytes.drop extra)
          rw [hnil] at hflatten
          exact hrest hflatten.symm
        rw [List.dropLast_cons_of_ne_nil hrows] at h
        rcases List.mem_cons.1 h with rfl | h
        · have hlength : extra < bytes.length := by simpa using hrest
          rw [List.length_cons, List.length_take]
          omega
        · exact ih h

/-- A width with room is accepted. -/
theorem Roomy.split {width : Int} (h : Roomy width) (bytes : List UInt8) :
    split width bytes = .ok (cut width bytes) := by
  rcases h with ⟨hpos, hle⟩ | rfl
  · exact split_of_le (by omega) hle bytes
  · exact split_of_le (by decide) (by decide) bytes

/-- **Bytes come back from the rows of any width with room**, and no row is empty. -/
theorem exists_split {width : Int} (h : Roomy width) (bytes : List UInt8) :
    ∃ rows, split width bytes = .ok rows ∧ rows.flatten = bytes ∧ ∀ row ∈ rows, row ≠ [] := by
  refine ⟨cut width bytes, h.split bytes, ?_⟩
  match width, h with
  | .ofNat (extra + 1), _ => exact ⟨flatten_rows extra bytes, fun _ => ne_nil_of_mem_rows⟩
  | .negSucc _, _ =>
      cases bytes with
      | nil => exact ⟨rfl, nofun⟩
      | cons byte bytes => exact ⟨by simp [cut], by simp [cut]⟩

/-! ## Lines -/

/-- **A line has the entries of its row.** -/
theorem entryCount?_rowLine (row : List UInt8) : entryCount? (rowLine row) = some row.length := by
  rw [entryCount?, toList_rowLine, readEntries?_flatMap, Option.map_some]

theorem rowLine_ne_empty {row : List UInt8} (h : row ≠ []) : rowLine row ≠ "" := by
  intro hempty
  have hcount := entryCount?_rowLine row
  rw [hempty] at hcount
  exact h (List.length_eq_zero_iff.1 (Option.some.inj hcount).symm)

/-- **The lines of rows make up one text**, in which nothing tells where a row ends. -/
theorem join_rowLine (rows : List (List UInt8)) :
    String.join (rows.map rowLine) = rowLine rows.flatten := by
  rw [← String.toList_inj, toList_rowLine, String.toList_join, List.flatMap_map]
  simp only [toList_rowLine, ← List.flatMap_id, List.flatMap_assoc, id_eq]

theorem ruled_rowLine {extra : Nat} (bytes : List UInt8) :
    Ruled (extra + 1) ((rows extra bytes).map rowLine) := by
  refine ⟨?_, ?_⟩
  · intro line hline
    rw [← List.map_dropLast] at hline
    obtain ⟨row, hrow, rfl⟩ := List.mem_map.1 hline
    rw [entryCount?_rowLine, length_of_mem_dropLast_rows hrow]
  · intro line hline
    rw [List.getLast?_map] at hline
    obtain ⟨row, hrow, rfl⟩ := Option.map_eq_some_iff.1 hline
    have hmem := List.mem_of_mem_getLast? hrow
    exact ⟨row.length, entryCount?_rowLine row, List.length_pos_iff.2 (ne_nil_of_mem_rows hmem),
      length_le_of_mem_rows hmem⟩

theorem embed_eq_ok_iff {width : Int} {bytes : List UInt8} {blob : Blob} :
    embed width bytes = .ok blob ↔
      ∃ rows, split width bytes = .ok rows ∧ blob = ⟨rows.flatten.length, rows.map rowLine⟩ := by
  rw [embed, Traversal.bind_eq_ok_iff]
  refine exists_congr fun rows => and_congr_right fun _ => ?_
  rw [Traversal.pure_eq_ok, Except.ok.injEq, eq_comm]
  rfl

/-- **Embedding loses nothing**, and the width of the lines decides only where they break. -/
theorem exists_embeds (bytes : List UInt8) {width : Int} (h : Roomy width) :
    ∃ blob, embed width bytes = .ok blob ∧ Embeds bytes width blob := by
  obtain ⟨rows, hsplit, hflatten, hne⟩ := exists_split h bytes
  refine ⟨_, embed_eq_ok_iff.2 ⟨rows, hsplit, rfl⟩, ?_, ?_, ?_, ?_, ?_, ?_⟩
  · rw [hflatten]
  · rw [join_rowLine, hflatten, toList_rowLine, readEntries?_flatMap]
  · intro width' blob' h' hembed
    obtain ⟨rows', hsplit', hflatten', -⟩ := exists_split h' bytes
    obtain ⟨_, heq, rfl⟩ := embed_eq_ok_iff.1 hembed
    obtain rfl := Except.ok.inj (hsplit'.symm.trans heq)
    rw [join_rowLine, join_rowLine, hflatten, hflatten']
  · rintro n rfl
    cases n with
    | zero => exact absurd h (by decide)
    | succ extra =>
        rw [h.split] at hsplit
        obtain rfl := Except.ok.inj hsplit
        exact ruled_rowLine bytes
  · intro line hline
    obtain ⟨row, hrow, rfl⟩ := List.mem_map.1 hline
    exact rowLine_ne_empty (hne row hrow)
  · intro hnil
    have hrows : rows = [] := by
      cases rows with
      | nil => rfl
      | cons row rows =>
          rw [hnil] at hflatten
          exact absurd (List.append_eq_nil_iff.1 hflatten).1 (hne row (by simp))
    rw [hrows, List.map_nil]

/-- Three bytes in lines of two. -/
theorem exists_embeds_three :
    Roomy 2 ∧ ∃ blob, embed 2 [0, 10, 255] = .ok blob ∧ Embeds [0, 10, 255] 2 blob :=
  ⟨by decide, exists_embeds [0, 10, 255] (by decide)⟩

/-- **Not every positive width has room**: one that is no number of the machine is refused. -/
theorem not_exists_embeds_immense :
    ¬ ∀ (bytes : List UInt8) (width : Int), 0 < width ∨ width = -1 →
      ∃ blob, embed width bytes = .ok blob ∧ Embeds bytes width blob := by
  intro h
  obtain ⟨blob, hembed, -⟩ := h [0] (2 ^ 63) (by decide)
  have hrefused : embed (2 ^ 63) [0] = .error .beyondWord := rfl
  rw [hrefused] at hembed
  cases hembed

end ScriptBindings.Blob
