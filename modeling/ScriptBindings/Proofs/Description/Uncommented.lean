import ScriptBindings.Proofs.Description.Passes

/-!
# What is left without comments

Taking a comment out joins the text before it to the text behind it.  Nothing that looks like a
comment comes of that: one removal leaves nothing for a second one.

* `Uncommented` — a text in which no comment is left; `remove_eq_self_iff` says that these are the
  texts that stay as they are.
* `not_slashes_dropLinesFrom` — the first pass leaves no two slashes in a row.
* `uncommented_remove` — both passes leave no comment.

### What is load-bearing

A block comment begins and ends with a slash.  Once no two slashes stand in a row, neither the
character before the comment nor the one behind it is a slash, so the two make no mark where they
meet (`head?_dropBlocksFrom`).
-/

namespace ScriptBindings.Comments

/-- **A text without comments**, as a reader would look for them. -/
structure Uncommented (cs : List Char) : Prop where
  /-- There is no line comment. -/
  line : ¬ Slashes cs
  /-- There is no block comment: behind no opening mark, a closing mark follows. -/
  block : ∀ rest, '/' :: '*' :: rest <:+ cs → ¬ ['*', '/'] <:+: rest

/-! ## What the first pass leaves -/

/-- **The first pass leaves no two slashes in a row.** -/
theorem not_slashes_dropLinesFrom (inside : Bool) (cs : List Char) :
    ¬ Slashes (dropLinesFrom inside cs) := by
  fun_induction dropLinesFrom inside cs with
  | case1 inside => simp [Slashes]
  | case2 inside cs ih => simpa [slashes_cons_iff] using ih
  | case3 inside cs ih => exact ih
  | case4 c cs hnewline hslashes ih => exact ih
  | case5 inside c cs hnewline hslashes houtside ih =>
      rw [slashes_cons_iff, not_or]
      refine ⟨?_, ih⟩
      -- a slash that is kept is followed by what follows it in the text, or by a newline
      rintro ⟨hc, hhead⟩
      rcases head?_dropLinesFrom hhead with heq | ⟨-, hcs⟩
      · cases heq
      · exact not_begins_iff.1 hslashes ⟨hc, hcs⟩

/-! ## What the second pass leaves -/

/-- A text that does not begin with a slash keeps its first character. -/
theorem head?_dropBlocksFrom {cs : List Char} (h : cs.head? ≠ some '/') :
    (dropBlocksFrom false cs).head? = cs.head? := by
  cases cs with
  | nil => rfl
  | cons c cs =>
      rw [dropBlocksFrom_false_cons fun hc => h (congrArg some hc.1)]
      rfl

theorem Slashes.cons {cs : List Char} (h : Slashes cs) (c : Char) : Slashes (c :: cs) :=
  slashes_cons_iff.2 (.inr h)

/-- **The second pass makes no line comment.** -/
theorem not_slashes_dropBlocksFrom {inside : Bool} {cs : List Char} (h : ¬ Slashes cs) :
    ¬ Slashes (dropBlocksFrom inside cs) := by
  fun_induction dropBlocksFrom inside cs with
  | case1 inside => exact h
  | case2 cs ih => exact ih fun hcs => h ((hcs.cons _).cons _)
  | case3 c cs hclose ih => exact ih fun hcs => h (hcs.cons c)
  | case4 cs hcloses ih => exact ih fun hcs => h ((hcs.cons _).cons _)
  | case5 cs hcloses ih =>
      simpa [slashes_cons_iff] using ih fun hcs => h ((hcs.cons _).cons _)
  | case6 c cs hopen ih =>
      rw [slashes_cons_iff, not_or] at h ⊢
      refine ⟨?_, ih h.2⟩
      rintro ⟨hc, hhead⟩
      have hcs : cs.head? ≠ some '/' := fun hcs => h.1 ⟨hc, hcs⟩
      rw [head?_dropBlocksFrom hcs] at hhead
      exact hcs hhead

/-- **The second pass leaves no block comment**, and makes none. -/
theorem not_closes_of_suffix_dropBlocksFrom {inside : Bool} {cs rest : List Char}
    (h : ¬ Slashes cs) (hrest : '/' :: '*' :: rest <:+ dropBlocksFrom inside cs) :
    ¬ ['*', '/'] <:+: rest := by
  fun_induction dropBlocksFrom inside cs with
  | case1 inside => simp at hrest
  | case2 cs ih => exact ih (fun hcs => h ((hcs.cons _).cons _)) hrest
  | case3 c cs hclose ih => exact ih (fun hcs => h (hcs.cons c)) hrest
  | case4 cs hcloses ih => exact ih (fun hcs => h ((hcs.cons _).cons _)) hrest
  | case5 cs hcloses ih =>
      rw [closes_iff] at hcloses
      rcases List.suffix_cons_iff.1 hrest with heq | hrest
      · -- no closing mark is left behind this opening mark, so nothing behind it was taken out
        have hself : dropBlocksFrom false cs = cs := dropBlocksFrom_eq_self fun tail htail hclose =>
          hcloses ((hclose.trans (List.suffix_append ['/', '*'] tail).isInfix).trans htail.isInfix)
        rw [hself] at heq
        obtain rfl : rest = cs := (List.cons.inj (List.cons.inj heq).2).2
        exact hcloses
      · rcases List.suffix_cons_iff.1 hrest with heq | hrest
        · simp at heq
        · exact ih (fun hcs => h ((hcs.cons _).cons _)) hrest
  | case6 c cs hopen ih =>
      rw [slashes_cons_iff, not_or] at h
      rcases List.suffix_cons_iff.1 hrest with heq | hrest
      · obtain ⟨rfl, htail⟩ := List.cons.inj heq
        have hcs : cs.head? ≠ some '/' := fun hcs => h.1 ⟨rfl, hcs⟩
        have hstar : cs.head? = some '*' := by
          rw [← head?_dropBlocksFrom hcs, ← htail]
          rfl
        exact absurd ⟨rfl, hstar⟩ (not_begins_iff.1 hopen)
      · exact ih h.2 hrest

/-! ## Both passes -/

/-- **What is left of a text** has no comment in it. -/
theorem uncommented_remove (cs : List Char) : Uncommented (remove cs) where
  line := not_slashes_dropBlocksFrom (not_slashes_dropLinesFrom false cs)
  block _ hrest := not_closes_of_suffix_dropBlocksFrom (not_slashes_dropLinesFrom false cs) hrest

/-- **The texts that stay as they are** are those without comments. -/
theorem remove_eq_self_iff {cs : List Char} : remove cs = cs ↔ Uncommented cs := by
  constructor
  · intro h
    rw [← h]
    exact uncommented_remove cs
  · intro h
    rw [remove, dropLines, dropLinesFrom_eq_self h.line, dropBlocks, dropBlocksFrom_eq_self h.block]

/-- **Removing comments settles at once**: no comment is left, so a second removal changes nothing,
and only a text without comments stays as it is. -/
theorem remove_settles (cs : List Char) :
    Uncommented (remove cs) ∧ remove (remove cs) = remove cs ∧ (remove cs = cs ↔ Uncommented cs) :=
  ⟨uncommented_remove cs, remove_eq_self_iff.2 (uncommented_remove cs), remove_eq_self_iff⟩

/-- A block comment between two stars, one that a slash begins, and an opening mark without end. -/
example : remove "1 */**/* 2 /*/ x */ 3 /* 4".toList = "1 ** 2  3 /* 4".toList := by decide

end ScriptBindings.Comments
