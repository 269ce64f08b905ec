import Mathlib.Data.List.Basic
import ScriptBindings.Proofs.Description.Passes

/-!
# Comments in one scan

In C one scan from left to right takes comments out: whichever mark comes first decides, and what
stands inside a comment is not looked at again.  Here line comments are taken out first and block
comments out of what is left, so that a `//` inside a block comment counts too.  This file says
exactly what that changes.

* `Piece`, `scanWith` — a text taken apart into plain characters and comments.
* `scan` — the scan of C: a block comment ends at the first closing mark.
* `passes` — the same scan with another end of a block comment: the first closing mark that no `//`
  hides on its line.
* `Hides` — a block comment whose closing mark is hidden; `Exposed` — pieces without one.

`remove_eq_kept_passes` says that the two passes are the scan `passes`, for every text, and
`passes_eq_scan_iff` that this is the scan of C for exactly the texts whose pieces are exposed.

### What is load-bearing

Two scans can keep the same text by accident, when what one of them keeps too much looks like what
it keeps too little.  The comparison is therefore one of pieces: where every comment begins and
ends.
-/

namespace ScriptBindings.Comments

/-! ## Taking a text apart -/

/-- **A piece of a description**: a plain character, a line comment without the newline after it,
or a block comment; the opening mark of a comment is not part of its text. -/
inductive Piece where
  | plain (c : Char)
  | line (text : List Char)
  | block (text : List Char)
deriving DecidableEq, Repr

namespace Piece

/-- The characters that a piece was read from. -/
def source : Piece → List Char
  | plain c => [c]
  | line text => '/' :: '/' :: text
  | block text => '/' :: '*' :: text

/-- The characters that are left of a piece. -/
def kept : Piece → List Char
  | plain c => [c]
  | line _ | block _ => []

end Piece

/-- **A scan from left to right.**  `close?` measures the text of a block comment behind its opening
mark, the closing mark included.  The opening mark of a comment that has no end is plain. -/
def scanWith (close? : List Char → Option Nat) : List Char → List Piece
  | [] => []
  | '/' :: '/' :: cs =>
      .line (cs.takeWhile (· != '\n')) :: scanWith close? (cs.dropWhile (· != '\n'))
  | '/' :: '*' :: cs =>
      match close? cs with
      | some n => .block (cs.take n) :: scanWith close? (cs.drop n)
      | none => .plain '/' :: scanWith close? ('*' :: cs)
  | c :: cs => .plain c :: scanWith close? cs
termination_by cs => cs.length
decreasing_by
  · have hle := (List.dropWhile_suffix (· != '\n') (l := cs)).length_le
    simp only [List.length_cons]
    omega
  · simp only [List.length_drop, List.length_cons]
    omega
  · simp
  · simp

/-- **No character is lost**: the pieces make up the text. -/
theorem flatMap_source_scanWith (close? : List Char → Option Nat) (cs : List Char) :
    (scanWith close? cs).flatMap Piece.source = cs := by
  fun_induction scanWith close? cs with
  | case1 => rfl
  | case2 cs ih => simp [Piece.source, ih]
  | case3 cs n h ih => simp [Piece.source, ih]
  | case4 cs h ih => simp [Piece.source, ih]
  | case5 c cs h₁ h₂ ih => simp [Piece.source, ih]

/-! ## The two ends of a block comment -/

/-- **The first closing mark**: the length of a text up to its end. -/
def close? : List Char → Option Nat
  | [] => none
  | '*' :: '/' :: _ => some 2
  | _ :: cs => (close? cs).map (· + 1)

/-- **The first closing mark in sight**, which no `//` hides on its line.  `hidden` says whether the
text begins behind a `//`; that of `*//` begins within the mark and hides it. -/
def closeInSight? (hidden : Bool) : List Char → Option Nat
  | [] => none
  | '\n' :: cs => (closeInSight? false cs).map (· + 1)
  | '/' :: '/' :: cs => (closeInSight? true cs).map (· + 2)
  | '*' :: '/' :: cs =>
      if hidden ∨ cs.head? = some '/' then (closeInSight? true cs).map (· + 2) else some 2
  | _ :: cs => (closeInSight? hidden cs).map (· + 1)

/-- **The scan of C.** -/
def scan : List Char → List Piece :=
  scanWith close?

/-- **The scan that two passes amount to.** -/
def passes : List Char → List Piece :=
  scanWith (closeInSight? false)

/-! ## Both passes in one scan -/

/-- **The end of a block comment**, as the second pass finds it in what the first one leaves. -/
theorem afterBlock?_dropLinesFrom (hidden : Bool) (cs : List Char) :
    afterBlock? (dropLinesFrom hidden cs) =
      (closeInSight? hidden cs).map fun n =>
        dropBlocksFrom false (dropLinesFrom false (cs.drop n)) := by
  fun_induction closeInSight? hidden cs with
  | case1 => rfl
  | case2 hidden cs ih =>
      rw [dropLinesFrom, afterBlock?_cons (by simp), ih, Option.map_map]
      rfl
  | case3 hidden cs ih =>
      rw [dropLinesFrom, ih, Option.map_map]
      rfl
  | case4 hidden cs hhidden ih =>
      have hrest : afterBlock? (dropLinesFrom hidden ('*' :: '/' :: cs)) =
          afterBlock? (dropLinesFrom true cs) := by
        cases hidden with
        | true => rw [dropLinesFrom_true_cons (by decide), dropLinesFrom_true_cons (by decide)]
        | false =>
            -- the first pass keeps the star of `*//` only, and what it keeps next is no slash
            obtain ⟨cs, rfl⟩ := List.head?_eq_some_iff.1 (hhidden.resolve_left Bool.false_ne_true)
            rw [dropLinesFrom_false_cons (by simp), dropLinesFrom,
              dropLinesFrom_true_cons (by decide), afterBlock?_cons]
            rintro ⟨-, hhead⟩
            exact absurd (head?_dropLinesFrom hhead) (by simp)
      rw [hrest, ih, Option.map_map]
      rfl
  | case5 hidden cs hhidden =>
      obtain ⟨hfalse, hhead⟩ := not_or.1 hhidden
      rw [Bool.not_eq_true] at hfalse
      subst hfalse
      rw [dropLinesFrom_false_cons (by simp), dropLinesFrom_false_cons (by simpa using hhead),
        afterBlock?_close]
      rfl
  | case6 hidden c cs h₁ h₂ h₃ ih =>
      have hslash := not_begins_iff.1 h₂
      have hstar := not_begins_iff.1 h₃
      have hrest : afterBlock? (dropLinesFrom hidden (c :: cs)) =
          afterBlock? (dropLinesFrom hidden cs) := by
        cases hidden with
        | true => rw [dropLinesFrom_true_cons h₁]
        | false =>
            rw [dropLinesFrom_false_cons hslash, afterBlock?_cons]
            rintro ⟨hc, hhead⟩
            exact hstar ⟨hc, ((head?_dropLinesFrom hhead).resolve_left (by decide)).2⟩
      rw [hrest, ih, Option.map_map]
      rfl

/-- **Two passes are one scan**: it ends a block comment at the first closing mark in sight. -/
theorem remove_eq_kept_passes (cs : List Char) :
    remove cs = (passes cs).flatMap Piece.kept := by
  unfold remove dropBlocks dropLines passes
  fun_induction scanWith (closeInSight? false) cs with
  | case1 => rfl
  | case2 cs ih =>
      rw [dropLinesFrom, dropLinesFrom_true, ih]
      rfl
  | case3 cs n hclose ih =>
      rw [dropLinesFrom_false_cons (by simp), dropLinesFrom_false_cons (by simp),
        dropBlocksFrom_open, afterBlock?_dropLinesFrom, hclose, Option.map_some, Option.getD_some, ih]
      rfl
  | case4 cs hclose ih =>
      rw [dropLinesFrom_false_cons (by simp), dropBlocksFrom_false_cons (by simp)] at ih
      rw [dropLinesFrom_false_cons (by simp), dropLinesFrom_false_cons (by simp),
        dropBlocksFrom_open, afterBlock?_dropLinesFrom, hclose, Option.map_none, Option.getD_none, ih]
      rfl
  | case5 c cs h₁ h₂ ih =>
      have hslash := not_begins_iff.1 h₁
      have hstar : ¬ (c = '/' ∧ (dropLinesFrom false cs).head? = some '*') := by
        rintro ⟨hc, hhead⟩
        have hhead := ((head?_dropLinesFrom hhead).resolve_left (by decide)).2
        exact not_begins_iff.1 h₂ ⟨hc, hhead⟩
      rw [dropLinesFrom_false_cons hslash, dropBlocksFrom_false_cons hstar, ih]
      rfl

/-! ## Hidden closing marks -/

/-- **A hidden closing mark**: a `//` stands before it on its line, within the text of the comment,
or begins with its slash. -/
def Hides (text after : List Char) : Prop :=
  (∃ u v, text = u ++ '/' :: '/' :: v ∧ '\n' ∉ v) ∨ after.head? = some '/'

/-- **Pieces without a hidden closing mark.** -/
def Exposed : List Piece → Prop
  | [] => True
  | .block text :: ps => ¬ Hides text (ps.flatMap Piece.source) ∧ Exposed ps
  | _ :: ps => Exposed ps

theorem hides_cons_iff (c : Char) (text after : List Char) :
    Hides (c :: text) after ↔
      (c = '/' ∧ ∃ v, text = '/' :: v ∧ '\n' ∉ v) ∨ Hides text after := by
  constructor
  · rintro (⟨u, v, htext, hv⟩ | hafter)
    · cases u with
      | nil =>
          obtain ⟨rfl, rfl⟩ := List.cons.inj htext
          exact .inl ⟨rfl, v, rfl, hv⟩
      | cons d u => exact .inr (.inl ⟨u, v, (List.cons.inj htext).2, hv⟩)
    · exact .inr (.inr hafter)
  · rintro (⟨rfl, v, rfl, hv⟩ | ⟨u, v, rfl, hv⟩ | hafter)
    · exact .inl ⟨[], v, rfl, hv⟩
    · exact .inl ⟨c :: u, v, rfl, hv⟩
    · exact .inr hafter

/-- A `//` hides the mark unless a newline follows; a third slash behind it changes nothing. -/
theorem hides_slashes_iff (text after : List Char) :
    Hides ('/' :: '/' :: text) after ↔ '\n' ∉ text ∨ Hides text after := by
  have hthird : (∃ v, text = '/' :: v ∧ '\n' ∉ v) → '\n' ∉ text := by
    rintro ⟨v, rfl, hv⟩
    simpa using hv
  simp only [hides_cons_iff, true_and, List.cons.injEq, exists_eq_left']
  rw [← or_assoc, or_iff_left_of_imp hthird]

theorem hides_close_iff (after : List Char) :
    Hides ['*', '/'] after ↔ after.head? = some '/' := by
  rw [hides_cons_iff, hides_cons_iff]
  simp [Hides]

/-- A closing mark lies within the text. -/
theorem close?_le {cs : List Char} {n : Nat} (h : close? cs = some n) : n ≤ cs.length := by
  fun_induction close? cs generalizing n with
  | case1 => simp at h
  | case2 cs => simp at h; simp; omega
  | case3 c cs hc ih =>
      obtain ⟨m, hm, rfl⟩ := Option.map_eq_some_iff.1 h
      simpa using ih hm

/-- A closing mark in sight lies within the text. -/
theorem closeInSight?_bounds {hidden : Bool} {cs : List Char} {n : Nat}
    (h : closeInSight? hidden cs = some n) : 2 ≤ n ∧ n ≤ cs.length := by
  fun_induction closeInSight? hidden cs generalizing n with
  | case1 => simp at h
  | case5 hidden cs hhidden => simp at h; simp; omega
  | case2 hidden cs ih | case3 hidden cs ih | case4 hidden cs hhidden ih
  | case6 hidden c cs h₁ h₂ h₃ ih =>
      obtain ⟨m, hm, rfl⟩ := Option.map_eq_some_iff.1 h
      have := ih hm
      simp only [List.length_cons]
      omega

/-- A text without a closing mark has none in sight. -/
theorem closeInSight?_eq_none {hidden : Bool} {cs : List Char} (h : close? cs = none) :
    closeInSight? hidden cs = none := by
  fun_induction closeInSight? hidden cs with
  | case1 => rfl
  | case2 hidden cs ih => simp_all [close?]
  | case3 hidden cs ih => simp_all [close?]
  | case4 hidden cs hhidden ih => simp [close?] at h
  | case5 hidden cs hhidden => simp [close?] at h
  | case6 hidden c cs h₁ h₂ h₃ ih => simp_all [close?]

/-- **When the first closing mark is in sight**: no `//` before it hides it, neither one before the
text nor one of the text. -/
theorem closeInSight?_eq_some_iff {hidden : Bool} {cs : List Char} {n : Nat}
    (h : close? cs = some n) :
    closeInSight? hidden cs = some n ↔
      ¬ (hidden ∧ '\n' ∉ cs.take n) ∧ ¬ Hides (cs.take n) (cs.drop n) := by
  fun_induction closeInSight? hidden cs generalizing n with
  | case1 => simp [close?] at h
  | case2 hidden cs ih =>
      obtain ⟨m, hm, rfl⟩ := Option.map_eq_some_iff.1 h
      simp [hides_cons_iff, ih hm]
  | case3 hidden cs ih =>
      rw [close?.eq_3 _ _ (by simp), close?.eq_3 _ _ (by simp), Option.map_map] at h
      obtain ⟨m, hm, rfl⟩ := Option.map_eq_some_iff.1 h
      simp only [Option.map_eq_some_iff, Function.comp_apply, List.take_succ_cons,
        List.drop_succ_cons, hides_slashes_iff, List.mem_cons]
      simp [ih hm]
      tauto
  | case4 hidden cs hhidden ih =>
      obtain rfl : n = 2 := (Option.some.inj h).symm
      have hne : (closeInSight? true cs).map (· + 2) ≠ some 2 := by
        intro heq
        obtain ⟨m, hm, hm2⟩ := Option.map_eq_some_iff.1 heq
        have := closeInSight?_bounds hm
        omega
      simp only [hne, false_iff, List.take_succ_cons, List.take_zero, List.drop_succ_cons,
        List.drop_zero, hides_close_iff]
      rintro ⟨hhidden', hhead⟩
      exact hhidden.elim (fun htrue => hhidden' ⟨htrue, by simp⟩) hhead
  | case5 hidden cs hhidden =>
      obtain rfl : n = 2 := (Option.some.inj h).symm
      obtain ⟨hfalse, hhead⟩ := not_or.1 hhidden
      simp [hides_close_iff, hfalse, hhead]
  | case6 hidden c cs h₁ h₂ h₃ ih =>
      rw [close?.eq_3 _ _ h₃] at h
      obtain ⟨m, hm, rfl⟩ := Option.map_eq_some_iff.1 h
      have hslash : ¬ (c = '/' ∧ ∃ v, cs.take m = '/' :: v ∧ '\n' ∉ v) := by
        rintro ⟨hc, v, hv, -⟩
        cases m with
        | zero => simp at hv
        | succ m =>
            cases cs with
            | nil => simp at hv
            | cons d cs => exact h₂ cs hc (by rw [(List.cons.inj hv).1])
      have hc : '\n' ≠ c := fun hc => h₁ hc.symm
      simp [hides_cons_iff, hslash, hc, ih hm]

/-! ## When the two passes are the scan of C -/

/-- **The two passes find the comments of C** exactly if no closing mark is hidden. -/
theorem passes_eq_scan_iff (cs : List Char) : passes cs = scan cs ↔ Exposed (scan cs) := by
  unfold passes scan
  fun_induction scanWith close? cs with
  | case1 => simp [scanWith, Exposed]
  | case2 cs ih => simp [scanWith, Exposed, ih]
  | case3 cs n hclose ih =>
      have hsight : closeInSight? false cs = some n ↔ ¬ Hides (cs.take n) (cs.drop n) := by
        simp [closeInSight?_eq_some_iff hclose]
      rw [Exposed, flatMap_source_scanWith, ← hsight, ← ih, scanWith]
      constructor
      · intro heq
        cases hm : closeInSight? false cs with
        | none => simp [hm] at heq
        | some m =>
            -- comments with the same text end at the same mark
            rw [hm] at heq
            obtain ⟨hblock, hrest⟩ := List.cons.inj heq
            have hlength := congrArg List.length (Piece.block.inj hblock)
            rw [List.length_take_of_le (closeInSight?_bounds hm).2,
              List.length_take_of_le (close?_le hclose)] at hlength
            subst hlength
            exact ⟨rfl, hrest⟩
      · rintro ⟨hm, hrest⟩
        rw [hm, ← hrest]
  | case4 cs hclose ih =>
      rw [scanWith, closeInSight?_eq_none hclose, Exposed, ← ih, List.cons_inj_right]
      simp
  | case5 c cs h₁ h₂ ih =>
      rw [scanWith.eq_4 _ _ _ h₁ h₂, Exposed, ← ih, List.cons_inj_right]
      simp

/-- **What is left of a text.**  The two passes keep what one scan keeps, which differs from that of
C in the ends of block comments only; the two have the same pieces exactly if no closing mark is
hidden, and then the text is left as C leaves it. -/
theorem remove_scan (cs : List Char) :
    remove cs = (passes cs).flatMap Piece.kept ∧
      (passes cs = scan cs ↔ Exposed (scan cs)) ∧
      (Exposed (scan cs) → remove cs = (scan cs).flatMap Piece.kept) := by
  refine ⟨remove_eq_kept_passes cs, passes_eq_scan_iff cs, fun h => ?_⟩
  rw [remove_eq_kept_passes, (passes_eq_scan_iff cs).2 h]

/-- The first pass takes the closing mark behind a URL away, and the second one goes on to the mark
of the next comment: the declaration in between is lost. -/
theorem not_remove_scan_url :
    ¬ ∀ cs, remove cs = (scan cs).flatMap Piece.kept := by
  intro h
  have hurl := h "/* http://x */ var int a;\n/* y */ var int b;".toList
  have hleft : remove "/* http://x */ var int a;\n/* y */ var int b;".toList =
      " var int b;".toList := by decide +kernel
  have hscan : (scan "/* http://x */ var int a;\n/* y */ var int b;".toList).flatMap Piece.kept =
      " var int a;\n var int b;".toList := by decide +kernel
  rw [hleft, hscan] at hurl
  exact absurd hurl (by decide)

end ScriptBindings.Comments
