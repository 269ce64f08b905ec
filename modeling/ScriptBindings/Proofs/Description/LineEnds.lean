import ScriptBindings.Proofs.CommandLine.Run
import ScriptBindings.Proofs.Description.Passes
import ScriptBindings.Proofs.Text.Tight

/-!
# Line ends of a description

A description may end its lines with a newline, or with a carriage return and a newline.  The two
are read alike, although a return is an ordinary character to the comments and a blank one to the
declarations.

* `Paired`, `shortenEnds` — texts without a return on its own, and the same texts with newlines
  only.
* `SameLines` — the relation between them.
* `ReadsAlike` — a description that is read alike with and without its returns, and from a file;
  `readsAlike` says that every paired one is.

### What is load-bearing

A return and the newline after it are never parted: no mark of a comment begins or ends with either
of them, and a line comment that takes the return leaves the newline.  So each pass keeps
`SameLines`, and so does cutting at semicolons, until squeezing takes the blanks away.
-/

namespace ScriptBindings

open ScriptBindings.Text Traversal

namespace Text

/-- **A text with paired returns**: a newline follows each of them. -/
def Paired (cs : List Char) : Prop :=
  ∀ i < cs.length, cs[i]? = some '\r' → cs[i + 1]? = some '\n'

instance (cs : List Char) : Decidable (Paired cs) :=
  inferInstanceAs (Decidable (∀ i < cs.length, _))

/-- **A text with short line ends**: a return with a newline after it is that newline alone. -/
def shortenEnds : List Char → List Char
  | [] => []
  | '\r' :: '\n' :: cs => '\n' :: shortenEnds cs
  | c :: cs => c :: shortenEnds cs

/-- **Texts with the same lines**: the first one may have returns before its newlines, and neither
has any others. -/
inductive SameLines : List Char → List Char → Prop
  | nil : SameLines [] []
  | ending {cs cs' : List Char} (h : SameLines cs cs') :
      SameLines ('\r' :: '\n' :: cs) ('\n' :: cs')
  | other {c : Char} {cs cs' : List Char} (hc : c ≠ '\r') (h : SameLines cs cs') :
      SameLines (c :: cs) (c :: cs')

theorem Paired.tail {c : Char} {cs : List Char} (h : Paired (c :: cs)) : Paired cs := by
  intro i hi hreturn
  exact h (i + 1) (Nat.succ_lt_succ hi) hreturn

/-- **A paired text has the same lines** as the one with short line ends. -/
theorem Paired.sameLines {cs : List Char} (h : Paired cs) : SameLines cs (shortenEnds cs) := by
  fun_induction shortenEnds cs with
  | case1 => exact .nil
  | case2 cs ih => exact .ending (ih h.tail.tail)
  | case3 c cs hc ih =>
      refine .other ?_ (ih h.tail)
      rintro rfl
      obtain ⟨rest, rfl⟩ : ∃ rest, cs = '\n' :: rest := by
        have hnext : cs[0]? = some '\n' := h 0 (Nat.succ_pos _) rfl
        exact List.head?_eq_some_iff.1 (by rwa [List.head?_eq_getElem?])
      exact hc rest rfl rfl

namespace SameLines

variable {cs cs' : List Char}

/-- Reading a file as text makes the same of it. -/
theorem unifies (h : SameLines cs cs') : Unifies cs cs' := by
  induction h with
  | nil => exact .nil
  | ending _ ih => exact .both ih
  | other hc _ ih => exact .other hc ih

/-- The two begin alike, unless with a line end. -/
theorem head?_eq_iff (h : SameLines cs cs') {c : Char} (hreturn : c ≠ '\r') (hnewline : c ≠ '\n') :
    cs.head? = some c ↔ cs'.head? = some c := by
  cases h with
  | nil => exact Iff.rfl
  | ending h => simp [hreturn.symm, hnewline.symm]
  | other hc h => exact Iff.rfl

theorem tail {c : Char} (h : SameLines (c :: cs) (c :: cs')) (hc : c ≠ '\r') :
    SameLines cs cs' := by
  cases h with
  | other _ h => exact h

/-! ## Comments -/

/-- **The first pass** keeps the lines the same: a comment takes the return with it and leaves the
newline. -/
theorem dropLinesFrom (h : SameLines cs cs') (inside : Bool) :
    SameLines (Comments.dropLinesFrom inside cs) (Comments.dropLinesFrom inside cs') := by
  induction h generalizing inside with
  | nil => exact .nil
  | @ending cs cs' _ ih =>
      cases inside with
      | true =>
          rw [Comments.dropLinesFrom_true_cons (by decide), Comments.dropLinesFrom,
            Comments.dropLinesFrom]
          exact .other (by decide) (ih false)
      | false =>
          rw [Comments.dropLinesFrom_false_cons (by simp), Comments.dropLinesFrom,
            Comments.dropLinesFrom]
          exact .ending (ih false)
  | @other c cs cs' hc h ih =>
      by_cases hnewline : c = '\n'
      · subst hnewline
        rw [Comments.dropLinesFrom, Comments.dropLinesFrom]
        exact .other hc (ih false)
      have hhead := h.head?_eq_iff (c := '/') (by decide) (by decide)
      by_cases hslashes : c = '/' ∧ cs.head? = some '/'
      · obtain ⟨rfl, hslash⟩ := hslashes
        rw [Comments.dropLinesFrom_slashes hslash, Comments.dropLinesFrom_slashes (hhead.1 hslash)]
        exact ih true
      cases inside with
      | true =>
          rw [Comments.dropLinesFrom_true_cons hnewline, Comments.dropLinesFrom_true_cons hnewline]
          exact ih true
      | false =>
          rw [Comments.dropLinesFrom_false_cons hslashes,
            Comments.dropLinesFrom_false_cons (by rwa [← hhead])]
          exact .other hc (ih false)

/-- A block comment ends in both or in none. -/
theorem closes_eq (h : SameLines cs cs') : Comments.closes cs = Comments.closes cs' := by
  induction h with
  | nil => rfl
  | ending _ ih =>
      rw [Comments.closes_cons (by simp), Comments.closes_cons (by simp),
        Comments.closes_cons (by simp), ih]
  | @other c cs cs' _ h ih =>
      have hhead := h.head?_eq_iff (c := '/') (by decide) (by decide)
      by_cases hclose : c = '*' ∧ cs.head? = some '/'
      · obtain ⟨rfl, hslash⟩ := hclose
        obtain ⟨rest, rfl⟩ := List.head?_eq_some_iff.1 hslash
        obtain ⟨rest', rfl⟩ := List.head?_eq_some_iff.1 (hhead.1 hslash)
        rfl
      · rw [Comments.closes_cons hclose, Comments.closes_cons (by rwa [← hhead]), ih]

/-- **The second pass** keeps the lines the same. -/
theorem dropBlocksFrom (h : SameLines cs cs') (inside : Bool) :
    SameLines (Comments.dropBlocksFrom inside cs) (Comments.dropBlocksFrom inside cs') := by
  fun_induction Comments.dropBlocksFrom inside cs generalizing cs' with
  | case1 inside =>
      cases h
      cases inside <;> exact .nil
  | case2 cs ih =>
      cases h with
      | other _ h => cases h with
        | other _ h => exact ih h
  | case3 c cs hc ih =>
      cases h with
      | ending h => exact ih (.other (by decide) h)
      | @other _ _ cs' hc' h =>
          have hhead := h.head?_eq_iff (c := '/') (by decide) (by decide)
          have hclose := Comments.not_begins_iff.1 hc
          rw [Comments.dropBlocksFrom_true_cons (by rwa [← hhead])]
          exact ih h
  | case4 cs hcloses ih =>
      cases h with
      | other _ h => cases h with
        | other _ h =>
            rw [Comments.dropBlocksFrom, if_pos (h.closes_eq ▸ hcloses)]
            exact ih h
  | case5 cs hcloses ih =>
      cases h with
      | other hslash h => cases h with
        | other hstar h =>
            rw [Comments.dropBlocksFrom, if_neg (h.closes_eq ▸ hcloses)]
            exact .other hslash (.other hstar (ih h))
  | case6 c cs hc ih =>
      cases h with
      | @ending cs cs' h =>
          have hrest := ih (.other (by decide) h)
          rw [Comments.dropBlocksFrom_false_cons (by simp),
            Comments.dropBlocksFrom_false_cons (by simp)] at hrest ⊢
          exact .ending (hrest.tail (by decide))
      | @other _ _ cs' hc' h =>
          have hhead := h.head?_eq_iff (c := '*') (by decide) (by decide)
          have hopens := Comments.not_begins_iff.1 hc
          rw [Comments.dropBlocksFrom_false_cons (by rwa [← hhead])]
          exact .other hc' (ih h)

/-- **Comments** are the same in both. -/
theorem remove (h : SameLines cs cs') : SameLines (Comments.remove cs) (Comments.remove cs') :=
  (h.dropLinesFrom false).dropBlocksFrom false

/-! ## Declarations -/

/-- **The pieces between separators** have the same lines, if no line end is a separator. -/
theorem pieces {sep : Char → Bool} (hreturn : sep '\r' = false) (hnewline : sep '\n' = false)
    (h : SameLines cs cs') :
    List.Forall₂ SameLines (Text.pieces sep cs) (Text.pieces sep cs') := by
  induction h with
  | nil => exact .cons .nil .nil
  | @ending cs cs' _ ih =>
      obtain ⟨first, rest, hcs⟩ := List.exists_cons_of_ne_nil (pieces_ne_nil sep cs)
      obtain ⟨first', rest', hcs'⟩ := List.exists_cons_of_ne_nil (pieces_ne_nil sep cs')
      rw [hcs, hcs'] at ih
      obtain ⟨hfirst, hrest⟩ := List.forall₂_cons.1 ih
      rw [pieces_cons_of_not hreturn (pieces_cons_of_not hnewline hcs),
        pieces_cons_of_not hnewline hcs']
      exact .cons (.ending hfirst) hrest
  | @other c cs cs' hc _ ih =>
      cases hsep : sep c with
      | true =>
          rw [pieces_cons_of_sep hsep, pieces_cons_of_sep hsep]
          exact .cons .nil ih
      | false =>
          obtain ⟨first, rest, hcs⟩ := List.exists_cons_of_ne_nil (pieces_ne_nil sep cs)
          obtain ⟨first', rest', hcs'⟩ := List.exists_cons_of_ne_nil (pieces_ne_nil sep cs')
          rw [hcs, hcs'] at ih
          obtain ⟨hfirst, hrest⟩ := List.forall₂_cons.1 ih
          rw [pieces_cons_of_not hsep hcs, pieces_cons_of_not hsep hcs']
          exact .cons (.other hc hfirst) hrest

/-- Between blanks, the first pieces are the same and the others are but for empty ones. -/
theorem exists_pieces_isBlank (h : SameLines cs cs') :
    ∃ first rest rest', Text.pieces isBlank cs = first :: rest ∧
      Text.pieces isBlank cs' = first :: rest' ∧ rest.filter (· ≠ []) = rest'.filter (· ≠ []) := by
  induction h with
  | nil => exact ⟨[], [], [], rfl, rfl, rfl⟩
  | ending _ ih =>
      obtain ⟨first, rest, rest', hcs, hcs', hrest⟩ := ih
      refine ⟨[], [] :: first :: rest, first :: rest', ?_, ?_, ?_⟩
      · rw [pieces_cons_of_sep rfl, pieces_cons_of_sep rfl, hcs]
      · rw [pieces_cons_of_sep rfl, hcs']
      · rw [List.filter_cons_of_neg (by simp), List.filter_cons, List.filter_cons, hrest]
  | @other c _ _ _ _ ih =>
      obtain ⟨first, rest, rest', hcs, hcs', hrest⟩ := ih
      cases hblank : isBlank c with
      | true =>
          refine ⟨[], first :: rest, first :: rest', ?_, ?_, ?_⟩
          · rw [pieces_cons_of_sep hblank, hcs]
          · rw [pieces_cons_of_sep hblank, hcs']
          · rw [List.filter_cons, List.filter_cons, hrest]
      | false =>
          exact ⟨c :: first, rest, rest', pieces_cons_of_not hblank hcs,
            pieces_cons_of_not hblank hcs', hrest⟩

/-- **Texts with the same lines are squeezed to the same.** -/
theorem squeeze_eq (h : SameLines cs cs') : squeeze cs = squeeze cs' := by
  obtain ⟨first, rest, rest', hcs, hcs', hrest⟩ := h.exists_pieces_isBlank
  rw [squeeze, words, hcs, squeeze, words, hcs', List.filter_cons, List.filter_cons, hrest]

/-- **They have the same declarations.** -/
theorem split_eq (h : SameLines cs cs') : Declaration.split cs = Declaration.split cs' := by
  have hpieces : List.Forall₂ SameLines (Text.pieces (· == ';') (Comments.remove cs))
      (Text.pieces (· == ';') (Comments.remove cs')) := h.remove.pieces rfl rfl
  have hsqueezed : (Text.pieces (· == ';') (Comments.remove cs)).map squeeze =
      (Text.pieces (· == ';') (Comments.remove cs')).map squeeze := by
    rw [← List.forall₂_eq_eq_eq, List.forall₂_map_left_iff, List.forall₂_map_right_iff]
    exact hpieces.imp fun _ _ => squeeze_eq
  rw [Declaration.split, hsqueezed, Declaration.split]

end SameLines

end Text

/-! ## Descriptions -/

/-- **A description that is read alike** with either line end. -/
structure ReadsAlike (text : String) : Prop where
  /-- With newlines only, it has the same surface or the same error. -/
  shortened : Surface.read (String.ofList (shortenEnds text.toList)) = Surface.read text
  /-- A command that takes it from a file goes on with what reading it gives. -/
  command : ∀ (τ : Type) [Append τ] [Textual τ] (a : CommandLine.Arguments τ) (d : Disk)
    (bytes : List UInt8), d.readFile (Path.ofString a.description) = .ok bytes →
    text.toUTF8 = bytes.toByteArray →
    (CommandLine.run a : StateM Disk _) d =
      match Surface.read text with
      | .error (.outOfRange fault) => (.broken (.model fault), d)
      | .error e => (.refused ("Error: " ++ e.message ++ "\n"), d)
      | .ok surface => (CommandLine.generate a surface : StateM Disk _) d

/-- **Line ends do not matter** in a description whose returns are paired. -/
theorem readsAlike {text : String} (h : Paired text.toList) : ReadsAlike text := by
  have hshort : Surface.read (String.ofList (shortenEnds text.toList)) = Surface.read text := by
    rw [Surface.read, String.toList_ofList, ← h.sameLines.split_eq, Surface.read]
  refine ⟨hshort, fun τ _ _ a d bytes hbytes htext => ?_⟩
  have hfile : ofFile? bytes = some (String.ofList (shortenEnds text.toList)) := by
    refine ofFile?_eq_some_iff.2 ⟨text, htext, ?_⟩
    rw [String.toList_ofList]
    exact h.sameLines.unifies
  rw [CommandLine.run_run, hbytes]
  dsimp only
  rw [hfile]
  cases hread : Surface.read text with
  | error e => cases e <;> simp only [hshort, hread]
  | ok surface => simp only [hshort, hread]

/-- Returns in a line comment, in a block comment over two lines, and in one that has no end. -/
theorem readsAlike_spark :
    Paired "var int a; // x\r\n/* y\r\n*/ var float b;\r\n/*\r\n".toList ∧
      ReadsAlike "var int a; // x\r\n/* y\r\n*/ var float b;\r\n/*\r\n" := by
  have h : Paired "var int a; // x\r\n/* y\r\n*/ var float b;\r\n/*\r\n".toList := by decide
  exact ⟨h, readsAlike h⟩

end ScriptBindings
