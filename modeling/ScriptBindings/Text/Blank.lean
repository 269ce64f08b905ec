/-!
# Blank characters, pieces and words

A description is free in its layout: what counts is the sequence of words that the blanks separate,
and the pieces that a punctuation mark separates.  This file fixes which characters are blank and
holds the operations on character lists that the readers share:

* `Text.pieces` — cutting at every separator.  There is always one piece more than there are
  separators, so nothing but the separators is lost.
* `Text.words` — the non-empty pieces between blanks.
* `Text.squeeze` — the words joined by single spaces, the form in which declarations are recognised.
* `Text.trim` — the text without the blanks at its two ends.
-/

namespace ScriptBindings.Text

/-- **A blank**: white space of any script, from the tabulator to the ideographic space.  Zero-width
characters are not blank. -/
def isBlank (c : Char) : Bool :=
  let n := c.toNat
  (9 ≤ n && n ≤ 13) || (0x1C ≤ n && n ≤ 0x20) || n == 0x85 || n == 0xA0 || n == 0x1680 ||
    (0x2000 ≤ n && n ≤ 0x200A) || n == 0x2028 || n == 0x2029 || n == 0x202F || n == 0x205F ||
    n == 0x3000

@[simp] theorem isBlank_space : isBlank ' ' = true := rfl

@[simp] theorem isBlank_newline : isBlank '\n' = true := rfl

/-- **Cutting at separators**: the pieces of a text, whatever it is made of, between the parts of it
that satisfy `sep`. -/
def pieces {α : Type} (sep : α → Bool) : List α → List (List α)
  | [] => [[]]
  | c :: cs =>
      if sep c then [] :: pieces sep cs
      else match pieces sep cs with
        | [] => [[c]]
        | first :: rest => (c :: first) :: rest

section Pieces

variable {α : Type} {sep : α → Bool}

@[simp] theorem pieces_nil (sep : α → Bool) : pieces sep [] = [[]] := rfl

theorem pieces_cons_of_sep {c : α} (h : sep c = true) (cs : List α) :
    pieces sep (c :: cs) = [] :: pieces sep cs := by
  simp [pieces, h]

theorem pieces_ne_nil (sep : α → Bool) (cs : List α) : pieces sep cs ≠ [] := by
  cases cs with
  | nil => simp
  | cons c cs =>
      rw [pieces]
      split
      · simp
      · split <;> simp

/-- A text without separators is one piece. -/
theorem pieces_of_forall_not {cs : List α} (h : ∀ c ∈ cs, sep c = false) :
    pieces sep cs = [cs] := by
  induction cs with
  | nil => rfl
  | cons c cs ih =>
      have hc : sep c = false := h c (by simp)
      have hcs : pieces sep cs = [cs] := ih fun x hx => h x (by simp [hx])
      simp [pieces, hc, hcs]

/-- No piece holds a separator. -/
theorem sep_eq_false_of_mem_pieces {cs p : List α} (hp : p ∈ pieces sep cs) {c : α} (hc : c ∈ p) :
    sep c = false := by
  induction cs generalizing p with
  | nil => simp_all
  | cons d ds ih =>
      rw [pieces] at hp
      split at hp
      · rcases List.mem_cons.1 hp with rfl | hp
        · simp at hc
        · exact ih hp hc
      · rename_i hd
        split at hp
        · simp_all
        · rename_i first rest heq
          rcases List.mem_cons.1 hp with rfl | hp
          · rcases List.mem_cons.1 hc with rfl | hc
            · simpa using hd
            · exact ih (p := first) (by simp [heq]) hc
          · exact ih (by simp [heq, hp]) hc

/-- Cutting does not look at more than the separators. -/
theorem pieces_map {β : Type} (f : β → α) (cs : List β) :
    pieces sep (cs.map f) = (pieces (sep ∘ f) cs).map (·.map f) := by
  induction cs with
  | nil => rfl
  | cons c cs ih =>
      rw [List.map_cons, pieces, pieces, ih]
      by_cases hc : sep (f c) = true
      · simp [hc]
      · cases pieces (sep ∘ f) cs <;> simp [hc]

end Pieces

/-- **The words of a text**: what stands between its blanks, empty pieces left out. -/
def words (cs : List Char) : List (List Char) :=
  (pieces isBlank cs).filter (· ≠ [])

/-- **A text with its blanks squeezed**: single spaces between the words and none at the ends. -/
def squeeze (cs : List Char) : List Char :=
  List.intercalate [' '] (words cs)

/-- A text without the blanks at its start. -/
def trimLeft (cs : List Char) : List Char :=
  cs.dropWhile isBlank

/-- A text without the blanks at its end. -/
def trimRight (cs : List Char) : List Char :=
  (cs.reverse.dropWhile isBlank).reverse

/-- A text without the blanks at its two ends. -/
def trim (cs : List Char) : List Char :=
  trimRight (trimLeft cs)

/-- **The last word apart**: the text before the last word, without the blanks between the two, and
that word itself.  `none` if there is nothing before the last word. -/
def splitLastWord? (cs : List Char) : Option (List Char × List Char) :=
  let reversed := (trim cs).reverse
  let before := (reversed.dropWhile (!isBlank ·)).dropWhile isBlank
  if before = [] then none
  else some (before.reverse, (reversed.takeWhile (!isBlank ·)).reverse)

end ScriptBindings.Text
