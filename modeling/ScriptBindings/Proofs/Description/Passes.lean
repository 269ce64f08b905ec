import Mathlib.Data.List.Infix
import ScriptBindings.Description.Comments

/-!
# The two passes over comments

What each of the two passes does with one character, which texts it leaves as they are, and what
both do with two texts one after the other.

* `dropLinesFrom_true_cons`, `dropLinesFrom_slashes`, `dropLinesFrom_false_cons` — the first pass.
* `closes_cons`, `dropBlocksFrom_true_cons`, `dropBlocksFrom_false_cons` — the second pass.
* `dropLinesFrom_eq_self`, `dropBlocksFrom_eq_self` — the texts that each of them leaves alone.
* `remove_append` — a text that ends its line and has no opening mark left, and one after it.

### What is load-bearing

A mark is two characters, so each step depends on one more character than it takes, and so does a
seam on the first character behind it.  `not_begins_iff` says once what that one must not be.
-/

namespace ScriptBindings.Comments

/-! ## The first pass, character by character -/

/-- A text does not begin with two characters: the side condition of an equation with overlapping
patterns, and the same read off the text. -/
theorem not_begins_iff {c d e : Char} {cs : List Char} :
    (∀ cs', c = d → cs = e :: cs' → False) ↔ ¬ (c = d ∧ cs.head? = some e) := by
  rw [List.head?_eq_some_iff]
  constructor
  · rintro h ⟨hc, cs', hcs'⟩
    exact h cs' hc hcs'
  · intro h cs' hc hcs'
    exact h ⟨hc, cs', hcs'⟩

/-- Inside a line comment, every character but a newline is dropped. -/
theorem dropLinesFrom_true_cons {c : Char} (h : c ≠ '\n') (cs : List Char) :
    dropLinesFrom true (c :: cs) = dropLinesFrom true cs := by
  induction cs generalizing c with
  | nil => simp [dropLinesFrom]
  | cons d cs ih =>
      by_cases hslashes : c = '/' ∧ d = '/'
      · obtain ⟨rfl, rfl⟩ := hslashes
        rw [dropLinesFrom, ih (by decide)]
      · rw [dropLinesFrom.eq_4 _ _ _ h fun cs' hc hcs' => hslashes ⟨hc, (List.cons.inj hcs').1⟩,
          if_pos rfl]

/-- A line comment is dropped up to the next newline. -/
theorem dropLinesFrom_true (cs : List Char) :
    dropLinesFrom true cs = dropLinesFrom false (cs.dropWhile (· != '\n')) := by
  induction cs with
  | nil => rfl
  | cons c cs ih =>
      by_cases h : c = '\n'
      · subst h
        rw [List.dropWhile_cons_of_neg (by simp), dropLinesFrom, dropLinesFrom]
      · rw [dropLinesFrom_true_cons h, ih, List.dropWhile_cons_of_pos (by simpa using h)]

/-- Two slashes begin a line comment, or go on in one. -/
theorem dropLinesFrom_slashes {inside : Bool} {cs : List Char} (h : cs.head? = some '/') :
    dropLinesFrom inside ('/' :: cs) = dropLinesFrom true cs := by
  obtain ⟨cs, rfl⟩ := List.head?_eq_some_iff.1 h
  rw [dropLinesFrom, dropLinesFrom_true_cons (by decide)]

/-- Outside, every character is kept that begins no line comment. -/
theorem dropLinesFrom_false_cons {c : Char} {cs : List Char}
    (h : ¬ (c = '/' ∧ cs.head? = some '/')) :
    dropLinesFrom false (c :: cs) = c :: dropLinesFrom false cs := by
  by_cases hnewline : c = '\n'
  · subst hnewline
    rw [dropLinesFrom]
  · rw [dropLinesFrom.eq_4 _ _ _ hnewline (not_begins_iff.2 h), if_neg nofun]

/-- A pass begins with a newline, or outside a comment with the first character of the text. -/
theorem head?_dropLinesFrom {hidden : Bool} {cs : List Char} {c : Char}
    (h : (dropLinesFrom hidden cs).head? = some c) :
    c = '\n' ∨ hidden = false ∧ cs.head? = some c := by
  fun_induction dropLinesFrom hidden cs with
  | case1 => simp at h
  | case2 hidden cs ih => exact .inl (Option.some.inj h).symm
  | case3 hidden cs ih => exact .inl ((ih h).resolve_right nofun)
  | case4 d cs h₁ h₂ ih => exact .inl ((ih h).resolve_right nofun)
  | case5 hidden d cs h₁ h₂ hfalse ih => exact .inr ⟨by simpa using hfalse, h⟩

/-! ## The second pass, character by character -/

/-- A closing mark is looked for behind every character that begins none. -/
theorem closes_cons {c : Char} {cs : List Char} (h : ¬ (c = '*' ∧ cs.head? = some '/')) :
    closes (c :: cs) = closes cs :=
  closes.eq_3 _ _ (not_begins_iff.2 h)

/-- Inside a block comment, every character is dropped that begins no closing mark. -/
theorem dropBlocksFrom_true_cons {c : Char} {cs : List Char}
    (h : ¬ (c = '*' ∧ cs.head? = some '/')) :
    dropBlocksFrom true (c :: cs) = dropBlocksFrom true cs :=
  dropBlocksFrom.eq_3 _ _ (not_begins_iff.2 h)

/-- **What follows a block comment** that begins before a text: the second pass over the rest, or
`none` if the comment has no end. -/
def afterBlock? (cs : List Char) : Option (List Char) :=
  if closes cs then some (dropBlocksFrom true cs) else none

theorem afterBlock?_close (cs : List Char) :
    afterBlock? ('*' :: '/' :: cs) = some (dropBlocksFrom false cs) := by
  simp [afterBlock?, closes, dropBlocksFrom]

theorem afterBlock?_cons {c : Char} {cs : List Char} (h : ¬ (c = '*' ∧ cs.head? = some '/')) :
    afterBlock? (c :: cs) = afterBlock? cs := by
  rw [afterBlock?, closes_cons h, dropBlocksFrom_true_cons h, afterBlock?]

/-- Outside, every character is kept that begins no opening mark. -/
theorem dropBlocksFrom_false_cons {c : Char} {cs : List Char}
    (h : ¬ (c = '/' ∧ cs.head? = some '*')) :
    dropBlocksFrom false (c :: cs) = c :: dropBlocksFrom false cs :=
  dropBlocksFrom.eq_5 _ _ (not_begins_iff.2 h)

theorem dropBlocksFrom_open (cs : List Char) :
    dropBlocksFrom false ('/' :: '*' :: cs) =
      (afterBlock? cs).getD ('/' :: '*' :: dropBlocksFrom false cs) := by
  rw [dropBlocksFrom, afterBlock?]
  split <;> rfl

/-! ## Texts that a pass leaves as they are -/

/-- A mark of two characters stands at the start of a text or further on. -/
theorem mark_isInfix_cons_iff {c d e : Char} {cs : List Char} :
    [d, e] <:+: c :: cs ↔ (c = d ∧ cs.head? = some e) ∨ [d, e] <:+: cs := by
  rw [List.infix_cons_iff, List.cons_prefix_cons, eq_comm (a := d)]
  cases cs with
  | nil => simp
  | cons x cs => simp [eq_comm]

/-- **Two slashes** in a row are in a text. -/
def Slashes (cs : List Char) : Prop :=
  ['/', '/'] <:+: cs

theorem slashes_cons_iff {c : Char} {cs : List Char} :
    Slashes (c :: cs) ↔ (c = '/' ∧ cs.head? = some '/') ∨ Slashes cs :=
  mark_isInfix_cons_iff

/-- A block comment ends in a text exactly if there is a closing mark in it. -/
theorem closes_iff {cs : List Char} : closes cs = true ↔ ['*', '/'] <:+: cs := by
  fun_induction closes cs with
  | case1 => simp
  | case2 cs => simp [mark_isInfix_cons_iff]
  | case3 c cs h ih => rw [ih, mark_isInfix_cons_iff, or_iff_right (not_begins_iff.1 h)]

/-- The first pass leaves a text without two slashes as it is. -/
theorem dropLinesFrom_eq_self {cs : List Char} (h : ¬ Slashes cs) :
    dropLinesFrom false cs = cs := by
  induction cs with
  | nil => rfl
  | cons c cs ih =>
      rw [slashes_cons_iff, not_or] at h
      rw [dropLinesFrom_false_cons h.1, ih h.2]

/-- The second pass leaves a text as it is in which no closing mark follows an opening one. -/
theorem dropBlocksFrom_eq_self {cs : List Char}
    (h : ∀ rest, '/' :: '*' :: rest <:+ cs → ¬ ['*', '/'] <:+: rest) :
    dropBlocksFrom false cs = cs := by
  induction cs with
  | nil => rfl
  | cons c cs ih =>
      have hcs : dropBlocksFrom false cs = cs :=
        ih fun rest hrest => h rest (hrest.trans (List.suffix_cons c cs))
      by_cases hopens : c = '/' ∧ cs.head? = some '*'
      · obtain ⟨rfl, hhead⟩ := hopens
        obtain ⟨cs, rfl⟩ := List.head?_eq_some_iff.1 hhead
        have hopen : ¬ closes cs = true := fun hcloses =>
          h cs List.suffix_rfl (closes_iff.1 hcloses)
        rw [dropBlocksFrom_false_cons (by simp)] at hcs
        rw [dropBlocksFrom, if_neg hopen, (List.cons.inj hcs).2]
      · rw [dropBlocksFrom_false_cons hopens, hcs]

/-- **A text without slashes has no comments.** -/
theorem remove_of_not_mem {cs : List Char} (h : '/' ∉ cs) : remove cs = cs := by
  have hlines : dropLines cs = cs :=
    dropLinesFrom_eq_self fun hslashes => h (hslashes.subset (by simp))
  have hblocks : dropBlocks cs = cs :=
    dropBlocksFrom_eq_self fun rest hrest => absurd (hrest.subset (by simp)) h
  rw [remove, hlines, hblocks]

/-! ## Two texts, one after the other -/

/-- **An opening mark** of a block comment is in a text. -/
def Opens (cs : List Char) : Prop :=
  ['/', '*'] <:+: cs

instance (cs : List Char) : Decidable (Opens cs) :=
  inferInstanceAs (Decidable (_ <:+: _))

theorem Opens.cons {cs : List Char} (h : Opens cs) (c : Char) : Opens (c :: cs) :=
  h.trans (List.suffix_cons c cs).isInfix

/-- A text begins with two characters only if they are its own, or if they meet at the seam with
what follows it. -/
theorem not_begins_append {c d e : Char} {cs ds : List Char}
    (h : ∀ cs', c = d → cs = e :: cs' → False) (hseam : c = d → cs = [] → ds.head? ≠ some e) :
    ¬ (c = d ∧ (cs ++ ds).head? = some e) := by
  rintro ⟨hc, hhead⟩
  cases cs with
  | nil => exact hseam hc rfl hhead
  | cons x cs => exact h cs hc (by rw [Option.some.inj hhead])

theorem getLast?_ne_of_cons {c d : Char} {cs : List Char} (h : (c :: cs).getLast? ≠ some d) :
    cs.getLast? ≠ some d := by
  cases cs with
  | nil => simp
  | cons x cs => rwa [List.getLast?_cons_cons] at h

/-- **The first pass, line by line**: a newline divides what is left of a text. -/
theorem dropLinesFrom_append_newline (inside : Bool) (cs ds : List Char) :
    dropLinesFrom inside (cs ++ '\n' :: ds) =
      dropLinesFrom inside cs ++ '\n' :: dropLinesFrom false ds := by
  fun_induction dropLinesFrom inside cs with
  | case1 inside => rw [List.nil_append, dropLinesFrom, List.nil_append]
  | case2 inside cs ih => rw [List.cons_append, dropLinesFrom, ih, List.cons_append]
  | case3 inside cs ih => rw [List.cons_append, List.cons_append, dropLinesFrom, ih]
  | case4 c cs h₁ h₂ ih => rw [List.cons_append, dropLinesFrom_true_cons h₁, ih]
  | case5 inside c cs h₁ h₂ hfalse ih =>
      obtain rfl : inside = false := by simpa using hfalse
      have hslashes : ¬ (c = '/' ∧ (cs ++ '\n' :: ds).head? = some '/') :=
        not_begins_append h₂ fun _ _ => by simp
      rw [List.cons_append, dropLinesFrom_false_cons hslashes, ih, List.cons_append]

theorem closes_append {cs : List Char} (h : closes cs = true) (ds : List Char) :
    closes (cs ++ ds) = true := by
  fun_induction closes cs with
  | case1 => cases h
  | case2 cs => rfl
  | case3 c cs hc ih =>
      have hclose : ¬ (c = '*' ∧ (cs ++ ds).head? = some '/') :=
        not_begins_append hc fun _ hnil => by
          rw [hnil] at h
          cases h
      rw [List.cons_append, closes_cons hclose]
      exact ih h

/-- **The second pass over two texts** is that over each of them, if the first one ends outside of a
comment: what is left of it opens none, and no opening mark begins with its last character. -/
theorem dropBlocksFrom_append {inside : Bool} {cs : List Char}
    (hinside : inside = true → closes cs = true) (hopen : ¬ Opens (dropBlocksFrom inside cs))
    (hlast : cs.getLast? ≠ some '/') (ds : List Char) :
    dropBlocksFrom inside (cs ++ ds) = dropBlocksFrom inside cs ++ dropBlocksFrom false ds := by
  fun_induction dropBlocksFrom inside cs with
  | case1 inside =>
      obtain rfl : inside = false := by simpa [closes] using hinside
      rfl
  | case2 cs ih =>
      rw [List.cons_append, List.cons_append, dropBlocksFrom]
      exact ih nofun hopen (getLast?_ne_of_cons (getLast?_ne_of_cons hlast))
  | case3 c cs hc ih =>
      have hcloses : closes cs = true := by
        rw [← closes.eq_3 _ _ hc]
        exact hinside rfl
      have hclose : ¬ (c = '*' ∧ (cs ++ ds).head? = some '/') :=
        not_begins_append hc fun _ hnil => by
          rw [hnil] at hcloses
          cases hcloses
      rw [List.cons_append, dropBlocksFrom_true_cons hclose]
      exact ih (fun _ => hcloses) hopen (getLast?_ne_of_cons hlast)
  | case4 cs hcloses ih =>
      rw [List.cons_append, List.cons_append, dropBlocksFrom, if_pos (closes_append hcloses ds)]
      exact ih (fun _ => hcloses) hopen (getLast?_ne_of_cons (getLast?_ne_of_cons hlast))
  | case5 cs hcloses ih => exact absurd ⟨[], _, rfl⟩ hopen
  | case6 c cs hc ih =>
      have hopens : ¬ (c = '/' ∧ (cs ++ ds).head? = some '*') :=
        not_begins_append hc fun hslash hnil => by
          rw [hslash, hnil] at hlast
          exact absurd rfl hlast
      rw [List.cons_append, dropBlocksFrom_false_cons hopens, List.cons_append,
        ih nofun (fun h => hopen (h.cons c)) (getLast?_ne_of_cons hlast)]

/-- **Comments of a text that ends its line** and has no opening mark left, and of one after it. -/
theorem remove_append {cs : List Char} (hnewline : cs.getLast? = some '\n')
    (hopen : ¬ Opens (remove cs)) (ds : List Char) :
    remove (cs ++ ds) = remove cs ++ remove ds := by
  obtain ⟨cs, rfl⟩ := List.getLast?_eq_some_iff.1 hnewline
  have hfirst : dropLines (cs ++ ['\n']) = dropLinesFrom false cs ++ ['\n'] :=
    dropLinesFrom_append_newline false cs []
  have hboth : dropLines (cs ++ ['\n'] ++ ds) =
      dropLinesFrom false cs ++ ['\n'] ++ dropLines ds := by
    rw [List.append_assoc, List.append_assoc]
    exact dropLinesFrom_append_newline false cs ds
  rw [remove, hfirst] at hopen
  rw [remove, remove, remove, hboth, hfirst]
  have houtside : false = true → closes (dropLinesFrom false cs ++ ['\n']) = true := nofun
  exact dropBlocksFrom_append houtside hopen (by simp) (dropLines ds)

end ScriptBindings.Comments
