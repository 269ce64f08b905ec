import Mathlib.Data.List.TakeWhile
import ScriptBindings.Proofs.Text.Blank

/-!
# Texts put together

What is written with separators is cut at them again, and what is written with single spaces stays
as it is when it is squeezed.

* `pieces_append_sep`, `pieces_intercalate` — cutting what was put together.
* `Tight` — texts with single spaces between their words and none at their ends; squeezing leaves
  them as they are (`Tight.squeeze_eq`).
* `Consists` — texts of word characters and a few marks; no other character is in them.
-/

namespace ScriptBindings.Text

/-! ## Cutting at separators -/

section

variable {α : Type} {sep : α → Bool}

theorem pieces_cons_of_not {c : α} (h : sep c = false) {cs first : List α}
    {rest : List (List α)} (hcs : pieces sep cs = first :: rest) :
    pieces sep (c :: cs) = (c :: first) :: rest := by
  rw [pieces, if_neg (by simp [h]), hcs]

/-- **A separator divides the pieces** before it from those behind it. -/
theorem pieces_append_cons {c : α} (hc : sep c = true) (cs ds : List α) :
    pieces sep (cs ++ c :: ds) = pieces sep cs ++ pieces sep ds := by
  induction cs with
  | nil => exact pieces_cons_of_sep hc ds
  | cons d cs ih =>
      cases hd : sep d with
      | true =>
          rw [List.cons_append, pieces_cons_of_sep hd, pieces_cons_of_sep hd, ih]
          rfl
      | false =>
          obtain ⟨first, rest, hcs⟩ := List.exists_cons_of_ne_nil (pieces_ne_nil sep cs)
          rw [hcs, List.cons_append] at ih
          rw [List.cons_append, pieces_cons_of_not hd ih, pieces_cons_of_not hd hcs]
          rfl

/-- A text without separators joins the first piece of what follows it. -/
theorem pieces_append_of_forall_not {p : List α} (hp : ∀ c ∈ p, sep c = false)
    {cs first : List α} {rest : List (List α)} (hcs : pieces sep cs = first :: rest) :
    pieces sep (p ++ cs) = (p ++ first) :: rest := by
  induction p with
  | nil => exact hcs
  | cons c p ih => exact pieces_cons_of_not (hp c (by simp)) (ih fun d hd => hp d (by simp [hd]))

/-- A piece ends at the first separator. -/
theorem pieces_append_sep {p : List α} (hp : ∀ c ∈ p, sep c = false) {c : α}
    (hc : sep c = true) (cs : List α) : pieces sep (p ++ c :: cs) = p :: pieces sep cs := by
  rw [pieces_append_cons hc, pieces_of_forall_not hp]
  rfl

/-- **Cutting a list in writing**: a comma and a space between the entries leave a space before each
entry but the first. -/
theorem pieces_intercalate {entries : List (List Char)} {entry : List Char}
    (h : ∀ e ∈ entry :: entries, ',' ∉ e) :
    pieces (· == ',') (List.intercalate [',', ' '] (entry :: entries)) =
      entry :: entries.map (' ' :: ·) := by
  have hcomma {e : List Char} (he : ',' ∉ e) : ∀ c ∈ e, (c == ',') = false := fun c hc => by
    simpa using ne_of_mem_of_not_mem hc he
  induction entries generalizing entry with
  | nil =>
      rw [List.intercalate_singleton]
      exact pieces_of_forall_not (hcomma (h entry (by simp)))
  | cons next entries ih =>
      rw [List.intercalate_cons_cons, List.append_assoc]
      have hnext : pieces (· == ',') (List.intercalate [',', ' '] (next :: entries)) =
          next :: entries.map (' ' :: ·) := ih fun e he => h e (List.mem_cons_of_mem _ he)
      exact (pieces_append_sep (hcomma (h entry (by simp))) rfl _).trans
        (congrArg _ (pieces_cons_of_not rfl hnext))

end

/-! ## Words -/

section

variable {gap : List Char}

/-- Blanks before a text do not matter. -/
theorem words_append_of_blank (h : Blank gap) (cs : List Char) : words (gap ++ cs) = words cs := by
  induction gap with
  | nil => rfl
  | cons c gap ih =>
      rw [List.cons_append, words, pieces_cons_of_sep (h c (by simp)),
        List.filter_cons_of_neg (by simp)]
      exact ih fun d hd => h d (by simp [hd])

/-- **Blanks between two texts** divide their words. -/
theorem words_append_append (h : Blank gap) (hne : gap ≠ []) (cs ds : List Char) :
    words (cs ++ (gap ++ ds)) = words cs ++ words ds := by
  obtain ⟨c, gap, rfl⟩ := List.exists_cons_of_ne_nil hne
  have hgap : Blank gap := fun d hd => h d (by simp [hd])
  rw [← words_append_of_blank hgap ds]
  show (pieces isBlank (cs ++ c :: (gap ++ ds))).filter (· ≠ []) = _
  rw [pieces_append_cons (h c (by simp)), List.filter_append]
  rfl

/-- Blanks behind a text do not matter. -/
theorem words_append_blank (h : Blank gap) (cs : List Char) : words (cs ++ gap) = words cs := by
  by_cases hne : gap = []
  · rw [hne, List.append_nil]
  · have hwords := words_append_append h hne cs []
    rwa [List.append_nil, words_eq_nil_iff.2 blank_nil, List.append_nil] at hwords

/-- A word is its only word. -/
theorem words_of_forall_not {cs : List Char} (hne : cs ≠ []) (h : ∀ c ∈ cs, isBlank c = false) :
    words cs = [cs] := by
  rw [words, pieces_of_forall_not h, List.filter_cons_of_pos (by simpa using hne), List.filter_nil]

/-! ## Squeezing -/

/-- Blanks before a text do not matter. -/
theorem squeeze_append_of_blank (h : Blank gap) (cs : List Char) :
    squeeze (gap ++ cs) = squeeze cs := by
  rw [squeeze, words_append_of_blank h, squeeze]

end

theorem squeeze_cons_cons {c d : Char} (hc : isBlank c = false) (hd : isBlank d = false)
    (cs : List Char) : squeeze (c :: d :: cs) = c :: squeeze (d :: cs) := by
  obtain ⟨first, rest, hcs⟩ := List.exists_cons_of_ne_nil (pieces_ne_nil isBlank cs)
  have hdcs := pieces_cons_of_not hd hcs
  have hcdcs := pieces_cons_of_not hc hdcs
  rw [squeeze, squeeze, words, words, hdcs, hcdcs, List.filter_cons_of_pos (by simp),
    List.filter_cons_of_pos (by simp)]
  cases rest.filter (· ≠ []) with
  | nil => simp [List.intercalate_singleton]
  | cons word rest => simp [List.intercalate_cons_cons]

theorem squeeze_cons_space {c : Char} (hc : isBlank c = false) {cs : List Char} (hcs : ¬ Blank cs) :
    squeeze (c :: ' ' :: cs) = c :: ' ' :: squeeze cs := by
  have hwords : words (c :: ' ' :: cs) = [c] :: words cs := by
    rw [words, pieces_cons_of_not hc (pieces_cons_of_sep isBlank_space cs),
      List.filter_cons_of_pos (by simp), ← words]
  rw [squeeze, hwords, List.intercalate_cons_of_ne_nil (mt words_eq_nil_iff.1 hcs)]
  rfl

/-- **A tight text**: its words are divided by single spaces, and it begins and ends with one. -/
inductive Tight : List Char → Prop
  | single {c : Char} (hc : isBlank c = false) : Tight [c]
  | cons {c : Char} {cs : List Char} (hc : isBlank c = false) (hcs : Tight cs) : Tight (c :: cs)
  | space {c : Char} {cs : List Char} (hc : isBlank c = false) (hcs : Tight cs) :
      Tight (c :: ' ' :: cs)

namespace Tight

/-- A text without blanks is tight. -/
theorem of_forall_not {cs : List Char} (hne : cs ≠ []) (h : ∀ c ∈ cs, isBlank c = false) :
    Tight cs := by
  induction cs with
  | nil => exact absurd rfl hne
  | cons c cs ih =>
      cases cs with
      | nil => exact .single (h c (by simp))
      | cons d cs => exact .cons (h c (by simp)) (ih (by simp) fun x hx => h x (by simp_all))

/-- A name is tight. -/
theorem of_isName {cs : List Char} (h : isName cs) : Tight cs :=
  of_forall_not (ne_nil_of_isName h) (isBlank_eq_false_of_isName h)

theorem append {cs ds : List Char} (hcs : Tight cs) (hds : Tight ds) : Tight (cs ++ ds) := by
  induction hcs with
  | single hc => exact .cons hc hds
  | cons hc _ ih => exact .cons hc ih
  | space hc _ ih => exact .space hc ih

theorem append_space {cs ds : List Char} (hcs : Tight cs) (hds : Tight ds) :
    Tight (cs ++ ' ' :: ds) := by
  induction hcs with
  | single hc => exact .space hc hds
  | cons hc _ ih => exact .cons hc ih
  | space hc _ ih => exact .space hc ih

/-- Tight entries with commas between them. -/
theorem intercalate {entries : List (List Char)} (hne : entries ≠ [])
    (h : ∀ e ∈ entries, Tight e) : Tight (List.intercalate [',', ' '] entries) := by
  induction entries with
  | nil => exact absurd rfl hne
  | cons entry entries ih =>
      have hentry := h entry (by simp)
      cases entries with
      | nil =>
          rw [List.intercalate_singleton]
          exact hentry
      | cons next entries =>
          have hrest := ih (by simp) fun e he => h e (List.mem_cons_of_mem _ he)
          rw [List.intercalate_cons_cons, List.append_assoc]
          exact hentry.append (.space rfl hrest)

/-- **A list in brackets**, which may be empty. -/
theorem enclosed {entries : List (List Char)} (h : ∀ e ∈ entries, Tight e) {left right : Char}
    (hleft : isBlank left = false) (hright : isBlank right = false) :
    Tight (left :: (List.intercalate [',', ' '] entries ++ [right])) := by
  by_cases hne : entries = []
  · subst hne
    exact .cons hleft (.single hright)
  · exact .cons hleft ((intercalate hne h).append (.single hright))

theorem exists_cons {cs : List Char} (h : Tight cs) :
    ∃ c cs', cs = c :: cs' ∧ isBlank c = false := by
  cases h with
  | single hc => exact ⟨_, _, rfl, hc⟩
  | cons hc _ => exact ⟨_, _, rfl, hc⟩
  | space hc _ => exact ⟨_, _, rfl, hc⟩

theorem ne_nil {cs : List Char} (h : Tight cs) : cs ≠ [] := by
  obtain ⟨c, cs', rfl, -⟩ := h.exists_cons
  simp

theorem not_blank {cs : List Char} (h : Tight cs) : ¬ Blank cs := by
  obtain ⟨c, cs', rfl, hc⟩ := h.exists_cons
  intro hblank
  rw [hblank c (by simp)] at hc
  cases hc

/-- A tight text is bare. -/
theorem bare {cs : List Char} (h : Tight cs) : Bare cs := by
  refine ⟨?_, ?_⟩
  · obtain ⟨c, cs', rfl, hc⟩ := h.exists_cons
    simpa using hc
  · induction h with
    | single hc => simpa using hc
    | cons hc hcs ih =>
        obtain ⟨d, ds, rfl, -⟩ := hcs.exists_cons
        rwa [List.getLast?_cons_cons]
    | space hc hcs ih =>
        obtain ⟨d, ds, rfl, -⟩ := hcs.exists_cons
        rwa [List.getLast?_cons_cons, List.getLast?_cons_cons]

/-- **Squeezing leaves a tight text as it is.** -/
theorem squeeze_eq {cs : List Char} (h : Tight cs) : squeeze cs = cs := by
  induction h with
  | @single c hc =>
      have hpieces : pieces isBlank [c] = [[c]] := pieces_of_forall_not (by simpa using hc)
      rw [squeeze, words, hpieces]
      rfl
  | @cons c cs hc hcs ih =>
      obtain ⟨d, ds, rfl, hd⟩ := hcs.exists_cons
      rw [squeeze_cons_cons hc hd, ih]
  | space hc hcs ih => rw [squeeze_cons_space hc hcs.not_blank, ih]

end Tight

/-! ## Texts of word characters and marks -/

/-- **A text of word characters and marks.** -/
def Consists (marks cs : List Char) : Prop :=
  ∀ c ∈ cs, isWordChar c = true ∨ c ∈ marks

section

variable {marks cs ds : List Char}

theorem consists_nil : Consists marks [] := by
  simp [Consists]

theorem consists_of_isName (h : isName cs) : Consists marks cs := by
  intro c hc
  simp only [isName, Bool.and_eq_true, List.all_eq_true] at h
  exact .inl (h.2 c hc)

/-- Digits are word characters. -/
theorem consists_of_isDigit (h : ∀ c ∈ cs, c.isDigit = true ∨ c ∈ marks) : Consists marks cs := by
  refine fun c hc => (h c hc).imp_left fun hdigit => ?_
  have hrange : 48 ≤ c.val ∧ c.val ≤ 57 := by simpa [Char.isDigit] using hdigit
  have hcode : c.toNat ≤ 57 := hrange.2
  exact isWordChar_of_isAlphanum (by simp [Char.isAlphanum, hdigit]) (by omega)

theorem consists_append (hcs : Consists marks cs) (hds : Consists marks ds) :
    Consists marks (cs ++ ds) := by
  intro c hc
  exact (List.mem_append.1 hc).elim (hcs c) (hds c)

theorem consists_cons {mark : Char} (hmark : mark ∈ marks) (hcs : Consists marks cs) :
    Consists marks (mark :: cs) := by
  intro c hc
  rcases List.mem_cons.1 hc with rfl | hc
  · exact .inr hmark
  · exact hcs c hc

/-- A word and a space before a text. -/
theorem consists_word (hcs : isName cs) (hspace : ' ' ∈ marks) (hds : Consists marks ds) :
    Consists marks (cs ++ ' ' :: ds) :=
  consists_append (consists_of_isName hcs) (consists_cons hspace hds)

theorem Consists.mono {marks' : List Char} (h : Consists marks cs) (hmarks : marks ⊆ marks') :
    Consists marks' cs := by
  intro c hc
  exact (h c hc).imp_right (@hmarks c)

theorem consists_intercalate (hcomma : ',' ∈ marks) (hspace : ' ' ∈ marks)
    {entries : List (List Char)} (h : ∀ e ∈ entries, Consists marks e) :
    Consists marks (List.intercalate [',', ' '] entries) := by
  induction entries with
  | nil => exact consists_nil
  | cons entry entries ih =>
      cases entries with
      | nil =>
          rw [List.intercalate_singleton]
          exact h entry (by simp)
      | cons next entries =>
          rw [List.intercalate_cons_cons, List.append_assoc]
          have hrest := ih fun e he => h e (List.mem_cons_of_mem _ he)
          exact consists_append (h entry (by simp))
            (consists_cons hcomma (consists_cons hspace hrest))

/-- Another mark is not in the text. -/
theorem Consists.not_mem (h : Consists marks cs) {c : Char} (hword : isWordChar c = false)
    (hmark : c ∉ marks) : c ∉ cs := by
  intro hc
  rcases h c hc with hc | hc
  · rw [hword] at hc
    cases hc
  · exact hmark hc

/-- Without a mark that is a blank, the text has no blanks. -/
theorem Consists.forall_not_isBlank (h : Consists marks cs)
    (hmarks : ∀ c ∈ marks, isBlank c = false) : ∀ c ∈ cs, isBlank c = false := by
  intro c hc
  by_contra hblank
  have hblank : isBlank c = true := by simpa using hblank
  rcases h c hc with hword | hmark
  · rw [isWordChar_eq_false_of_isBlank hblank] at hword
    cases hword
  · rw [hmarks c hmark] at hblank
    cases hblank

end

end ScriptBindings.Text
