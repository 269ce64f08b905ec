import Mathlib.Data.List.TakeWhile
import ScriptBindings.Text.Blank
import ScriptBindings.Text.Word

/-!
# Texts taken apart

The operations of `ScriptBindings.Text` take a text apart by dropping and taking characters from
either end.  Here each of them is turned into a statement about how the text is put together.

* `takeWhile_and_dropWhile_iff` — a run of characters at the start and what follows it.
* `trim_eq_iff` — a text without the blanks at its ends.
* `splitLastWord?_eq_some_iff` — the last word and what stands before it.
* `squeeze_eq_nil_iff` — the texts that nothing is left of.
* `isWordChar_eq_false_of_isBlank` — no blank is part of a name.

A text is *blank* if all its characters are (`Blank`), and *bare* if it neither begins nor ends with
a blank (`Bare`).
-/

namespace ScriptBindings.Text

/-- **A run at the start** of a text, as long as it can be, and what follows it. -/
theorem takeWhile_and_dropWhile_iff {p : Char → Bool} {cs run rest : List Char} :
    cs.takeWhile p = run ∧ cs.dropWhile p = rest ↔
      cs = run ++ rest ∧ (∀ c ∈ run, p c = true) ∧ ∀ c ∈ rest.head?, p c = false := by
  constructor
  · rintro ⟨rfl, rfl⟩
    refine ⟨List.takeWhile_append_dropWhile.symm, fun c hc => List.mem_takeWhile_imp hc, ?_⟩
    intro c hc
    have hnot := List.head?_dropWhile_not p cs
    rw [Option.mem_def.1 hc] at hnot
    exact hnot
  · rintro ⟨rfl, hrun, hrest⟩
    rw [List.takeWhile_append_of_pos hrun, List.dropWhile_append_of_pos hrun]
    cases rest with
    | nil => simp
    | cons c rest =>
        have hc : p c = false := hrest c (by simp)
        simp [hc]

/-! ## Blank and bare texts -/

/-- **A blank text**: nothing but blanks. -/
def Blank (cs : List Char) : Prop :=
  ∀ c ∈ cs, isBlank c = true

/-- **A bare text**: no blank at its start and none at its end. -/
def Bare (cs : List Char) : Prop :=
  (∀ c ∈ cs.head?, isBlank c = false) ∧ ∀ c ∈ cs.getLast?, isBlank c = false

instance (cs : List Char) : Decidable (Blank cs) :=
  decidable_of_iff (cs.all isBlank = true) List.all_eq_true

theorem blank_nil : Blank [] := by
  simp [Blank]

theorem blank_append_iff {cs ds : List Char} : Blank (cs ++ ds) ↔ Blank cs ∧ Blank ds := by
  simp [Blank, or_imp, forall_and]

theorem Blank.not_mem {cs : List Char} (h : Blank cs) {c : Char} (hc : isBlank c = false) :
    c ∉ cs := by
  intro hmem
  rw [h c hmem] at hc
  cases hc

theorem blank_reverse_iff {cs : List Char} : Blank cs.reverse ↔ Blank cs := by
  simp [Blank]

theorem bare_nil : Bare [] := by
  simp [Bare]

/-- A text without blanks is bare. -/
theorem bare_of_forall_not {cs : List Char} (h : ∀ c ∈ cs, isBlank c = false) : Bare cs :=
  ⟨fun c hc => h c (List.mem_of_mem_head? hc), fun c hc => h c (List.mem_of_mem_getLast? hc)⟩

/-! ## Trimming -/

theorem trimLeft_eq_iff {cs rest : List Char} :
    trimLeft cs = rest ↔
      ∃ before, cs = before ++ rest ∧ Blank before ∧ ∀ c ∈ rest.head?, isBlank c = false := by
  constructor
  · intro h
    exact ⟨_, takeWhile_and_dropWhile_iff.1 ⟨rfl, h⟩⟩
  · rintro ⟨before, h⟩
    exact (takeWhile_and_dropWhile_iff.2 h).2

theorem trimRight_eq_iff {cs rest : List Char} :
    trimRight cs = rest ↔
      ∃ after, cs = rest ++ after ∧ Blank after ∧ ∀ c ∈ rest.getLast?, isBlank c = false := by
  have hreverse : trimRight cs = rest ↔ trimLeft cs.reverse = rest.reverse := by
    rw [trimRight, ← trimLeft, List.reverse_eq_iff]
  rw [hreverse, trimLeft_eq_iff]
  constructor
  · rintro ⟨before, h, hbefore, hrest⟩
    refine ⟨before.reverse, ?_, blank_reverse_iff.2 hbefore, by simpa using hrest⟩
    rw [← List.reverse_inj]
    simpa using h
  · rintro ⟨after, rfl, hafter, hrest⟩
    exact ⟨after.reverse, by simp, blank_reverse_iff.2 hafter, by simpa using hrest⟩

/-- **Trimming**: a text stands between blanks and has none at its own ends. -/
theorem trim_eq_iff {cs mid : List Char} :
    trim cs = mid ↔
      ∃ before after, cs = before ++ mid ++ after ∧ Blank before ∧ Blank after ∧ Bare mid := by
  rw [trim, trimRight_eq_iff]
  constructor
  · rintro ⟨after, h, hafter, hlast⟩
    obtain ⟨before, rfl, hbefore, hhead⟩ := trimLeft_eq_iff.1 h
    refine ⟨before, after, by simp, hbefore, hafter, ?_, hlast⟩
    intro c hc
    exact hhead c (by simpa using .inl hc)
  · rintro ⟨before, after, rfl, hbefore, hafter, hhead, hlast⟩
    cases mid with
    | nil =>
        -- nothing is left, and the blanks behind count as blanks in front
        refine ⟨[], trimLeft_eq_iff.2 ⟨before ++ after, by simp, ?_, by simp⟩, blank_nil, by simp⟩
        exact blank_append_iff.2 ⟨hbefore, hafter⟩
    | cons c mid =>
        refine ⟨after, trimLeft_eq_iff.2 ⟨before, by simp, hbefore, ?_⟩, hafter, hlast⟩
        simpa using hhead

/-- The text between the blanks that are trimmed. -/
theorem exists_trim (cs : List Char) :
    ∃ before after, cs = before ++ trim cs ++ after ∧ Blank before ∧ Blank after ∧
      Bare (trim cs) :=
  trim_eq_iff.1 rfl

theorem bare_trim (cs : List Char) : Bare (trim cs) := by
  obtain ⟨_, _, -, -, -, h⟩ := exists_trim cs
  exact h

/-- A bare text stays as it is. -/
theorem trim_eq_self {cs : List Char} (h : Bare cs) : trim cs = cs :=
  trim_eq_iff.2 ⟨[], [], by simp, blank_nil, blank_nil, h⟩

theorem trim_trim (cs : List Char) : trim (trim cs) = trim cs :=
  trim_eq_self (bare_trim cs)

/-- Nothing is left of blank texts only. -/
theorem trim_eq_nil_iff {cs : List Char} : trim cs = [] ↔ Blank cs := by
  rw [trim_eq_iff]
  constructor
  · rintro ⟨before, after, rfl, hbefore, hafter, -⟩
    simpa using blank_append_iff.2 ⟨hbefore, hafter⟩
  · intro h
    exact ⟨cs, [], by simp, h, blank_nil, bare_nil⟩

/-! ## The last word -/

/-- The last word is the same with and without blanks around the text. -/
theorem splitLastWord?_trim (cs : List Char) : splitLastWord? (trim cs) = splitLastWord? cs := by
  rw [splitLastWord?, trim_trim, splitLastWord?]

/-- The last word of the trimmed text, and the blanks that divide it from the text before it. -/
theorem splitLastWord?_eq_some_iff_trim {cs first last : List Char} :
    splitLastWord? cs = some (first, last) ↔
      ∃ gap, trim cs = first ++ gap ++ last ∧ (∀ c ∈ last, isBlank c = false) ∧
        Blank gap ∧ gap ≠ [] ∧ first ≠ [] ∧ ∀ c ∈ first.getLast?, isBlank c = false := by
  obtain ⟨word, rest, hword⟩ : ∃ word rest,
      (trim cs).reverse.takeWhile (!isBlank ·) = word ∧
        (trim cs).reverse.dropWhile (!isBlank ·) = rest := ⟨_, _, rfl, rfl⟩
  obtain ⟨gap, front, hgap⟩ : ∃ gap front,
      rest.takeWhile isBlank = gap ∧ rest.dropWhile isBlank = front := ⟨_, _, rfl, rfl⟩
  have hsplit : splitLastWord? cs = if front = [] then none
      else some (front.reverse, word.reverse) := by
    unfold splitLastWord?
    dsimp only
    rw [hword.1, hword.2, hgap.2]
  constructor
  · intro h
    rw [hsplit] at h
    split at h
    · cases h
    · rename_i hfront
      obtain ⟨rfl, rfl⟩ := Prod.mk.inj (Option.some.inj h)
      obtain ⟨hreverse, hwordChars, hwordEnd⟩ := takeWhile_and_dropWhile_iff.1 hword
      obtain ⟨rfl, hgapChars, hgapEnd⟩ := takeWhile_and_dropWhile_iff.1 hgap
      refine ⟨gap.reverse, ?_, ?_, blank_reverse_iff.2 hgapChars, ?_, by simpa using hfront, ?_⟩
      · rw [← List.reverse_inj, hreverse]
        simp
      · intro c hc
        simpa using hwordChars c (List.mem_reverse.1 hc)
      · -- the front begins with no blank, but the word stopped at one
        rintro hnil
        obtain rfl := List.reverse_eq_nil_iff.1 hnil
        obtain ⟨c, front, rfl⟩ := List.exists_cons_of_ne_nil hfront
        have hblank := hwordEnd c (by simp)
        rw [hgapEnd c (by simp)] at hblank
        cases hblank
      · simpa using hgapEnd
  · rintro ⟨gap', htrim, hlast, hblank, hne, hfirst, hend⟩
    have hreverse : (trim cs).reverse = last.reverse ++ (gap'.reverse ++ first.reverse) := by
      simp [htrim]
    have hstop : ∀ c ∈ (gap'.reverse ++ first.reverse).head?, (!isBlank c) = false := by
      intro c hc
      rw [List.head?_append, List.head?_reverse, List.getLast?_eq_some_getLast hne] at hc
      obtain rfl : gap'.getLast hne = c := by simpa using hc
      simpa using hblank _ (List.getLast_mem hne)
    have hword' := takeWhile_and_dropWhile_iff.2 ⟨hreverse, by simpa using hlast, hstop⟩
    obtain ⟨rfl, rfl⟩ : word = last.reverse ∧ rest = gap'.reverse ++ first.reverse :=
      ⟨hword.1.symm.trans hword'.1, hword.2.symm.trans hword'.2⟩
    have hgap' := takeWhile_and_dropWhile_iff.2 ⟨rfl, blank_reverse_iff.2 hblank,
      (by simpa using hend : ∀ c ∈ first.reverse.head?, isBlank c = false)⟩
    obtain rfl : front = first.reverse := hgap.2.symm.trans hgap'.2
    rw [hsplit, if_neg (by simpa using hfirst)]
    simp

/-- **The last word apart**: it has no blanks, and blanks divide it from a bare text before it. -/
theorem splitLastWord?_eq_some_iff {cs first last : List Char} :
    splitLastWord? cs = some (first, last) ↔
      ∃ before gap after, cs = before ++ (first ++ gap ++ last) ++ after ∧
        Blank before ∧ Blank gap ∧ Blank after ∧ gap ≠ [] ∧
        (first ≠ [] ∧ Bare first) ∧ last ≠ [] ∧ ∀ c ∈ last, isBlank c = false := by
  rw [splitLastWord?_eq_some_iff_trim]
  constructor
  · rintro ⟨gap, htrim, hlast, hgap, hne, hfirst, hend⟩
    obtain ⟨before, after, hcs, hbefore, hafter, hhead, htail⟩ := exists_trim cs
    rw [htrim] at hcs hhead htail
    refine ⟨before, gap, after, hcs, hbefore, hgap, hafter, hne, ⟨hfirst, ?_, hend⟩, ?_, hlast⟩
    · obtain ⟨c, first, rfl⟩ := List.exists_cons_of_ne_nil hfirst
      simpa using hhead
    · -- without a word the text would end with the blanks of the gap
      rintro rfl
      obtain ⟨c, hc⟩ := List.getLast?_isSome.2 hne |> Option.isSome_iff_exists.1
      have hnot := htail c (by simp [hc])
      rw [hgap c (List.mem_of_mem_getLast? hc)] at hnot
      cases hnot
  · rintro ⟨before, gap, after, rfl, hbefore, hgap, hafter, hne, ⟨hfirst, hbare⟩, hlast, hword⟩
    refine ⟨gap, trim_eq_iff.2 ⟨before, after, rfl, hbefore, hafter, ?_, ?_⟩, hword, hgap, hne,
      hfirst, hbare.2⟩
    · obtain ⟨c, first, rfl⟩ := List.exists_cons_of_ne_nil hfirst
      simpa using hbare.1
    · intro c hc
      rw [List.getLast?_append, List.getLast?_eq_some_getLast hlast] at hc
      obtain rfl : last.getLast hlast = c := by simpa using hc
      exact hword _ (List.getLast_mem hlast)

/-! ## Squeezing -/

/-- **Nothing but the separators is lost** when a text is cut. -/
theorem flatten_pieces (sep : Char → Bool) (cs : List Char) :
    (pieces sep cs).flatten = cs.filter (!sep ·) := by
  induction cs with
  | nil => rfl
  | cons c cs ih =>
      rw [pieces]
      split
      · rename_i hc
        simp [hc, ih]
      · rename_i hc
        split
        · rename_i hnil
          exact absurd hnil (pieces_ne_nil sep cs)
        · rename_i first rest heq
          rw [heq] at ih
          simpa [hc] using ih

theorem words_eq_nil_iff {cs : List Char} : words cs = [] ↔ Blank cs := by
  have hwords : words cs = [] ↔ (pieces isBlank cs).flatten = [] := by
    simp [words]
  rw [hwords, flatten_pieces]
  simp [Blank]

/-- Nothing is left of blank texts only. -/
theorem squeeze_eq_nil_iff {cs : List Char} : squeeze cs = [] ↔ Blank cs := by
  rw [← words_eq_nil_iff, squeeze]
  constructor
  · intro h
    cases hwords : words cs with
    | nil => rfl
    | cons word rest =>
        have hword : word ≠ [] := by
          have hmem : word ∈ words cs := by simp [hwords]
          simpa using (List.mem_filter.1 hmem).2
        rw [hwords] at h
        cases rest with
        | nil => exact absurd (List.intercalate_singleton.symm.trans h) hword
        | cons next rest => simp [List.intercalate_cons_cons] at h
  · intro h
    rw [h]
    rfl

/-! ## Words and blanks -/

/-- The code points of the blanks. -/
def blankCodes : List Nat :=
  List.range' 9 5 ++ List.range' 0x1C 5 ++ [0x85, 0xA0, 0x1680] ++ List.range' 0x2000 11 ++
    [0x2028, 0x2029, 0x202F, 0x205F, 0x3000]

theorem toNat_mem_blankCodes {c : Char} (h : isBlank c = true) : c.toNat ∈ blankCodes := by
  simp only [isBlank, Bool.or_eq_true, Bool.and_eq_true, decide_eq_true_eq, beq_iff_eq] at h
  simp only [blankCodes, List.mem_append, List.mem_range'_1, List.mem_cons, List.not_mem_nil,
    or_false]
  omega

/-- **No blank is a word character.** -/
theorem isWordChar_eq_false_of_isBlank {c : Char} (h : isBlank c = true) :
    isWordChar c = false := by
  have hcodes : ∀ n ∈ blankCodes, isWordChar (Char.ofNat n) = false := by decide +kernel
  have hc := hcodes c.toNat (toNat_mem_blankCodes h)
  rwa [Char.ofNat_toNat] at hc

theorem ne_nil_of_isName {cs : List Char} (h : isName cs) : cs ≠ [] := by
  rintro rfl
  cases h

/-- A name has no blanks. -/
theorem isBlank_eq_false_of_isName {cs : List Char} (h : isName cs) :
    ∀ c ∈ cs, isBlank c = false := by
  intro c hc
  have hword : isWordChar c = true := by
    simp only [isName, Bool.and_eq_true, List.all_eq_true] at h
    exact h.2 c hc
  by_contra hblank
  rw [isWordChar_eq_false_of_isBlank (by simpa using hblank)] at hword
  cases hword

end ScriptBindings.Text
