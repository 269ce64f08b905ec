import ScriptBindings.Constant.Literal
import ScriptBindings.Description.Literal
import ScriptBindings.Proofs.Number.Integer
import ScriptBindings.Proofs.Text.Tight
import ScriptBindings.Proofs.Traversal

/-!
# Values that can be written down

A truth value, an integer or a group of such has a text that is read back as the value.

* `Initializer.Simple`, `Initializer.Printable` — the values.
* `Initializer.text` — their texts.
* `Initializer.read_text` — reading the text of a value gives the value.
-/

namespace ScriptBindings

open ScriptBindings.Text Traversal

namespace Initializer

/-- **A simple value**: a truth value, or an integer with no more digits than a numeral can have. -/
inductive Simple : Initializer → Prop
  | bool (b : Bool) : Simple (bool b)
  | int {n : Int} (short : (Nat.toDigits 10 n.natAbs).length ≤ Numeral.maxDecimalDigits) :
      Simple (int n)

/-- **A printable value**: a simple one, or a group of simple ones. -/
inductive Printable : Initializer → Prop
  | simple {value : Initializer} (simple : Simple value) : Printable value
  | group {items : List Initializer} (simple : ∀ value ∈ items, Simple value) :
      Printable (group items)

/-- The text of a simple value. -/
def simpleText : Initializer → List Char
  | bool b => (boolLiteral b).toList
  | int n => (toString n).toList
  | _ => []

/-- **The text of a value.** -/
def text : Initializer → List Char
  | group items => '{' :: (List.intercalate [',', ' '] (items.map simpleText) ++ ['}'])
  | value => value.simpleText

variable {value : Initializer}

theorem Simple.consists (h : Simple value) : Consists ['-'] value.simpleText := by
  cases h with
  | bool b => cases b <;> exact consists_of_isName (by decide)
  | @int n short =>
      refine consists_of_isDigit fun c hc => ?_
      exact (Numeral.isDigit_or_of_mem_toString hc).imp_right List.mem_singleton.2

theorem Simple.text_ne_nil (h : Simple value) : value.simpleText ≠ [] := by
  cases h with
  | bool b => cases b <;> decide
  | @int n short =>
      rw [simpleText, Numeral.toList_toString]
      split
      · exact Nat.toDigits_ne_nil
      · simp

theorem Simple.tight (h : Simple value) : Tight value.simpleText :=
  .of_forall_not h.text_ne_nil (h.consists.forall_not_isBlank (List.forall_mem_singleton.2 rfl))

/-- **A text of digits and signs** is read as a number, also with blanks before it. -/
theorem readWithin_of_readNumber? {text gap : List Char}
    (hdigits : ∀ c ∈ text, c.isDigit = true ∨ c = '-') (hgap : Blank gap)
    (h : readNumber? text = some value) (depth : Nat) :
    readWithin (depth + 1) (gap ++ text) = .ok value := by
  have hnot {c : Char} (hdigit : c.isDigit = false) (hsign : c ≠ '-') : c ∉ text := by
    intro hc
    rcases hdigits c hc with hc | rfl
    · rw [hdigit] at hc
      cases hc
    · exact hsign rfl
  have hconsists : Consists ['-'] text :=
    consists_of_isDigit fun c hc => (hdigits c hc).imp_right List.mem_singleton.2
  have hbare := bare_of_forall_not
    (hconsists.forall_not_isBlank (List.forall_mem_singleton.2 rfl))
  have htrim : trim (gap ++ text) = text :=
    trim_eq_iff.2 ⟨gap, [], by simp, hgap, blank_nil, hbare⟩
  have htrue : text ≠ "true".toList :=
    (ne_of_mem_of_not_mem' (by decide : 't' ∈ "true".toList) (hnot rfl (by decide))).symm
  have hfalse : text ≠ "false".toList :=
    (ne_of_mem_of_not_mem' (by decide : 'f' ∈ "false".toList) (hnot rfl (by decide))).symm
  have hinside : inside? text = none := by
    unfold inside?
    split
    · exact absurd (by simp) (hnot (rfl : '{'.isDigit = false) (by decide))
    · rfl
  rw [readWithin, htrim]
  dsimp only
  rw [if_neg htrue, if_neg hfalse, hinside, h]

/-- **A simple value is read back**, also with blanks before it. -/
theorem readWithin_simpleText (h : Simple value) {gap : List Char} (hgap : Blank gap)
    (depth : Nat) :
    readWithin (depth + 1) (gap ++ value.simpleText) = .ok value := by
  cases h with
  | bool b =>
      have htrim : trim (gap ++ (bool b).simpleText) = (bool b).simpleText :=
        trim_eq_iff.2 ⟨gap, [], by simp, hgap, blank_nil, (Simple.bool b).tight.bare⟩
      rw [readWithin, htrim]
      cases b <;> rfl
  | @int n short =>
      have hnumber : readNumber? (int n).simpleText = some (int n) := by
        rw [simpleText, readNumber?, Numeral.readInteger?_toString short]
      exact readWithin_of_readNumber? (fun _ hc => Numeral.isDigit_or_of_mem_toString hc) hgap
        hnumber depth

/-- **The entries of a group** are read back one by one. -/
theorem readEntries {items : List Initializer} (h : ∀ value ∈ items, Simple value) (depth : Nat) :
    ((pieces (· == ',') (List.intercalate [',', ' '] (items.map simpleText))).filter
        fun entry => trim entry ≠ []).mapM (readWithin (depth + 1)) = .ok items := by
  cases items with
  | nil => rfl
  | cons item items =>
      have hcomma : ∀ e ∈ (item :: items).map simpleText, ',' ∉ e := by
        intro e he
        obtain ⟨value, hvalue, rfl⟩ := List.mem_map.1 he
        exact (h value hvalue).consists.not_mem (by decide) (by decide)
      rw [List.map_cons, pieces_intercalate hcomma, List.map_map]
      have hread : List.Forall₂ (fun entry value => readWithin (depth + 1) entry = .ok value)
          (item.simpleText :: items.map fun value => ' ' :: value.simpleText) (item :: items) := by
        refine .cons (readWithin_simpleText (h item (by simp)) blank_nil depth) ?_
        rw [List.forall₂_map_left_iff, List.forall₂_same]
        intro value hvalue
        exact readWithin_simpleText (h value (by simp [hvalue])) (by decide : Blank [' ']) depth
      have hfilter : ∀ entry ∈ item.simpleText :: items.map fun value => ' ' :: value.simpleText,
          trim entry ≠ [] := by
        intro entry hentry hnil
        rw [trim_eq_nil_iff] at hnil
        rcases List.mem_cons.1 hentry with rfl | hentry
        · exact (h item (by simp)).tight.not_blank hnil
        · obtain ⟨value, hvalue, rfl⟩ := List.mem_map.1 hentry
          exact (h value (by simp [hvalue])).tight.not_blank fun c hc => hnil c (by simp [hc])
      rw [List.filter_eq_self.2 (by simpa using hfilter)]
      exact mapM_eq_ok_iff.2 hread

/-- The text of a simple value is that of the value. -/
theorem Simple.text_eq (h : Simple value) : value.text = value.simpleText := by
  cases h <;> rfl

theorem Printable.tight (h : Printable value) : Tight value.text := by
  cases h with
  | simple h =>
      rw [h.text_eq]
      exact h.tight
  | @group items h =>
      refine Tight.enclosed ?_ rfl rfl
      intro e he
      obtain ⟨value, hvalue, rfl⟩ := List.mem_map.1 he
      exact (h value hvalue).tight

theorem Printable.consists (h : Printable value) :
    Consists ['-', '{', '}', ',', ' '] value.text := by
  cases h with
  | simple h =>
      rw [h.text_eq]
      exact h.consists.mono (by simp)
  | @group items h =>
      refine consists_cons (by simp) (consists_append ?_ (consists_cons (by simp) consists_nil))
      refine consists_intercalate (by simp) (by simp) ?_
      intro e he
      obtain ⟨value, hvalue, rfl⟩ := List.mem_map.1 he
      exact (h value hvalue).consists.mono (by simp)

/-- **A printable value is read back.** -/
theorem read_text (h : Printable value) : read value.text = .ok value := by
  unfold read
  cases h with
  | simple h =>
      rw [h.text_eq]
      exact readWithin_simpleText h blank_nil _
  | @group items h =>
      have hbare := (Printable.group h).tight.bare
      have hinside : inside? (group items).text =
          some (List.intercalate [',', ' '] (items.map simpleText)) := by
        simp [inside?, text]
      have htrue : (group items).text ≠ "true".toList := by simp [text]
      have hfalse : (group items).text ≠ "false".toList := by simp [text]
      obtain ⟨depth, hdepth⟩ : ∃ depth, (group items).text.length = depth + 1 := ⟨_, rfl⟩
      rw [hdepth, readWithin, trim_eq_self hbare]
      dsimp only
      rw [if_neg htrue, if_neg hfalse, hinside]
      dsimp only
      rw [readEntries h]
      rfl

end Initializer

end ScriptBindings
