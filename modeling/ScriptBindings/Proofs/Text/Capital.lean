import Mathlib.Data.List.Forall2
import Mathlib.Data.List.Infix
import ScriptBindings.Text.Capital

/-!
# Texts with the same capitals

A text in ASCII letters is told by its capitals only up to the case of its letters, and not even up
to that: an s and an i share their capital with a letter beyond ASCII.

* `Alike` — a letter and a character with the same capital.
* `capital_eq_singleton_iff` — there are no others.
* `flatMap_capital_eq_iff` — so a text has the capitals of a name exactly if it is alike letter by
  letter, unless a capital form of several characters is part of them.
* `eq_of_alike` — a text in small ASCII letters is alike to itself only.
-/

namespace ScriptBindings.Text

/-- **A letter and a character with the same capital**: the letter itself, its capital, or one of
the two letters beyond ASCII. -/
inductive Alike : Char → Char → Prop
  | same (letter : Char) : Alike letter letter
  | capital (letter : Char) : Alike letter letter.toUpper
  | longS : Alike 's' 'ſ'
  | dotlessI : Alike 'i' 'ı'

/-! ## Letters -/

theorem isLower_iff {c : Char} : c.isLower = true ↔ 97 ≤ c.toNat ∧ c.toNat ≤ 122 := by
  show (decide (c.val ≥ 'a'.val) && decide (c.val ≤ 'z'.val)) = true ↔ _
  rw [Bool.and_eq_true, decide_eq_true_eq, decide_eq_true_eq]
  exact Iff.rfl

theorem isUpper_iff {c : Char} : c.isUpper = true ↔ 65 ≤ c.toNat ∧ c.toNat ≤ 90 := by
  show decide (c.val ≥ 'A'.val ∧ c.val ≤ 'Z'.val) = true ↔ _
  rw [decide_eq_true_eq]
  exact Iff.rfl

theorem toUpper_of_not_isLower {c : Char} (h : ¬ c.isLower) : c.toUpper = c :=
  dif_neg fun hrange => h (isLower_iff.2 hrange)

/-- **The capital of a small letter** comes 32 places before it. -/
theorem toNat_toUpper_of_isLower {c : Char} (h : c.isLower = true) :
    c.toUpper.toNat = c.toNat - 32 := by
  have hcode : 97 ≤ c.val.toNat := (isLower_iff.1 h).1
  have hrange : 'a'.val ≤ c.val ∧ c.val ≤ 'z'.val := isLower_iff.1 h
  have hupper : c.toUpper = _ := dif_pos hrange
  rw [hupper]
  show (c.val + ('A'.val - 'a'.val)).toNat = c.val.toNat - 32
  -- The distance is added modulo the size of a word.
  have hshift : ('A'.val - 'a'.val).toNat = 2 ^ 32 - 32 := by decide
  have hsize : c.val.toNat < 2 ^ 32 := c.val.toNat_lt
  rw [UInt32.toNat_add, hshift]
  omega

theorem isUpper_toUpper {c : Char} (h : c.isLower = true) : c.toUpper.isUpper = true := by
  have hlower := isLower_iff.1 h
  rw [isUpper_iff, toNat_toUpper_of_isLower h]
  omega

theorem toUpper_toUpper (c : Char) : c.toUpper.toUpper = c.toUpper := by
  by_cases h : c.isLower
  · refine toUpper_of_not_isLower fun hlower => ?_
    have hsmall := isLower_iff.1 hlower
    have hlarge := isUpper_iff.1 (isUpper_toUpper h)
    omega
  · rw [toUpper_of_not_isLower h, toUpper_of_not_isLower h]

theorem toNat_toUpper_le (c : Char) : c.toUpper.toNat ≤ c.toNat := by
  by_cases h : c.isLower
  · rw [toNat_toUpper_of_isLower h]
    omega
  · rw [toUpper_of_not_isLower h]

/-- **Characters that are no capitals** have different ones. -/
theorem eq_of_toUpper_eq {c d : Char} (hc : c.isUpper = false) (hd : d.isUpper = false)
    (h : c.toUpper = d.toUpper) : c = d := by
  by_cases hc' : c.isLower <;> by_cases hd' : d.isLower
  · have hcode := congrArg Char.toNat h
    rw [toNat_toUpper_of_isLower hc', toNat_toUpper_of_isLower hd'] at hcode
    have hlower := isLower_iff.1 hc'
    have hlower' := isLower_iff.1 hd'
    exact Char.toNat_inj.1 (by omega)
  · rw [toUpper_of_not_isLower hd'] at h
    rw [← h, isUpper_toUpper hc'] at hd
    cases hd
  · rw [toUpper_of_not_isLower hc'] at h
    rw [h, isUpper_toUpper hd'] at hc
    cases hc
  · rwa [toUpper_of_not_isLower hc', toUpper_of_not_isLower hd'] at h

/-- **An ASCII character and no capital** is alike to itself only. -/
theorem Alike.eq_of_ascii {letter c : Char} (h : Alike letter c) (hascii : c.toNat < 128)
    (hupper : c.isUpper = false) : letter = c := by
  cases h with
  | same => rfl
  | capital =>
      refine (toUpper_of_not_isLower fun hlower => ?_).symm
      rw [isUpper_toUpper hlower] at hupper
      cases hupper
  | longS => exact absurd hascii (by decide)
  | dotlessI => exact absurd hascii (by decide)

/-- The long capital forms are those of characters beyond ASCII. -/
theorem longCapitals_spec :
    ∀ entry ∈ longCapitals, 128 ≤ entry.1.toNat ∧ 2 ≤ entry.2.toList.length := by
  decide

/-- The capital form of an ASCII character is its capital. -/
theorem capital_of_ascii {c : Char} (h : c.toNat < 128) : capital c = [c.toUpper] := by
  rcases capital_cases c with ⟨_, mem, -⟩ | ⟨rfl, -⟩ | ⟨rfl, -⟩ | hc
  · exact absurd h (Nat.not_lt.2 (longCapitals_spec _ mem).1)
  · exact absurd h (by decide)
  · exact absurd h (by decide)
  · exact hc

/-- **The characters with the capital of a small letter**, or of another ASCII character that is no
capital. -/
theorem capital_eq_singleton_iff {letter c : Char} (hascii : letter.toNat < 128)
    (hupper : letter.isUpper = false) : capital c = [letter.toUpper] ↔ Alike letter c := by
  constructor
  · intro h
    rcases capital_cases c with ⟨letters, mem, hlong⟩ | ⟨rfl, hlong⟩ | ⟨rfl, hdotless⟩ | hcapital
    · have hlength := (longCapitals_spec _ mem).2
      rw [← hlong, h] at hlength
      simp at hlength
    · have hcapital : 's'.toUpper = letter.toUpper := List.singleton_inj.1 (hlong.symm.trans h)
      rw [← eq_of_toUpper_eq (by decide) hupper hcapital]
      exact .longS
    · have hcapital : 'i'.toUpper = letter.toUpper := List.singleton_inj.1 (hdotless.symm.trans h)
      rw [← eq_of_toUpper_eq (by decide) hupper hcapital]
      exact .dotlessI
    · have hc : c.toUpper = letter.toUpper := List.singleton_inj.1 (hcapital.symm.trans h)
      by_cases hlarge : c.isUpper
      · have hlower : ¬ c.isLower := fun hlower => by
          have hcode := isUpper_iff.1 hlarge
          have hcode' := isLower_iff.1 hlower
          omega
        rw [toUpper_of_not_isLower hlower] at hc
        rw [hc]
        exact .capital letter
      · rw [eq_of_toUpper_eq (by simpa using hlarge) hupper hc]
        exact .same letter
  · rintro (_ | _ | _ | _)
    · exact capital_of_ascii hascii
    · rw [capital_of_ascii ((toNat_toUpper_le letter).trans_lt hascii),
        toUpper_toUpper]
    · rfl
    · rfl

/-! ## Texts -/

/-- **No long capital form** is part of a text. -/
def NoLongForm (cs : List Char) : Prop :=
  ∀ entry ∈ longCapitals, ¬ entry.2.toList <:+: cs

instance (cs : List Char) : Decidable (NoLongForm cs) :=
  inferInstanceAs (Decidable (∀ entry ∈ longCapitals, _))

theorem NoLongForm.tail {c : Char} {cs : List Char} (h : NoLongForm (c :: cs)) : NoLongForm cs :=
  fun entry mem hpart => h entry mem (List.infix_cons hpart)

/-- **The texts with the capitals of a name** in small letters, if no long capital form is part of
those. -/
theorem flatMap_capital_eq_iff {letters cs : List Char}
    (hletters : ∀ letter ∈ letters, letter.toNat < 128 ∧ letter.isUpper = false)
    (hform : NoLongForm (letters.map Char.toUpper)) :
    cs.flatMap capital = letters.map Char.toUpper ↔ List.Forall₂ Alike letters cs := by
  induction cs generalizing letters with
  | nil => simp [eq_comm (a := [])]
  | cons c cs ih =>
      rw [List.flatMap_cons]
      constructor
      · intro h
        obtain ⟨d, hd⟩ : ∃ d, capital c = [d] := by
          rcases capital_cases c with ⟨_, mem, hc⟩ | ⟨-, hc⟩ | ⟨-, hc⟩ | hc
          · rw [hc] at h
            exact absurd ⟨[], cs.flatMap capital, h⟩ (hform _ mem)
          all_goals exact ⟨_, hc⟩
        rw [hd, List.singleton_append] at h
        cases letters with
        | nil => cases h
        | cons letter letters =>
            rw [List.forall_mem_cons] at hletters
            obtain ⟨rfl, hrest⟩ := List.cons.inj h
            exact .cons ((capital_eq_singleton_iff hletters.1.1 hletters.1.2).1 hd)
              ((ih hletters.2 hform.tail).1 hrest)
      · rintro (_ | ⟨halike, hrest⟩)
        rw [List.forall_mem_cons] at hletters
        rw [(capital_eq_singleton_iff hletters.1.1 hletters.1.2).2 halike,
          (ih hletters.2 hform.tail).2 hrest]
        rfl

/-- Texts that are alike are the same if the second one is in ASCII and without capitals. -/
theorem eq_of_alike {letters cs : List Char} (h : List.Forall₂ Alike letters cs)
    (hcs : ∀ c ∈ cs, c.toNat < 128 ∧ c.isUpper = false) : letters = cs := by
  induction h with
  | nil => rfl
  | cons halike _ ih =>
      rw [List.forall_mem_cons] at hcs
      rw [halike.eq_of_ascii hcs.1.1 hcs.1.2, ih hcs.2]

end ScriptBindings.Text
