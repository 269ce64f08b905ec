/-!
# Line ends

A text file may end its lines with a newline, with a carriage return, or with both.  Reading one as
text leaves newlines only.

* `unifyNewlines`, `ofFile?` — the text of a file.
* `Unifies` — what the text has to do with the characters of the file; `ofFile?_eq_some_iff`.
-/

namespace ScriptBindings.Text

/-- **A text with newlines only**: a carriage return, with the newline after it if there is one,
becomes a newline. -/
def unifyNewlines : List Char → List Char
  | [] => []
  | '\r' :: '\n' :: cs => '\n' :: unifyNewlines cs
  | '\r' :: cs => '\n' :: unifyNewlines cs
  | c :: cs => c :: unifyNewlines cs

/-- **The text of a file**, if its bytes are UTF-8. -/
def ofFile? (bytes : List UInt8) : Option String :=
  (String.fromUTF8? bytes.toByteArray).map fun text => String.ofList (unifyNewlines text.toList)

/-! ## The characters of the file -/

/-- **Texts that differ in their line ends**, the second of which has newlines only. -/
inductive Unifies : List Char → List Char → Prop
  | nil : Unifies [] []
  /-- A carriage return with a newline is one line end. -/
  | both {cs cs' : List Char} (h : Unifies cs cs') : Unifies ('\r' :: '\n' :: cs) ('\n' :: cs')
  /-- A carriage return alone is one too. -/
  | alone {cs cs' : List Char} (hnext : cs.head? ≠ some '\n') (h : Unifies cs cs') :
      Unifies ('\r' :: cs) ('\n' :: cs')
  | other {c : Char} {cs cs' : List Char} (hc : c ≠ '\r') (h : Unifies cs cs') :
      Unifies (c :: cs) (c :: cs')

theorem unifies_unifyNewlines (cs : List Char) : Unifies cs (unifyNewlines cs) := by
  fun_induction unifyNewlines cs with
  | case1 => exact .nil
  | case2 cs ih => exact .both ih
  | case3 cs hnext ih =>
      refine .alone ?_ ih
      intro hhead
      obtain ⟨rest, rfl⟩ := List.head?_eq_some_iff.1 hhead
      exact hnext rest rfl
  | case4 c cs _ hc ih => exact .other hc ih

theorem unifies_iff {cs cs' : List Char} : Unifies cs cs' ↔ cs' = unifyNewlines cs := by
  constructor
  · intro h
    induction h with
    | nil => rfl
    | both _ ih => rw [ih, unifyNewlines]
    | alone hnext _ ih =>
        rw [ih, unifyNewlines]
        rintro rest rfl
        exact hnext rfl
    | other hc _ ih =>
        rw [ih, unifyNewlines]
        · intro _ heq
          exact absurd heq hc
        · exact hc
  · rintro rfl
    exact unifies_unifyNewlines cs

theorem fromUTF8?_eq_some_iff {bytes : ByteArray} {raw : String} :
    String.fromUTF8? bytes = some raw ↔ raw.toUTF8 = bytes := by
  unfold String.fromUTF8?
  constructor
  · intro h
    split at h
    · cases h
      rfl
    · cases h
  · rintro rfl
    exact dif_pos raw.isValidUTF8

/-- **The text of a file** is what its bytes stand for in UTF-8, but for the line ends. -/
theorem ofFile?_eq_some_iff {bytes : List UInt8} {text : String} :
    ofFile? bytes = some text ↔
      ∃ raw : String, raw.toUTF8 = bytes.toByteArray ∧ Unifies raw.toList text.toList := by
  rw [ofFile?, Option.map_eq_some_iff]
  refine exists_congr fun raw => and_congr fromUTF8?_eq_some_iff ?_
  rw [unifies_iff, ← String.toList_inj, String.toList_ofList]
  exact eq_comm

end ScriptBindings.Text
