/-!
# Capital letters

Names of handle types are recognised by their capitals, letter by letter.  Beyond ASCII, two letters
have an ASCII letter as their capital, the long s and the dotless i; the sharp s, the ligatures and
some letters with a mark have a capital form of two or three characters with ASCII letters in it.
-/

namespace ScriptBindings.Text

/-- **The capital forms of more than one character** that have an ASCII letter in them. -/
def longCapitals : List (Char × String) :=
  [('ß', "SS"), ('ŉ', "ʼN"), ('ǰ', "J\u030c"), ('ẖ', "H\u0331"), ('ẗ', "T\u0308"), ('ẘ', "W\u030a"),
    ('ẙ', "Y\u030a"), ('ẚ', "Aʾ"), ('ﬀ', "FF"), ('ﬁ', "FI"), ('ﬂ', "FL"), ('ﬃ', "FFI"),
    ('ﬄ', "FFL"), ('ﬅ', "ST"), ('ﬆ', "ST")]

theorem mem_longCapitals_of_lookup {c : Char} {letters : String}
    (h : longCapitals.lookup c = some letters) : (c, letters) ∈ longCapitals := by
  obtain ⟨before, after, heq, -⟩ := List.lookup_eq_some_iff.1 h
  rw [heq]
  exact List.mem_append_right before List.mem_cons_self

/-- **The capital form of a character**, if there is an ASCII letter in it; every other character
stands for itself. -/
def capital (c : Char) : List Char :=
  if c = 'ſ' then ['S']
  else if c = 'ı' then ['I']
  else match longCapitals.lookup c with
    | some letters => letters.toList
    | none => [c.toUpper]

/-- **A capital form** is a long one, or that of one of the two letters beyond ASCII, or a
capital. -/
theorem capital_cases (c : Char) :
    (∃ letters, (c, letters) ∈ longCapitals ∧ capital c = letters.toList) ∨
      (c = 'ſ' ∧ capital c = ['S']) ∨ (c = 'ı' ∧ capital c = ['I']) ∨ capital c = [c.toUpper] := by
  rw [capital]
  split
  · exact .inr (.inl ⟨‹_›, rfl⟩)
  split
  · exact .inr (.inr (.inl ⟨‹_›, rfl⟩))
  split
  · rename_i letters hlookup
    exact .inl ⟨letters, mem_longCapitals_of_lookup hlookup, rfl⟩
  · exact .inr (.inr (.inr rfl))

/-- A text in capitals. -/
def capitals (s : String) : String :=
  String.ofList (s.toList.flatMap capital)

end ScriptBindings.Text
