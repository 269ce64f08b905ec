import ScriptBindings.Text.WordTable

/-!
# Word characters

Names of variables, kernels, functions and parameters are runs of word characters: letters and
numbers of any script and the underscore.
-/

namespace ScriptBindings.Text

/-- Whether a code point lies in one of the closed ranges. -/
def inRanges (ranges : List (Nat × Nat)) (n : Nat) : Bool :=
  ranges.any fun (first, last) => first ≤ n && n ≤ last

/-- **A word character**: a letter, a number or the underscore. -/
def isWordChar (c : Char) : Bool :=
  if c.toNat < 128 then c.isAlphanum || c == '_' else inRanges letterRanges c.toNat

theorem isWordChar_of_isAlphanum {c : Char} (h : c.isAlphanum = true) (hc : c.toNat < 128) :
    isWordChar c = true := by
  simp [isWordChar, hc, h]

/-- **A name** is a non-empty run of word characters. -/
def isName (cs : List Char) : Bool :=
  !cs.isEmpty && cs.all isWordChar

end ScriptBindings.Text
