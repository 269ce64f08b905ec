/-!
# Comments in a description

A line comment runs from `//` to the end of its line, a block comment from `/*` to the next `*/`.
Line comments are taken out first, the block comments out of what is left.

* `Comments.dropLines`, `Comments.dropBlocks` — the two passes.
* `Comments.remove` — one after the other.
-/

namespace ScriptBindings.Comments

/-- **A text without line comments.**  `inside` says whether the text begins in one; the newline
that ends a comment stays. -/
def dropLinesFrom (inside : Bool) : List Char → List Char
  | [] => []
  | '\n' :: cs => '\n' :: dropLinesFrom false cs
  | '/' :: '/' :: cs => dropLinesFrom true cs
  | c :: cs => if inside then dropLinesFrom true cs else c :: dropLinesFrom false cs

/-- A text without its line comments. -/
def dropLines (cs : List Char) : List Char :=
  dropLinesFrom false cs

/-- **Whether a block comment ends** in a text: it has the closing mark somewhere. -/
def closes : List Char → Bool
  | [] => false
  | '*' :: '/' :: _ => true
  | _ :: cs => closes cs

/-- **A text without block comments.**  `inside` says whether the text begins in one.  An opening
mark that no closing mark follows is ordinary text. -/
def dropBlocksFrom : Bool → List Char → List Char
  | _, [] => []
  | true, '*' :: '/' :: cs => dropBlocksFrom false cs
  | true, _ :: cs => dropBlocksFrom true cs
  | false, '/' :: '*' :: cs =>
      if closes cs then dropBlocksFrom true cs else '/' :: '*' :: dropBlocksFrom false cs
  | false, c :: cs => c :: dropBlocksFrom false cs

/-- A text without its block comments. -/
def dropBlocks (cs : List Char) : List Char :=
  dropBlocksFrom false cs

/-- **A text without comments.** -/
def remove (cs : List Char) : List Char :=
  dropBlocks (dropLines cs)

end ScriptBindings.Comments
