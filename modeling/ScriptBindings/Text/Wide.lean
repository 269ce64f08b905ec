import ScriptBindings.Files.Path
import ScriptBindings.Text.Quoted

/-!
# Wide texts

What a caller hands over as a text need not be one: it is a row of code points, and among them may
be surrogates, which stand for halves of characters in another encoding and for nothing alone.
Strings hold characters only, so a text from outside has a type of its own.

* `CodePoint`, `Wide` — characters and lone surrogates, and rows of them.
* `Wide.ofString`, `Wide.string?` — a string as a wide text, and the string that a wide text is.
* `Wide.shown`, `Wide.printed`, `Wide.quoted` — strings that stand for a wide text.
* `Wide.name` — the last part of the path that a text spells, as `Path.name` has it for strings
  (`Wide.name_ofString`).
* `Wide.unencodable?` — the first surrogates of a text, which keep it from being encoded.
-/

namespace ScriptBindings

/-- **A code point**: a character, or a lone surrogate by its number among the surrogates. -/
inductive CodePoint where
  | char (c : Char)
  | surrogate (number : Fin 2048)
deriving DecidableEq, Repr

namespace CodePoint

/-- Whether a code point is a surrogate. -/
def isSurrogate : CodePoint → Bool
  | char _ => false
  | surrogate _ => true

/-- **The character that is shown** for a code point: the replacement character for a surrogate. -/
def shown : CodePoint → Char
  | char c => c
  | surrogate _ => '\uFFFD'

/-- The escape of a surrogate: its code in hexadecimal digits. -/
def surrogateEscape (number : Fin 2048) : String :=
  "\\u" ++ Text.hexPadded 4 (0xD800 + number)

/-- A code point where nothing but characters can be printed. -/
def printed : CodePoint → String
  | char c => c.toString
  | surrogate number => surrogateEscape number

end CodePoint

/-- **Why a text cannot be encoded**: the place of the first surrogate in it, its number, and how
many more stand right behind it. -/
structure Unencodable where
  position : Nat
  first : Fin 2048
  more : Nat
deriving DecidableEq, Repr

/-- The wording for a text that cannot be encoded. -/
def Unencodable.message (e : Unencodable) : String :=
  let which := match e.more with
    | 0 => " '" ++ CodePoint.surrogateEscape e.first ++ "' in position " ++ toString e.position
    | more => "s in position " ++ toString e.position ++ "-" ++ toString (e.position + more)
  "'utf-8' codec can't encode character" ++ which ++ ": surrogates not allowed"

/-- **A wide text.** -/
structure Wide where
  points : List CodePoint
deriving DecidableEq, Repr

namespace Wide

/-- A string as a wide text. -/
def ofString (s : String) : Wide :=
  ⟨s.toList.map .char⟩

instance : Append Wide where
  append w v := ⟨w.points ++ v.points⟩

/-- **The string that stands for a text**, with a replacement character for every surrogate. -/
def shown (w : Wide) : String :=
  String.ofList (w.points.map CodePoint.shown)

/-- **The string that a text is**, if it has no surrogate. -/
def string? (w : Wide) : Option String :=
  if w.points.any CodePoint.isSurrogate then none else some w.shown

/-- The string that is printed for a text, with an escape for every surrogate. -/
def printed (w : Wide) : String :=
  String.join (w.points.map CodePoint.printed)

/-- The text between quotes, as `Text.quoted` has it. -/
def quoted (w : Wide) : String :=
  let has (c : Char) : Bool := w.points.contains (.char c)
  let quote := if has '\'' && !has '"' then '"' else '\''
  let escape : CodePoint → String
    | .char c => Text.escape quote c
    | .surrogate number => CodePoint.surrogateEscape number
  quote.toString ++ String.join (w.points.map escape) ++ quote.toString

/-- Texts one after the other. -/
def join (ws : List Wide) : Wide :=
  ⟨ws.flatMap points⟩

/-- The parts between the slashes that mean something. -/
def partsOf (points : List CodePoint) : List (List CodePoint) :=
  (Text.pieces (· == .char '/') points).filter fun part => part ≠ [] && part ≠ [.char '.']

/-- **The last part of the path that a text spells**, which is empty if there is none. -/
def name (w : Wide) : Wide :=
  ⟨(partsOf w.points).getLast?.getD []⟩

/-- The first surrogates among code points, the first of which is at a position. -/
def firstSurrogates (position : Nat) : List CodePoint → Option Unencodable
  | [] => none
  | .char _ :: rest => firstSurrogates (position + 1) rest
  | .surrogate number :: rest =>
      some ⟨position, number, (rest.takeWhile CodePoint.isSurrogate).length⟩

/-- **What keeps a text from being encoded**, if anything does. -/
def unencodable? (w : Wide) : Option Unencodable :=
  firstSurrogates 0 w.points

theorem ext_points {w v : Wide} (h : w.points = v.points) : w = v := by
  cases w
  cases v
  exact congrArg Wide.mk h

@[simp] theorem points_append (w v : Wide) : (w ++ v).points = w.points ++ v.points := rfl

@[simp] theorem points_ofString (s : String) : (ofString s).points = s.toList.map .char := rfl

@[simp] theorem points_join (ws : List Wide) : (join ws).points = ws.flatMap points := rfl

/-! ## Strings among the wide texts -/

/-- A string is shown as it is. -/
@[simp] theorem shown_ofString (s : String) : (ofString s).shown = s := by
  have hshown : CodePoint.shown ∘ CodePoint.char = id := rfl
  rw [shown, points_ofString, List.map_map, hshown, List.map_id, String.ofList_toList]

theorem ofString_injective {s s' : String} (h : ofString s = ofString s') : s = s' := by
  rw [← shown_ofString s, h, shown_ofString]

theorem ofString_append (s s' : String) : ofString (s ++ s') = ofString s ++ ofString s' :=
  ext_points (by simp)

/-- The parts of a string are those of its path. -/
theorem partsOf_map_char (cs : List Char) :
    partsOf (cs.map .char) = (Path.partsOf cs).map fun part => part.toList.map .char := by
  have hsep : (fun p => p == CodePoint.char '/') ∘ CodePoint.char = (· == '/') := by
    funext c
    rw [Bool.eq_iff_iff]
    simp
  have hkept (part : List Char) :
      (part.map CodePoint.char ≠ [] && part.map CodePoint.char ≠ [CodePoint.char '.']) =
        (String.ofList part ≠ "" && String.ofList part ≠ ".") := by
    have hpoint : String.ofList part = String.ofList ['.'] ↔ part = ['.'] := String.ofList_inj
    rw [Bool.eq_iff_iff]
    simp [hpoint, List.map_eq_cons_iff]
  rw [partsOf, Path.partsOf, Text.pieces_map, hsep]
  simp only [List.filter_map, List.map_map, Function.comp_def, hkept, String.toList_ofList]

/-- The last part of a string is the name of its path. -/
theorem name_ofString (s : String) : (ofString s).name = ofString (Path.ofString s).name := by
  refine ext_points ?_
  rw [name, points_ofString, points_ofString, partsOf_map_char, List.getLast?_map, Path.name]
  show _ = (((Path.partsOf s.toList).getLast?.getD "").toList.map _)
  cases (Path.partsOf s.toList).getLast? <;> rfl

/-! ## Surrogates -/

theorem firstSurrogates_eq_none_iff {position : Nat} {points : List CodePoint} :
    firstSurrogates position points = none ↔ ∀ p ∈ points, p.isSurrogate = false := by
  induction points generalizing position with
  | nil => simp [firstSurrogates]
  | cons p points ih =>
      cases p with
      | char c => simp [firstSurrogates, ih, CodePoint.isSurrogate]
      | surrogate number => simp [firstSurrogates, CodePoint.isSurrogate]

/-- **A text can be encoded** exactly if it has no surrogate. -/
theorem unencodable?_eq_none_iff {w : Wide} :
    w.unencodable? = none ↔ ∀ p ∈ w.points, p.isSurrogate = false :=
  firstSurrogates_eq_none_iff

@[simp] theorem unencodable?_ofString (s : String) : (ofString s).unencodable? = none := by
  simp [unencodable?_eq_none_iff, CodePoint.isSurrogate]

end Wide

end ScriptBindings
