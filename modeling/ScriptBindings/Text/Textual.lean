import ScriptBindings.Text.Wide

/-!
# Texts from outside

The name of a source file and that of a base class come from outside, so the lines of a generated
file may hold what no string can.  What is generated is the same for strings and for wide texts,
and `Textual` is what it needs of them: every text is a wide text, and what is done with it is
done with that.

* `Textual` — strings, and wide texts; strings stand among the latter by coercion.
* `Textual.points` — the code points of a text, by which texts are compared (`Textual.ext`).
* `bytesOfText`, `Textual.written` — the bytes of a string, and what a file holds once a text has
  been written to it.
-/

namespace ScriptBindings

/-- **A type of texts**, with a place for each of them among the wide texts. -/
class Textual (τ : Type) [Append τ] where
  /-- A text as a wide text, by which it is told from all others. -/
  wide : τ → Wide
  /-- A string as a text. -/
  ofString : String → τ
  /-- Texts one after the other. -/
  join : List τ → τ
  /-- Whether there is nothing in a text. -/
  isEmpty : τ → Bool
  /-- The string that stands for a text. -/
  shown : τ → String
  /-- The last part of the path that a text spells, which is empty if there is none. -/
  name : τ → τ
  /-- What keeps a text from being encoded, if anything does. -/
  unencodable? : τ → Option Unencodable
  wide_injective {t t' : τ} : wide t = wide t' → t = t'
  wide_ofString (s : String) : wide (ofString s) = Wide.ofString s
  wide_append (t t' : τ) : wide (t ++ t') = wide t ++ wide t'
  wide_join (ts : List τ) : wide (join ts) = Wide.join (ts.map wide)
  wide_name (t : τ) : wide (name t) = (wide t).name
  isEmpty_eq (t : τ) : isEmpty t = (wide t).points.isEmpty
  shown_eq (t : τ) : shown t = (wide t).shown
  unencodable?_eq (t : τ) : unencodable? t = (wide t).unencodable?

namespace Textual

instance : Textual Wide where
  wide w := w
  ofString := Wide.ofString
  join := Wide.join
  isEmpty w := w.points.isEmpty
  shown := Wide.shown
  name := Wide.name
  unencodable? := Wide.unencodable?
  wide_injective h := h
  wide_ofString _ := rfl
  wide_append _ _ := rfl
  wide_join ws := by rw [List.map_id']
  wide_name _ := rfl
  isEmpty_eq _ := rfl
  shown_eq _ := rfl
  unencodable?_eq _ := rfl

instance : Textual String where
  wide := Wide.ofString
  ofString s := s
  join := String.join
  isEmpty := String.isEmpty
  shown s := s
  name s := (Path.ofString s).name
  unencodable? _ := none
  wide_injective := Wide.ofString_injective
  wide_ofString _ := rfl
  wide_append := Wide.ofString_append
  wide_join ss := Wide.ext_points (by simp [List.map_flatMap, List.flatMap_map])
  wide_name s := (Wide.name_ofString s).symm
  isEmpty_eq s := by
    rw [Bool.eq_iff_iff, String.isEmpty_iff]
    simp
  shown_eq s := (Wide.shown_ofString s).symm
  unencodable?_eq s := (Wide.unencodable?_ofString s).symm

variable {τ : Type} [Append τ] [Textual τ]

instance : CoeTail String τ where
  coe := ofString

/-! ## Code points -/

/-- **The code points of a text.** -/
def points (t : τ) : List CodePoint :=
  (wide t).points

@[simp] theorem points_ofString (s : String) : points (ofString s : τ) = s.toList.map .char := by
  rw [points, wide_ofString, Wide.points_ofString]

@[simp] theorem points_append (t t' : τ) : points (t ++ t') = points t ++ points t' := by
  rw [points, wide_append, Wide.points_append]
  rfl

@[simp] theorem points_join (ts : List τ) : points (join ts) = ts.flatMap points := by
  rw [points, wide_join, Wide.points_join, List.flatMap_map]
  rfl

@[simp] theorem points_name (t : τ) :
    points (name t) = (Wide.partsOf (points t)).getLast?.getD [] := by
  rw [points, wide_name, Wide.name]
  rfl

/-- **Texts are told by their code points.** -/
theorem ext {t t' : τ} (h : points t = points t') : t = t' :=
  wide_injective (Wide.ext_points h)

theorem isEmpty_iff {t : τ} : isEmpty t = true ↔ t = ofString "" := by
  have hempty : points (ofString "" : τ) = [] := points_ofString ""
  rw [isEmpty_eq, List.isEmpty_iff]
  constructor
  · intro h
    exact ext (h.trans hempty.symm)
  · rintro rfl
    exact hempty

theorem ofString_inj {s s' : String} : (ofString s : τ) = ofString s' ↔ s = s' := by
  refine ⟨fun h => Wide.ofString_injective ?_, congrArg ofString⟩
  rw [← @wide_ofString τ, h, wide_ofString]

@[simp] theorem isEmpty_ofString (s : String) : isEmpty (ofString s : τ) = s.isEmpty := by
  rw [Bool.eq_iff_iff, isEmpty_iff, String.isEmpty_iff, ofString_inj]

theorem ofString_append (s s' : String) : (ofString (s ++ s') : τ) = ofString s ++ ofString s' :=
  ext (by simp)

theorem append_assoc (t t' t'' : τ) : t ++ t' ++ t'' = t ++ (t' ++ t'') :=
  ext (by simp)

theorem ofString_empty_append (t : τ) : ofString "" ++ t = t :=
  ext (by simp)

theorem append_ofString_empty (t : τ) : t ++ ofString "" = t :=
  ext (by simp)

/-! ## The string that stands for a text -/

@[simp] theorem shown_ofString (s : String) : shown (ofString s : τ) = s := by
  rw [shown_eq, wide_ofString, Wide.shown_ofString]

theorem ne_ofString_of_shown_ne {t : τ} {s : String} (h : shown t ≠ s) : t ≠ ofString s := by
  rintro rfl
  exact h (shown_ofString s)

@[simp] theorem shown_append (t t' : τ) : shown (t ++ t') = shown t ++ shown t' := by
  rw [shown_eq, wide_append, Wide.shown, Wide.points_append, List.map_append, String.ofList_append,
    shown_eq, shown_eq]
  rfl

@[simp] theorem toList_shown (t : τ) : (shown t).toList = (points t).map CodePoint.shown := by
  rw [shown_eq, Wide.shown, String.toList_ofList]
  rfl

/-! ## Whether a text can be encoded -/

/-- **A text can be encoded** exactly if it has no surrogate. -/
theorem unencodable?_eq_none_iff {t : τ} :
    unencodable? t = none ↔ ∀ p ∈ points t, p.isSurrogate = false := by
  rw [unencodable?_eq, Wide.unencodable?_eq_none_iff]
  rfl

/-- Strings can be encoded. -/
theorem unencodable?_ofString (s : String) : unencodable? (ofString s : τ) = none := by
  rw [unencodable?_eq, wide_ofString, Wide.unencodable?_ofString]

theorem unencodable?_append_iff {t t' : τ} :
    unencodable? (t ++ t') = none ↔ unencodable? t = none ∧ unencodable? t' = none := by
  simp only [unencodable?_eq_none_iff, points_append, List.forall_mem_append]

theorem unencodable?_join_iff {ts : List τ} :
    unencodable? (join ts) = none ↔ ∀ t ∈ ts, unencodable? t = none := by
  simp only [unencodable?_eq_none_iff, points_join, List.forall_mem_flatMap]

theorem unencodable?_of_isEmpty {t : τ} (h : isEmpty t = true) : unencodable? t = none := by
  rw [isEmpty_iff.1 h, unencodable?_ofString]

/-! ## Strings -/

/-- Strings as texts. -/
def ofStrings (strings : List String) : List τ :=
  strings.map ofString

@[simp] theorem ofStrings_nil : (ofStrings [] : List τ) = [] := rfl

@[simp] theorem ofStrings_cons (s : String) (strings : List String) :
    (ofStrings (s :: strings) : List τ) = ofString s :: ofStrings strings := rfl

@[simp] theorem ofStrings_append (strings strings' : List String) :
    (ofStrings (strings ++ strings') : List τ) = ofStrings strings ++ ofStrings strings' :=
  List.map_append

/-- What stands before a mark among strings, and from there on. -/
theorem takeWhile_ne_ofStrings [DecidableEq τ] (mark : String) (strings : List String) :
    (ofStrings strings : List τ).takeWhile (· ≠ ofString mark) =
      ofStrings (strings.takeWhile (· ≠ mark)) := by
  simp only [ofStrings, List.takeWhile_map, Function.comp_def, ne_eq, ofString_inj]

theorem dropWhile_ne_ofStrings [DecidableEq τ] (mark : String) (strings : List String) :
    (ofStrings strings : List τ).dropWhile (· ≠ ofString mark) =
      ofStrings (strings.dropWhile (· ≠ mark)) := by
  simp only [ofStrings, List.dropWhile_map, Function.comp_def, ne_eq, ofString_inj]

/-- Strings among texts are found by what they show. -/
theorem filter_shown_ofStrings (p : String → Bool) (strings : List String) :
    (ofStrings strings : List τ).filter (p ∘ shown) = ofStrings (strings.filter p) := by
  simp only [ofStrings, List.filter_map, Function.comp_def, shown_ofString]

@[simp] theorem ofString_string (s : String) : (ofString s : String) = s := rfl

@[simp] theorem ofStrings_string (strings : List String) :
    (ofStrings strings : List String) = strings :=
  List.map_id strings

@[simp] theorem isEmpty_string (s : String) : isEmpty s = s.isEmpty := rfl

@[simp] theorem shown_string (s : String) : shown s = s := rfl

@[simp] theorem name_string (s : String) : name s = (Path.ofString s).name := rfl

end Textual

/-! ## Texts in files -/

/-- The bytes of a string in a file. -/
def bytesOfText (text : String) : List UInt8 :=
  text.toUTF8.toList

/-- **What a file holds** once a text has been written to it: the bytes of the text, or none at all
if it cannot be encoded. -/
def Textual.written {τ : Type} [Append τ] [Textual τ] (text : τ) : List UInt8 :=
  match unencodable? text with
  | none => bytesOfText (shown text)
  | some _ => []

end ScriptBindings
