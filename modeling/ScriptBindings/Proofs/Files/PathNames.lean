import Mathlib.Data.List.Basic
import ScriptBindings.Proofs.Text.Tight
import ScriptBindings.Text.Textual

/-!
# The names that paths end in

A path is named by the last of its parts that means something.  What stands before that part does
not matter, nor do the slashes and single points behind it.  All of this is about code points, so it
holds of every type of texts.

* `Wide.partsOf_append_cons` — a slash divides the parts before it from those behind it.
* `Textual.Leads`, `Textual.Trails` — what may stand before a path, and what behind it, while it
  keeps its name (`Textual.name_around`).
* `Textual.name_ofString_of_slash_notMem` — a string without slashes is its own name, but for the
  single point, which has none.
* `Textual.slash_notMem_name`, `Path.slash_notMem_stem` — no name has a slash, with or without its
  suffix.
-/

namespace ScriptBindings

/-! ## Parts -/

namespace Wide

/-- **A slash divides the parts** before it from those behind it. -/
theorem partsOf_append_cons (ps qs : List CodePoint) :
    partsOf (ps ++ .char '/' :: qs) = partsOf ps ++ partsOf qs := by
  rw [partsOf, Text.pieces_append_cons (by simp), List.filter_append]
  rfl

theorem slash_notMem_of_mem_partsOf {ps part : List CodePoint} (h : part ∈ partsOf ps) :
    .char '/' ∉ part := by
  obtain ⟨h, -⟩ := List.mem_filter.1 h
  intro mem
  simpa using Text.sep_eq_false_of_mem_pieces h mem

end Wide

namespace Textual

variable {τ : Type} [Append τ] [Textual τ]

/-! ## Paths put together -/

/-- **What may lead to a path**: nothing, or any directory and a slash. -/
inductive Leads : τ → Prop
  | nothing : Leads (ofString "")
  | directory (directory : τ) : Leads (directory ++ "/")

/-- **What may trail behind a path**: slashes, and single points behind them. -/
inductive Trails : τ → Prop
  | nothing : Trails (ofString "")
  | slash {trail : τ} (h : Trails trail) : Trails (trail ++ "/")
  | point {trail : τ} (h : Trails trail) : Trails (trail ++ "/.")

/-- What trails behind a path adds no part to it. -/
theorem partsOf_append_of_trails {trail : τ} (h : Trails trail) (ps : List CodePoint) :
    Wide.partsOf (ps ++ points trail) = Wide.partsOf ps := by
  induction h with
  | nothing =>
      rw [points_ofString]
      exact congrArg _ (List.append_nil ps)
  | @slash trail _ ih =>
      rw [points_append, points_ofString, ← List.append_assoc]
      refine (Wide.partsOf_append_cons _ []).trans ?_
      rw [ih]
      exact List.append_nil _
  | @point trail _ ih =>
      rw [points_append, points_ofString, ← List.append_assoc]
      refine (Wide.partsOf_append_cons _ [.char '.']).trans ?_
      rw [ih]
      exact List.append_nil _

theorem partsOf_ne_nil_of_name {source : τ} (h : name source ≠ ofString "") :
    Wide.partsOf (points source) ≠ [] := by
  intro hparts
  exact h (ext (by rw [points_name, hparts, points_ofString]; rfl))

/-- **A path keeps its name**, wherever it is put and whatever trails behind it. -/
theorem name_around {front trail source : τ} (hfront : Leads front) (htrail : Trails trail)
    (h : name source ≠ ofString "") : name (front ++ source ++ trail) = name source := by
  refine ext ?_
  rw [points_name, points_name, points_append, partsOf_append_of_trails htrail]
  cases hfront with
  | nothing => rw [ofString_empty_append]
  | directory directory =>
      have hslash : points (directory ++ "/" ++ source) =
          points directory ++ .char '/' :: points source := by simp
      -- a source with a name has a last part, and this is the last of all
      rw [hslash, Wide.partsOf_append_cons,
        List.getLast?_append_of_ne_nil _ (partsOf_ne_nil_of_name h)]

/-! ## Names without slashes -/

theorem slash_notMem_name (t : τ) : .char '/' ∉ points (name t) := by
  rw [points_name]
  cases hlast : (Wide.partsOf (points t)).getLast? with
  | none => exact List.not_mem_nil
  | some part => exact Wide.slash_notMem_of_mem_partsOf (List.mem_of_getLast? hlast)

/-- **A string without slashes is its own name**, except for the single point. -/
theorem name_ofString_of_slash_notMem {s : String} (hslash : '/' ∉ s.toList) (hpoint : s ≠ ".") :
    name (ofString s : τ) = ofString s := by
  have hname : (Path.ofString s).name = s := by
    rw [Path.name, Path.ofString, Path.partsOf_of_slash_notMem hslash, String.ofList_toList]
    by_cases hempty : s = ""
    · rw [hempty]
      rfl
    · rw [List.filter_cons_of_pos (by simp [hempty, hpoint])]
      rfl
  refine wide_injective ?_
  rw [wide_name, wide_ofString, Wide.name_ofString, hname]

end Textual

namespace Path

theorem slash_notMem_name (s : String) : '/' ∉ (ofString s).name.toList := by
  have hname := Textual.slash_notMem_name s
  rwa [Textual.name_string, ← Textual.ofString_string (ofString s).name, Textual.points_ofString,
    List.mem_map_of_injective fun _ _ h => CodePoint.char.inj h] at hname

/-- Leaving out the suffix adds no character. -/
theorem mem_name_of_mem_stem {p : Path} {c : Char} (h : c ∈ p.stem.toList) : c ∈ p.name.toList := by
  simp only [stem] at h
  split at h
  · rename_i before heq
    split at h
    · exact h
    · have hsuffix := List.dropWhile_suffix (l := p.name.toList.reverse) (· != '.')
      rw [heq] at hsuffix
      rw [String.toList_ofList, List.mem_reverse] at h
      exact List.mem_reverse.1 (hsuffix.subset (List.mem_cons_of_mem _ h))
  · exact h

theorem slash_notMem_stem (s : String) : '/' ∉ (ofString s).stem.toList :=
  fun mem => slash_notMem_name s (mem_name_of_mem_stem mem)

end Path

end ScriptBindings
