import ScriptBindings.Description.Reader
import ScriptBindings.Proofs.Description.Passes
import ScriptBindings.Proofs.Text.Tight
import ScriptBindings.Proofs.Traversal
import ScriptBindings.Surface.Slots

/-!
# Descriptions one after the other

A description that is put before another one is read as if it were alone, and so is the other, as
long as nothing of the first one is left open at its end.

* `Complete` — a text with nothing left open: no line, no comment and no declaration.
* `split_append` — the declarations of a complete text and another one.
* `Surface.append`, `SlotMap.Begins` — what two surfaces make together, and slots that stay.
* `Concatenates` — how two descriptions are read together, and `concatenates` that they are.

### What is load-bearing

A block comment that has no end leaves its opening mark in the text, so without a mark the second
pass is outside of comments when it comes to the second text.  The newline keeps a line comment from
going on there, and an opening mark from forming across the seam.
-/

namespace ScriptBindings

open ScriptBindings.Text Traversal

/-! ## Declarations -/

/-- **A complete text**: its last line is ended, no block comment is left open, and behind the last
semicolon, or in all of the text, nothing is left but blanks. -/
structure Complete (cs : List Char) : Prop where
  newline : cs.getLast? = some '\n'
  closed : ¬ Comments.Opens (Comments.remove cs)
  ended : Blank (Comments.remove cs) ∨
    ∃ before after, Comments.remove cs = before ++ ';' :: after ∧ Blank after

namespace Declaration

/-- The declarations of a text without comments. -/
def splitBare (cs : List Char) : List (List Char) :=
  ((pieces (· == ';') cs).map squeeze).filter (· ≠ [])

theorem splitBare_of_blank {gap : List Char} (h : Blank gap) : splitBare gap = [] := by
  have hpieces : pieces (· == ';') gap = [gap] :=
    pieces_of_forall_not fun c hc => by simpa using ne_of_mem_of_not_mem hc (h.not_mem rfl)
  simp [splitBare, hpieces, squeeze_eq_nil_iff.2 h]

/-- Blanks before a text do not matter. -/
theorem splitBare_append_of_blank {gap : List Char} (h : Blank gap) (cs : List Char) :
    splitBare (gap ++ cs) = splitBare cs := by
  obtain ⟨first, rest, hcs⟩ := List.exists_cons_of_ne_nil (pieces_ne_nil (· == ';') cs)
  have hgap : ∀ c ∈ gap, (c == ';') = false := fun c hc => by
    simpa using ne_of_mem_of_not_mem hc (h.not_mem rfl)
  rw [splitBare, pieces_append_of_forall_not hgap hcs, splitBare, hcs, List.map_cons,
    List.map_cons, squeeze_append_of_blank h]

/-- A semicolon divides the declarations before it from those behind it. -/
theorem splitBare_append_cons (cs ds : List Char) :
    splitBare (cs ++ ';' :: ds) = splitBare cs ++ splitBare ds := by
  rw [splitBare, pieces_append_cons rfl, List.map_append, List.filter_append]
  rfl

/-- **The declarations of a complete text** and of one after it. -/
theorem split_append {cs : List Char} (h : Complete cs) (ds : List Char) :
    split (cs ++ ds) = split cs ++ split ds := by
  have hbare (cs : List Char) : split cs = splitBare (Comments.remove cs) := rfl
  rw [hbare, hbare, hbare, Comments.remove_append h.newline h.closed]
  rcases h.ended with hblank | ⟨before, after, hcs, hblank⟩
  · rw [splitBare_append_of_blank hblank, splitBare_of_blank hblank, List.nil_append]
  · rw [hcs, List.append_assoc, List.cons_append, splitBare_append_cons, splitBare_append_cons,
      splitBare_append_of_blank hblank, splitBare_of_blank hblank, List.append_nil]

end Declaration

/-! ## Surfaces -/

/-- **Two surfaces together**, the symbols of the first one before those of the second. -/
def Surface.append (s t : Surface) : Surface where
  globals := s.globals ++ t.globals
  kernels := s.kernels ++ t.kernels
  functions := s.functions ++ t.functions

theorem Surface.ofDeclarations_append (ds ds' : List Declaration) :
    ofDeclarations (ds ++ ds') = (ofDeclarations ds).append (ofDeclarations ds') := by
  simp [ofDeclarations, append]

/-- **Slots that begin others**: every symbol of the first ones has the same slot in the second. -/
structure SlotMap.Begins (slots slots' : SlotMap) : Prop where
  globals : slots.globals <+: slots'.globals
  kernels : slots.kernels <+: slots'.kernels
  functions : slots.functions <+: slots'.functions

/-- **Symbols behind others leave their slots as they are.** -/
theorem Surface.begins_append (s t : Surface) : s.slots.Begins (s.append t).slots := by
  refine ⟨?_, ?_, ?_⟩
  · exact ⟨_, (numberFrom_append 0 s.globals t.globals).symm⟩
  · exact ⟨_, (numberKernels_append 0 s.kernels t.kernels).symm⟩
  · exact ⟨_, (numberFrom_append 0 s.functions t.functions).symm⟩

/-! ## Descriptions -/

/-- **How two descriptions are read together.** -/
structure Concatenates (text text' : String) : Prop where
  /-- What is wrong with the first one is reported as it is for that one alone. -/
  first : ∀ e, Surface.read text = .error e → Surface.read (text ++ text') = .error e
  /-- What is wrong with the second one is reported if nothing is wrong with the first. -/
  second : ∀ s e, Surface.read text = .ok s → Surface.read text' = .error e →
    Surface.read (text ++ text') = .error e
  /-- Otherwise both surfaces are read. -/
  both : ∀ s t, Surface.read text = .ok s → Surface.read text' = .ok t →
    Surface.read (text ++ text') = .ok (s.append t)
  /-- The second one never changes a slot of the first. -/
  slots : ∀ s u, Surface.read text = .ok s → Surface.read (text ++ text') = .ok u →
    s.slots.Begins u.slots

/-- Reading a complete text and another one is reading one after the other. -/
theorem read_append {text : String} (h : Complete text.toList) (text' : String) :
    Surface.read (text ++ text') = (do
      let s ← Surface.read text
      let t ← Surface.read text'
      return s.append t) := by
  rw [Surface.read, String.toList_append, Declaration.split_append h, List.mapM_append,
    Surface.read, Surface.read]
  cases (Declaration.split text.toList).mapM Declaration.read with
  | error e => rfl
  | ok ds =>
      cases (Declaration.split text'.toList).mapM Declaration.read with
      | error e => rfl
      | ok ds' =>
          simp only [ok_bind, pure_eq_ok]
          rw [Surface.ofDeclarations_append]

/-- **Descriptions concatenate** if the first one is complete. -/
theorem concatenates {text : String} (h : Complete text.toList) (text' : String) :
    Concatenates text text' := by
  have hread := read_append h text'
  refine ⟨?_, ?_, ?_, ?_⟩
  · intro e he
    rw [hread, he]
    rfl
  · intro s e hs he
    rw [hread, hs, he]
    rfl
  · intro s t hs ht
    rw [hread, hs, ht]
    rfl
  · intro s u hs hu
    rw [hread, hs, ok_bind] at hu
    obtain ⟨t, -, ht⟩ := bind_eq_ok_iff.1 hu
    obtain rfl := Except.ok.inj ht
    exact s.begins_append t

/-- A kernel and a constant with comments before them, and a text that goes on in a comment. -/
theorem concatenates_glow :
    Complete "/* glow */ foreach glow(in, out); // a;\nconst int n = 3;\n".toList ∧
      Concatenates "/* glow */ foreach glow(in, out); // a;\nconst int n = 3;\n"
        "/ invoke stop(); /* and" := by
  have h : Complete "/* glow */ foreach glow(in, out); // a;\nconst int n = 3;\n".toList :=
    ⟨rfl, by decide,
      .inr ⟨" foreach glow(in, out); \nconst int n = 3".toList, ['\n'], rfl, by decide⟩⟩
  exact ⟨h, concatenates h _⟩

end ScriptBindings
