import ScriptBindings.Proofs.Description.Grammar
import ScriptBindings.Proofs.Description.Printing
import ScriptBindings.Proofs.Text.Tight

/-!
# The names on a surface

The name of a variable, a kernel or a function is matched by its characters, so that it is a name
whatever the description says.  A parameter is cut out of the arguments instead: its name is the
last word of its argument, and nothing asks what the characters of that word are.

* `Declaration.argumentTexts` — the texts of the arguments of a declaration.
* `Surface.names`, `Surface.parameterNames` — what a surface names.
* `Argument.Spells.isName_iff` — a parameter has a name exactly if the last word of its text is one.
* `isName_iff_of_read` — the names of a surface that is read.
-/

namespace ScriptBindings

open ScriptBindings.Text Traversal

/-! ## What a surface names -/

/-- **The texts of the arguments** of a declaration, between its commas. -/
def Declaration.argumentTexts (cs : List Char) : List (List Char) :=
  match Form.ofChars? cs with
  | some (.kernel _ arguments _) | some (.function _ arguments) => pieces (· == ',') arguments
  | _ => []

/-- The name in the form of a declaration. -/
def Form.name : Form → String
  | .variable _ name | .constant _ name _ | .kernel name _ _ | .function name _ => name

/-- The name of what is declared. -/
def Declaration.name : Declaration → String
  | .variable v => v.name
  | .kernel k => k.name
  | .function f => f.name

/-- The parameters of what is declared. -/
def Declaration.parameters : Declaration → List Field
  | .variable _ => []
  | .kernel k => Packet.fieldsOf k.packet?
  | .function f => Packet.fieldsOf f.packet?

/-- **The names of the variables, kernels and functions** on a surface. -/
def Surface.names (s : Surface) : List String :=
  s.globals.map (·.name) ++ (s.kernels.map (·.name) ++ s.functions.map (·.name))

/-- **The names of the parameters** of the kernels and functions on a surface. -/
def Surface.parameterNames (s : Surface) : List String :=
  (s.kernels.flatMap (Packet.fieldsOf ·.packet?) ++
    s.functions.flatMap (Packet.fieldsOf ·.packet?)).map (·.name)

theorem Packet.fieldsOf_ofArguments (name : String) (as : List Argument) :
    Packet.fieldsOf (Packet.ofArguments name as) = as.filterMap Argument.field? := by
  unfold Packet.ofArguments
  cases hfields : as.filterMap Argument.field? <;> rfl

section

variable {ds : List Declaration} {name : String}

theorem mem_names_ofDeclarations :
    name ∈ (Surface.ofDeclarations ds).names ↔ ∃ d ∈ ds, d.name = name := by
  simp only [Surface.names, Surface.ofDeclarations, List.mem_append, List.mem_map,
    List.mem_filterMap]
  constructor
  · rintro (⟨v, ⟨d, hd, hv⟩, rfl⟩ | ⟨k, ⟨d, hd, hk⟩, rfl⟩ | ⟨f, ⟨d, hd, hf⟩, rfl⟩)
    · cases d <;> cases hv
      exact ⟨_, hd, rfl⟩
    · cases d <;> cases hk
      exact ⟨_, hd, rfl⟩
    · cases d <;> cases hf
      exact ⟨_, hd, rfl⟩
  · rintro ⟨d, hd, rfl⟩
    cases d with
    | «variable» v => exact .inl ⟨v, ⟨_, hd, rfl⟩, rfl⟩
    | kernel k => exact .inr (.inl ⟨k, ⟨_, hd, rfl⟩, rfl⟩)
    | function f => exact .inr (.inr ⟨f, ⟨_, hd, rfl⟩, rfl⟩)

theorem mem_parameterNames_ofDeclarations :
    name ∈ (Surface.ofDeclarations ds).parameterNames ↔
      ∃ d ∈ ds, ∃ f ∈ d.parameters, f.name = name := by
  simp only [Surface.parameterNames, Surface.ofDeclarations, List.mem_map, List.mem_append,
    List.mem_flatMap, List.mem_filterMap]
  constructor
  · rintro ⟨f, ⟨k, ⟨d, hd, hk⟩, hf⟩ | ⟨g, ⟨d, hd, hg⟩, hf⟩, rfl⟩
    · cases d <;> cases hk
      exact ⟨_, hd, f, hf, rfl⟩
    · cases d <;> cases hg
      exact ⟨_, hd, f, hf, rfl⟩
  · rintro ⟨d, hd, f, hf, rfl⟩
    cases d with
    | «variable» v => cases hf
    | kernel k => exact ⟨f, .inl ⟨k, ⟨_, hd, rfl⟩, hf⟩, rfl⟩
    | function g => exact ⟨f, .inr ⟨g, ⟨_, hd, rfl⟩, hf⟩, rfl⟩

end

/-! ## Names that are read -/

/-- The name in a form is one. -/
theorem Form.Spells.isName_name {cs : List Char} {form : Form} (h : Form.Spells cs form) :
    isName form.name.toList := by
  cases h <;> simpa [Form.name]

namespace Argument.Spells

variable {flags : List Flag} {cs : List Char}

/-- **The last word of a parameter** is its name. -/
theorem getLast?_words {f : Field} (h : Spells flags cs (.parameter f)) :
    (words cs).getLast? = some f.name.toList := by
  cases h with
  | @parameter before typeName gap name after type hbefore hgap hafter hdivided _ hname hword =>
      rw [List.append_assoc before, words_append_of_blank hbefore, words_append_blank hafter,
        List.append_assoc typeName, words_append_append hgap hdivided,
        words_of_forall_not hname hword, String.toList_ofList, List.getLast?_concat]

/-- **A parameter is named** exactly if the last word of its text is a name. -/
theorem isName_iff {a : Argument} (h : Spells flags cs a) :
    (∀ w ∈ (words cs).getLast?, isName w) ↔ ∀ f ∈ a.field?, isName f.name.toList := by
  cases a with
  | blank =>
      have hwords := words_eq_nil_iff.2 (trim_eq_nil_iff.1 (spells_blank_iff.1 h))
      simp [hwords, field?]
  | flag f =>
      cases h with
      | @flag _ before after hf hbefore hafter =>
          have hblank := isBlank_eq_false_of_isName f.isName_word
          have hwords : words (before ++ f.word ++ after) = [f.word] := by
            rw [words_append_blank hafter, words_append_of_blank hbefore,
              words_of_forall_not (ne_nil_of_isName f.isName_word) hblank]
          rw [hwords]
          simp [field?, f.isName_word]
  | parameter f =>
      rw [h.getLast?_words]
      simp [field?]

end Argument.Spells

namespace Declaration.Spells

variable {cs : List Char} {d : Declaration}

/-- **What is declared has a name.** -/
theorem isName_name (h : Spells cs d) : isName d.name.toList := by
  cases h with
  | «variable» hform => exact hform.isName_name
  | constant hform => exact hform.isName_name
  | kernel hform => exact hform.isName_name
  | function hform => exact hform.isName_name

/-- **The parameters of a declaration** are spelled by the texts of its arguments. -/
theorem exists_arguments (h : Spells cs d) :
    ∃ flags as, List.Forall₂ (Argument.Spells flags) (argumentTexts cs) as ∧
      d.parameters = as.filterMap Argument.field? := by
  rw [argumentTexts]
  cases h with
  | «variable» hform =>
      rw [Form.ofChars?_eq_some_iff.2 hform]
      exact ⟨[], [], .nil, rfl⟩
  | constant hform =>
      rw [Form.ofChars?_eq_some_iff.2 hform]
      exact ⟨[], [], .nil, rfl⟩
  | kernel hform has =>
      rw [Form.ofChars?_eq_some_iff.2 hform]
      exact ⟨Flag.all, _, has, Packet.fieldsOf_ofArguments ..⟩
  | function hform has =>
      rw [Form.ofChars?_eq_some_iff.2 hform]
      exact ⟨[], _, has, Packet.fieldsOf_ofArguments ..⟩

/-- A parameter is the last word of an argument. -/
theorem exists_getLast?_words (h : Spells cs d) {f : Field} (hf : f ∈ d.parameters) :
    ∃ a ∈ argumentTexts cs, (words a).getLast? = some f.name.toList := by
  obtain ⟨flags, as, has, hparameters⟩ := h.exists_arguments
  rw [hparameters] at hf
  obtain ⟨argument, hargument, hfield⟩ := List.mem_filterMap.1 hf
  obtain ⟨a, ha, hspells⟩ := exists_of_forall₂_right has hargument
  cases argument <;> cases hfield
  exact ⟨a, ha, hspells.getLast?_words⟩

/-- **The parameters of a declaration are named** exactly if the last words of its arguments are
names. -/
theorem isName_parameters_iff (h : Spells cs d) :
    (∀ a ∈ argumentTexts cs, ∀ w ∈ (words a).getLast?, isName w) ↔
      ∀ f ∈ d.parameters, isName f.name.toList := by
  obtain ⟨flags, as, has, hparameters⟩ := h.exists_arguments
  rw [forall_iff_of_forall₂ (fun _ _ ha => ha.isName_iff) has, hparameters]
  constructor
  · intro hnamed f hf
    obtain ⟨a, ha, hfield⟩ := List.mem_filterMap.1 hf
    exact hnamed a ha f hfield
  · intro hnamed a ha f hfield
    exact hnamed f (List.mem_filterMap.2 ⟨a, ha, hfield⟩)

end Declaration.Spells

/-! ## Descriptions -/

/-- **The names on a surface that is read.**  Variables, kernels and functions have names.  The name
of a parameter is the last word of an argument, and all parameters have names exactly if the last
words of all arguments are names. -/
theorem isName_iff_of_read {text : String} {s : Surface} (h : Surface.read text = .ok s) :
    (∀ name ∈ s.names, isName name.toList) ∧
      (∀ name ∈ s.parameterNames, ∃ cs ∈ Declaration.split text.toList,
        ∃ a ∈ Declaration.argumentTexts cs, (words a).getLast? = some name.toList) ∧
      ((∀ name ∈ s.parameterNames, isName name.toList) ↔
        ∀ cs ∈ Declaration.split text.toList, ∀ a ∈ Declaration.argumentTexts cs,
          ∀ w ∈ (words a).getLast?, isName w) := by
  obtain ⟨ds, hds, rfl⟩ := read_eq_ok_iff.1 h
  refine ⟨?_, ?_, ?_⟩
  · intro name hname
    obtain ⟨d, hd, rfl⟩ := mem_names_ofDeclarations.1 hname
    obtain ⟨cs, -, hspells⟩ := exists_of_forall₂_right hds hd
    exact hspells.isName_name
  · intro name hname
    obtain ⟨d, hd, f, hf, rfl⟩ := mem_parameterNames_ofDeclarations.1 hname
    obtain ⟨cs, hcs, hspells⟩ := exists_of_forall₂_right hds hd
    exact ⟨cs, hcs, hspells.exists_getLast?_words hf⟩
  · rw [forall_iff_of_forall₂ (fun _ _ hspells => hspells.isName_parameters_iff) hds]
    constructor
    · intro hnamed d hd f hf
      exact hnamed f.name (mem_parameterNames_ofDeclarations.2 ⟨d, hd, f, hf, rfl⟩)
    · intro hnamed name hname
      obtain ⟨d, hd, f, hf, rfl⟩ := mem_parameterNames_ofDeclarations.1 hname
      exact hnamed d hd f hf

theorem isName_iff_of_read_blur :
    ∃ s, Surface.read "foreach blur(in, float r, out); invoke reset(int w)" = .ok s ∧
      (∀ name ∈ s.names, isName name.toList) ∧
      (∀ name ∈ s.parameterNames, isName name.toList) := by
  obtain ⟨s, hs⟩ : ∃ s,
      Surface.read "foreach blur(in, float r, out); invoke reset(int w)" = .ok s := ⟨_, rfl⟩
  obtain ⟨hnames, -, hparameters⟩ := isName_iff_of_read hs
  exact ⟨s, hs, hnames, hparameters.2 (by decide)⟩

/-- The name of a parameter that is declared as a pointer keeps its star. -/
theorem not_isName_pointer :
    ¬ ∀ (text : String) (s : Surface), Surface.read text = .ok s →
      ∀ name ∈ s.names ++ s.parameterNames, isName name.toList := by
  intro h
  obtain ⟨s, hs, hname⟩ : ∃ s, Surface.read "invoke f(int *p);" = .ok s ∧
      "*p" ∈ s.names ++ s.parameterNames := ⟨_, rfl, by decide⟩
  have hstar := h _ s hs "*p" hname
  revert hstar
  decide

end ScriptBindings
