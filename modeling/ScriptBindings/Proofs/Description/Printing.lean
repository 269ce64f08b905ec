import ScriptBindings.Proofs.Description.Grammar
import ScriptBindings.Proofs.Description.Values

/-!
# Reading undoes printing

A surface whose names are names, and whose constants are truth values, integers or groups of such,
can be written down declaration by declaration, in any order that keeps the order of each kind.
Reading the text gives the surface back.

* `Surface.Printable` — the surfaces that can be printed.
* `Declaration.Prints` — the texts of one declaration: the flags of a kernel can stand anywhere
  among its parameters.
* `Declaration.PrintsAll` — the texts of a list of declarations.
* `read_of_printsAll` — reading undoes printing.

### What is load-bearing

What is printed consists of word characters and a few marks (`Consists`), and its words are divided
by single spaces (`Tight`).  Hence it has no comments, it is cut at the printed semicolons only, and
squeezing leaves it as it is, so that the grammar applies to the very text that was printed.
-/

namespace ScriptBindings

open ScriptBindings.Text Traversal

/-! ## Arguments -/

/-- **A type that can be found** by some name. -/
def ScriptType.IsNamed (type : ScriptType) : Prop :=
  ∃ name, ofName? name = some type

/-- **A printable field**: its name is a name, and its type can be found. -/
structure Field.Printable (f : Field) : Prop where
  isName : isName f.name.toList
  isNamed : f.type.IsNamed

namespace Argument

/-- **A printable argument**: a flag that can be given, or a printable parameter. -/
inductive Printable (flags : List Flag) : Argument → Prop
  | flag {f : Flag} (canBeGiven : f ∈ flags) : Printable flags (flag f)
  | parameter {f : Field} (field : f.Printable) : Printable flags (parameter f)

/-- **The texts of an argument**: the word for a flag, or a name that finds the type of a parameter
and the name of the parameter. -/
inductive Prints : Argument → List Char → Prop
  | flag (f : Flag) : Prints (flag f) f.word
  | parameter {f : Field} {typeName : String}
      (isType : ScriptType.ofName? typeName = some f.type) :
      Prints (parameter f) (typeName.toList ++ ' ' :: f.name.toList)

/-- **The texts of arguments**, with commas between them. -/
def PrintsAll (as : List Argument) (text : List Char) : Prop :=
  ∃ texts, List.Forall₂ Prints as texts ∧ text = List.intercalate [',', ' '] texts

section

variable {flags : List Flag} {a : Argument} {text : List Char}

theorem Prints.consists (hprints : Prints a text) (h : Printable flags a) :
    Consists [' '] text := by
  cases hprints with
  | flag f => exact consists_of_isName f.isName_word
  | parameter htype =>
      obtain - | ⟨hf⟩ := h
      exact consists_word (ScriptType.isName_of_ofName? htype) (by simp)
        (consists_of_isName hf.isName)

theorem Prints.tight (hprints : Prints a text) (h : Printable flags a) : Tight text := by
  cases hprints with
  | flag f => exact .of_isName f.isName_word
  | parameter htype =>
      obtain - | ⟨hf⟩ := h
      exact (Tight.of_isName (ScriptType.isName_of_ofName? htype)).append_space
        (.of_isName hf.isName)

/-- **An argument is spelled by its texts**, also with blanks before them. -/
theorem Prints.spells (hprints : Prints a text) (h : Printable flags a) {gap : List Char}
    (hgap : Blank gap) : Spells flags (gap ++ text) a := by
  cases hprints with
  | flag f =>
      obtain ⟨hf⟩ := h
      have hspells : Spells flags (gap ++ f.word ++ []) (Argument.flag f) := .flag hf hgap blank_nil
      rwa [List.append_nil] at hspells
  | @parameter f typeName htype =>
      obtain - | ⟨hf⟩ := h
      obtain ⟨name, type⟩ := f
      have htype' : ScriptType.ofName? (String.ofList typeName.toList) = some type := by
        rw [String.ofList_toList, htype]
      have hspells : Spells flags (gap ++ (typeName.toList ++ [' '] ++ name.toList) ++ [])
          (Argument.parameter ⟨String.ofList name.toList, type⟩) :=
        .parameter hgap (by decide) blank_nil (by simp) htype' (ne_nil_of_isName hf.isName)
          (isBlank_eq_false_of_isName hf.isName)
      rw [List.append_nil, List.append_assoc _ [' '], String.ofList_toList] at hspells
      exact hspells

theorem exists_prints (h : Printable flags a) : ∃ text, Prints a text := by
  cases h with
  | flag _ => exact ⟨_, .flag _⟩
  | parameter hf =>
      obtain ⟨name, hname⟩ := hf.isNamed
      exact ⟨_, .parameter (ScriptType.ofName?_sourceName hname)⟩

end

section

variable {flags : List Flag} {as : List Argument} {texts : List (List Char)} {text : List Char}

theorem forall_mem_texts (hprints : List.Forall₂ Prints as texts)
    (h : ∀ a ∈ as, Printable flags a) {P : List Char → Prop}
    (hP : ∀ a t, Prints a t → Printable flags a → P t) : ∀ t ∈ texts, P t := by
  intro t ht
  obtain ⟨a, ha, hat⟩ := exists_of_forall₂_right hprints ht
  exact hP a t hat (h a ha)

theorem PrintsAll.consists (hprints : PrintsAll as text) (h : ∀ a ∈ as, Printable flags a) :
    Consists [' ', ','] text := by
  obtain ⟨texts, htexts, rfl⟩ := hprints
  exact consists_intercalate (by simp) (by simp)
    (forall_mem_texts htexts h fun a t hat ha => (hat.consists ha).mono (by simp))

/-- Arguments in parentheses are tight. -/
theorem PrintsAll.tight (hprints : PrintsAll as text) (h : ∀ a ∈ as, Printable flags a) :
    Tight ('(' :: (text ++ [')'])) := by
  obtain ⟨texts, htexts, rfl⟩ := hprints
  exact Tight.enclosed (forall_mem_texts htexts h fun a t hat ha => hat.tight ha) rfl rfl

/-- **The arguments that are spelled by a list in writing**; where it is empty, there is a blank
argument, which declares nothing. -/
theorem PrintsAll.exists_spells (hprints : PrintsAll as text) (h : ∀ a ∈ as, Printable flags a) :
    ∃ bs, List.Forall₂ (Spells flags) (pieces (· == ',') text) bs ∧
      (bs = as ∨ as = [] ∧ bs = [blank]) := by
  obtain ⟨texts, htexts, rfl⟩ := hprints
  have hcomma : ∀ t ∈ texts, ',' ∉ t := forall_mem_texts htexts h fun a t hat ha =>
    (hat.consists ha).not_mem (by decide) (by decide)
  cases htexts with
  | nil => exact ⟨[blank], .cons (.blank blank_nil) .nil, .inr ⟨rfl, rfl⟩⟩
  | @cons a text as texts ha hrest =>
      refine ⟨a :: as, ?_, .inl rfl⟩
      rw [pieces_intercalate hcomma]
      refine .cons (ha.spells (h a (by simp)) blank_nil) ?_
      -- every argument but the first is cut off with the space before it
      have hmem : ∀ b ∈ as, Printable flags b := fun b hb => h b (by simp [hb])
      clear hcomma h ha
      induction hrest with
      | nil => exact .nil
      | cons hb _ ih =>
          exact .cons (hb.spells (hmem _ (by simp)) (by decide : Blank [' ']))
            (ih fun b hb => hmem b (by simp [hb]))

theorem exists_printsAll (h : ∀ a ∈ as, Printable flags a) : ∃ text, PrintsAll as text := by
  induction as with
  | nil => exact ⟨_, [], .nil, rfl⟩
  | cons a as ih =>
      obtain ⟨t, ht⟩ := exists_prints (h a (by simp))
      obtain ⟨_, texts, htexts, -⟩ := ih fun b hb => h b (by simp [hb])
      exact ⟨_, t :: texts, .cons ht htexts, rfl⟩

end

end Argument

/-! ## Declarations -/

/-- The fields of a packet, if there is one. -/
def Packet.fieldsOf : Option Packet → List Field
  | none => []
  | some p => p.fields

/-- **A printable packet** of the parameters of what has the name. -/
def Packet.Printable (name : String) (packet? : Option Packet) : Prop :=
  ∀ p, packet? = some p → p.name = name ++ "_params" ∧ p.fields ≠ [] ∧ ∀ f ∈ p.fields, f.Printable

/-- **A printable variable**; the value of a constant has a literal of its type. -/
structure Variable.Printable (v : Variable) : Prop where
  isName : isName v.name.toList
  isNamed : v.type.IsNamed
  value : ∀ value, v.constant? = some value →
    value.Printable ∧ ∃ literal, v.type.literal value = .ok literal

/-- **A printable kernel.** -/
structure Kernel.Printable (k : Kernel) : Prop where
  isName : isName k.name.toList
  packet : Packet.Printable k.name k.packet?

/-- **A printable function.** -/
structure Function.Printable (f : Function) : Prop where
  isName : isName f.name.toList
  packet : Packet.Printable f.name f.packet?

/-- **A printable declaration.** -/
def Declaration.Printable : Declaration → Prop
  | .variable v => v.Printable
  | .kernel k => k.Printable
  | .function f => f.Printable

/-- **A printable surface.** -/
structure Surface.Printable (s : Surface) : Prop where
  globals : ∀ v ∈ s.globals, v.Printable
  kernels : ∀ k ∈ s.kernels, k.Printable
  functions : ∀ f ∈ s.functions, f.Printable

/-- Whether a kernel has a flag. -/
def Kernel.has (k : Kernel) : Flag → Bool
  | .input => k.takesInput
  | .output => k.takesOutput
  | .result => k.returnsOutput

/-- **An arrangement of the arguments of a kernel**: its parameters in order, and its flags anywhere
among them. -/
structure Kernel.Arranges (k : Kernel) (as : List Argument) : Prop where
  fields : as.filterMap Argument.field? = Packet.fieldsOf k.packet?
  flags : ∀ f, .flag f ∈ as ↔ k.has f = true
  noBlank : .blank ∉ as

/-- **The texts of a declaration**, without the semicolon.  A type is written as any name that
finds it. -/
inductive Declaration.Prints : Declaration → List Char → Prop
  /-- `var T n` -/
  | variable {v : Variable} {typeName : String} (isMutable : v.constant? = none)
      (isType : ScriptType.ofName? typeName = some v.type) :
      Prints (.variable v) ("var ".toList ++ (typeName.toList ++ ' ' :: v.name.toList))
  /-- `const T n = value` -/
  | constant {v : Variable} {typeName : String} {value : Initializer}
      (isConstant : v.constant? = some value)
      (isType : ScriptType.ofName? typeName = some v.type) :
      Prints (.variable v)
        ("const ".toList ++
          (typeName.toList ++ ' ' :: (v.name.toList ++ ' ' :: '=' :: ' ' :: value.text)))
  /-- `foreach n(arguments)`, with `default` behind it for a default kernel -/
  | kernel {k : Kernel} {as : List Argument} {arguments : List Char} (arranged : k.Arranges as)
      (printed : Argument.PrintsAll as arguments) :
      Prints (.kernel k)
        ("foreach ".toList ++ (k.name.toList ++
          '(' :: (arguments ++ ')' :: if k.isDefault then " default".toList else [])))
  /-- `invoke n(arguments)` -/
  | function {f : Function} {arguments : List Char}
      (printed : Argument.PrintsAll ((Packet.fieldsOf f.packet?).map .parameter) arguments) :
      Prints (.function f)
        ("invoke ".toList ++ (f.name.toList ++ '(' :: (arguments ++ [')'])))

theorem Packet.Printable.field {name : String} {packet? : Option Packet}
    (h : Packet.Printable name packet?) {f : Field} (hf : f ∈ Packet.fieldsOf packet?) :
    f.Printable := by
  cases packet? with
  | none => cases hf
  | some p => exact (h p rfl).2.2 f hf

theorem Packet.ofArguments_eq {name : String} {packet? : Option Packet}
    (h : Packet.Printable name packet?) {as : List Argument}
    (has : as.filterMap Argument.field? = Packet.fieldsOf packet?) :
    Packet.ofArguments name as = packet? := by
  unfold Packet.ofArguments
  rw [has]
  cases packet? with
  | none => rfl
  | some p =>
      obtain ⟨hname, hfields, -⟩ := h p rfl
      rw [Packet.fieldsOf, if_neg (by simpa using hfields), ← hname]

/-- The kernel of an arrangement of its arguments is the kernel itself. -/
theorem Kernel.ofArguments_eq {k : Kernel} (h : k.Printable) {as : List Argument}
    (has : k.Arranges as) : Kernel.ofArguments k.name as k.isDefault = k := by
  rw [Kernel.ofArguments, Packet.ofArguments_eq h.packet has.fields]
  simp [has.flags, Kernel.has]

/-- The arguments of a kernel are printable. -/
theorem Kernel.Arranges.printable {k : Kernel} (h : k.Printable) {as : List Argument}
    (has : k.Arranges as) : ∀ a ∈ as, a.Printable Flag.all := by
  intro a ha
  cases a with
  | blank => exact absurd ha has.noBlank
  | flag f => exact .flag f.mem_all
  | parameter f =>
      have hf : f ∈ Packet.fieldsOf k.packet? := by
        rw [← has.fields]
        exact List.mem_filterMap.2 ⟨_, ha, rfl⟩
      exact .parameter (h.packet.field hf)

/-- The arguments of a function are printable. -/
theorem Function.Printable.arguments {f : Function} (h : f.Printable) :
    ∀ a ∈ (Packet.fieldsOf f.packet?).map Argument.parameter, a.Printable [] := by
  intro a ha
  obtain ⟨field, hfield, rfl⟩ := List.mem_map.1 ha
  exact .parameter (h.packet.field hfield)

/-- **The text of a constant**, whatever stands for its value. -/
def Declaration.constantText (typeName name : String) (value : List Char) : List Char :=
  "const ".toList ++ (typeName.toList ++ ' ' :: (name.toList ++ ' ' :: '=' :: ' ' :: value))

/-- The form of a constant. -/
theorem Form.spells_constant {typeName name : String} (htype : isName typeName.toList)
    (hname : isName name.toList) {value : List Char} (hvalue : Tight value) :
    Form.Spells (Declaration.constantText typeName name value) (.constant typeName name value) := by
  have hseparate : [' '] = [] → value.head? ≠ some ' ' := nofun
  have hform := Form.Spells.constant htype hname (.inr rfl) (.inr rfl) hvalue.ne_nil hseparate
  rwa [String.ofList_toList, String.ofList_toList] at hform

theorem Declaration.tight_constantText {typeName name : String} (htype : isName typeName.toList)
    (hname : isName name.toList) {value : List Char} (hvalue : Tight value) :
    Tight (constantText typeName name value) :=
  (Tight.of_isName (by decide : isName "const".toList)).append_space
    ((Tight.of_isName htype).append_space
      ((Tight.of_isName hname).append_space (.space rfl hvalue)))

/-- The form of a kernel, with or without `default`. -/
theorem Form.spells_kernel {name : String} (hname : isName name.toList) {arguments : List Char}
    (hclosed : ')' ∉ arguments) (isDefault : Bool) :
    Form.Spells
      ("foreach ".toList ++ (name.toList ++
        '(' :: (arguments ++ ')' :: if isDefault then " default".toList else [])))
      (.kernel name arguments isDefault) := by
  cases isDefault with
  | false =>
      have hform := Form.Spells.kernel hname (.inl rfl) hclosed
      rwa [String.ofList_toList] at hform
  | true =>
      have hform := Form.Spells.defaultKernel hname (.inl rfl) hclosed (.inr rfl)
      rwa [String.ofList_toList] at hform

theorem filterMap_parameter (fields : List Field) :
    (fields.map Argument.parameter).filterMap Argument.field? = fields := by
  rw [List.filterMap_map]
  exact List.filterMap_some

/-- **A printable declaration is spelled by each of its texts.** -/
theorem Declaration.Prints.spells {d : Declaration} {text : List Char} (hprints : d.Prints text)
    (h : d.Printable) : Declaration.Spells text d := by
  cases hprints with
  | @«variable» v typeName hmutable htype =>
      obtain ⟨name, type, constant?⟩ := v
      obtain rfl : constant? = none := hmutable
      have hform := Form.Spells.variable (ScriptType.isName_of_ofName? htype) h.isName
      rw [String.ofList_toList, String.ofList_toList] at hform
      exact .variable hform htype
  | @constant v typeName value hconstant htype =>
      obtain ⟨name, type, constant?⟩ := v
      obtain rfl : constant? = some value := hconstant
      obtain ⟨hvalue, literal, hliteral⟩ := h.value value rfl
      have hform :=
        Form.spells_constant (ScriptType.isName_of_ofName? htype) h.isName hvalue.tight
      exact .constant hform htype (Initializer.read_text hvalue) hliteral
  | @kernel k as arguments has harguments =>
      have hclosed := (harguments.consists (has.printable h)).not_mem
        (by decide : isWordChar ')' = false) (by decide)
      obtain ⟨bs, hbs, heq⟩ := harguments.exists_spells (has.printable h)
      have hkernel : Kernel.ofArguments k.name bs k.isDefault = k := by
        rw [← Kernel.ofArguments_eq h has]
        rcases heq with rfl | ⟨rfl, rfl⟩ <;> rfl
      have hspells :=
        Declaration.Spells.kernel (Form.spells_kernel h.isName hclosed k.isDefault) hbs
      rwa [hkernel] at hspells
  | @function f arguments harguments =>
      have hclosed := (harguments.consists h.arguments).not_mem
        (by decide : isWordChar ')' = false) (by decide)
      obtain ⟨bs, hbs, heq⟩ := harguments.exists_spells h.arguments
      have hpacket : Packet.ofArguments f.name bs = f.packet? := by
        rw [← Packet.ofArguments_eq h.packet (filterMap_parameter (Packet.fieldsOf f.packet?))]
        rcases heq with rfl | ⟨hnil, rfl⟩
        · rfl
        · rw [hnil]
          rfl
      have hspells := Declaration.Spells.function
        (Form.Spells.function h.isName (.inl rfl) hclosed) hbs
      rw [String.ofList_toList, hpacket] at hspells
      exact hspells

/-- The marks of declarations. -/
def Declaration.marks : List Char :=
  [' ', '=', ',', '(', ')', '-', '{', '}']

theorem Declaration.consists_constantText {typeName name : String}
    (htype : isName typeName.toList) (hname : isName name.toList) {value : List Char}
    (hvalue : Consists Declaration.marks value) :
    Consists Declaration.marks (constantText typeName name value) := by
  have hspace : ' ' ∈ Declaration.marks := by decide
  exact consists_word (by decide : isName "const".toList) hspace
    (consists_word htype hspace (consists_word hname hspace
      (consists_cons (by decide) (consists_cons hspace hvalue))))

/-- **What is printed consists of word characters and a few marks**; no slash and no semicolon is
among them. -/
theorem Declaration.Prints.consists {d : Declaration} {text : List Char} (hprints : d.Prints text)
    (h : d.Printable) : Consists Declaration.marks text := by
  have hspace : ' ' ∈ Declaration.marks := by decide
  cases hprints with
  | @«variable» v typeName hmutable htype =>
      exact consists_word (by decide : isName "var".toList) hspace
        (consists_word (ScriptType.isName_of_ofName? htype) hspace (consists_of_isName h.isName))
  | @constant v typeName value hconstant htype =>
      have hvalue := (h.value value hconstant).1.consists.mono
        (by decide : ['-', '{', '}', ',', ' '] ⊆ Declaration.marks)
      exact Declaration.consists_constantText (ScriptType.isName_of_ofName? htype) h.isName hvalue
  | @kernel k as arguments has harguments =>
      have harguments := (harguments.consists (has.printable h)).mono
        (by decide : [' ', ','] ⊆ Declaration.marks)
      have hdefault : Consists Declaration.marks
          (if k.isDefault then " default".toList else []) := by
        split
        · exact consists_cons hspace (consists_of_isName (by decide : isName "default".toList))
        · exact consists_nil
      have hbrackets := consists_cons (by decide : '(' ∈ Declaration.marks)
        (consists_append harguments (consists_cons (by decide : ')' ∈ Declaration.marks) hdefault))
      have hrest := consists_append (consists_of_isName h.isName) hbrackets
      exact consists_word (by decide : isName "foreach".toList) hspace hrest
  | @function f arguments harguments =>
      have harguments := (harguments.consists h.arguments).mono
        (by decide : [' ', ','] ⊆ Declaration.marks)
      have hbrackets := consists_cons (by decide : '(' ∈ Declaration.marks)
        (consists_append harguments (consists_cons (by decide : ')' ∈ Declaration.marks) consists_nil))
      have hrest := consists_append (consists_of_isName h.isName) hbrackets
      exact consists_word (by decide : isName "invoke".toList) hspace hrest

/-- **What is printed is tight.** -/
theorem Declaration.Prints.tight {d : Declaration} {text : List Char} (hprints : d.Prints text)
    (h : d.Printable) : Tight text := by
  cases hprints with
  | @«variable» v typeName hmutable htype =>
      have hisType := Tight.of_isName (ScriptType.isName_of_ofName? htype)
      exact (Tight.of_isName (by decide : isName "var".toList)).append_space
        (hisType.append_space (.of_isName h.isName))
  | @constant v typeName value hconstant htype =>
      exact Declaration.tight_constantText (ScriptType.isName_of_ofName? htype) h.isName
        (h.value value hconstant).1.tight
  | @kernel k as arguments has harguments =>
      have harguments := harguments.tight (has.printable h)
      refine (Tight.of_isName (by decide : isName "foreach".toList)).append_space
        ((Tight.of_isName h.isName).append ?_)
      cases k.isDefault with
      | false => exact harguments
      | true =>
          have hdefault :=
            harguments.append_space (.of_isName (by decide : isName "default".toList))
          rw [List.cons_append, List.append_assoc] at hdefault
          exact hdefault
  | @function f arguments harguments =>
      exact (Tight.of_isName (by decide : isName "invoke".toList)).append_space
        ((Tight.of_isName h.isName).append (harguments.tight h.arguments))

/-! ## Descriptions -/

/-- **The texts of a list of declarations**: a semicolon behind each, and any blanks before each and
at the end. -/
inductive Declaration.PrintsAll : List Declaration → List Char → Prop
  | nil {gap : List Char} (blank : Blank gap) : PrintsAll [] gap
  | cons {d : Declaration} {ds : List Declaration} {gap text rest : List Char}
      (blank : Blank gap) (first : d.Prints text) (others : PrintsAll ds rest) :
      PrintsAll (d :: ds) (gap ++ (text ++ ';' :: rest))

namespace Declaration.PrintsAll

variable {ds : List Declaration} {cs : List Char}

/-- What is printed has no comments. -/
theorem slash_not_mem (hprints : PrintsAll ds cs) (h : ∀ d ∈ ds, d.Printable) : '/' ∉ cs := by
  induction hprints with
  | nil hblank => exact hblank.not_mem rfl
  | @cons d ds gap text rest hblank hfirst _ ih =>
      have hgap := hblank.not_mem (rfl : isBlank '/' = false)
      have htext := (hfirst.consists (h d (by simp))).not_mem
        (by decide : isWordChar '/' = false) (by decide)
      have hrest := ih fun e he => h e (List.mem_cons_of_mem _ he)
      simp [hgap, htext, hrest]

/-- **What is printed is cut at its own semicolons**, and each piece spells its declaration. -/
theorem spells (hprints : PrintsAll ds cs) (h : ∀ d ∈ ds, d.Printable) :
    List.Forall₂ Declaration.Spells
      (((pieces (· == ';') cs).filter fun p => ¬ Blank p).map squeeze) ds := by
  induction hprints with
  | @nil gap hblank =>
      have hpieces : pieces (· == ';') gap = [gap] := by
        refine pieces_of_forall_not fun c hc => ?_
        simpa using ne_of_mem_of_not_mem hc (hblank.not_mem rfl)
      simp [hpieces, hblank]
  | @cons d ds gap text rest hblank hfirst _ ih =>
      have hd := h d (by simp)
      have hgap := hblank.not_mem (rfl : isBlank ';' = false)
      have htext := (hfirst.consists hd).not_mem (by decide : isWordChar ';' = false) (by decide)
      have hpieces : pieces (· == ';') (gap ++ (text ++ ';' :: rest)) =
          (gap ++ text) :: pieces (· == ';') rest := by
        rw [← List.append_assoc]
        refine pieces_append_sep (fun c hc => ?_) rfl rest
        have hmem : ';' ∉ gap ++ text := by simp [hgap, htext]
        simpa using ne_of_mem_of_not_mem hc hmem
      have htight := hfirst.tight hd
      have hkept : ¬ Blank (gap ++ text) := fun hall =>
        htight.not_blank (blank_append_iff.1 hall).2
      have hsqueeze : squeeze (gap ++ text) = text := by
        rw [squeeze_append_of_blank hblank, htight.squeeze_eq]
      rw [hpieces, List.filter_cons_of_pos (by simpa using hkept), List.map_cons, hsqueeze]
      exact .cons (hfirst.spells hd) (ih fun e he => h e (List.mem_cons_of_mem _ he))

end Declaration.PrintsAll

/-- The declarations of a printable surface are printable. -/
theorem Surface.Printable.declarations {ds : List Declaration}
    (h : (Surface.ofDeclarations ds).Printable) : ∀ d ∈ ds, d.Printable := by
  intro d hd
  cases d with
  | «variable» v => exact h.globals v (List.mem_filterMap.2 ⟨_, hd, rfl⟩)
  | kernel k => exact h.kernels k (List.mem_filterMap.2 ⟨_, hd, rfl⟩)
  | function f => exact h.functions f (List.mem_filterMap.2 ⟨_, hd, rfl⟩)

/-- A kernel has an arrangement of its arguments: its flags before its parameters. -/
theorem Kernel.exists_arranges (k : Kernel) : ∃ as, k.Arranges as := by
  refine ⟨(Flag.all.filter k.has).map .flag ++ (Packet.fieldsOf k.packet?).map .parameter,
    ?_, ?_, ?_⟩
  · rw [List.filterMap_append, filterMap_parameter, List.filterMap_map]
    simp [Function.comp_def, Argument.field?]
  · intro f
    simp [Flag.mem_all]
  · simp

/-- Every printable declaration has a text. -/
theorem Declaration.exists_prints {d : Declaration} (h : d.Printable) : ∃ text, d.Prints text := by
  cases d with
  | «variable» v =>
      obtain ⟨name, hname⟩ := h.isNamed
      have htype := ScriptType.ofName?_sourceName hname
      cases hv : v.constant? with
      | none => exact ⟨_, .variable hv htype⟩
      | some value => exact ⟨_, .constant hv htype⟩
  | kernel k =>
      obtain ⟨as, has⟩ := k.exists_arranges
      obtain ⟨arguments, harguments⟩ := Argument.exists_printsAll (has.printable h)
      exact ⟨_, .kernel has harguments⟩
  | function f =>
      obtain ⟨arguments, harguments⟩ := Argument.exists_printsAll h.arguments
      exact ⟨_, .function harguments⟩

theorem Declaration.exists_printsAll {ds : List Declaration} (h : ∀ d ∈ ds, d.Printable) :
    ∃ cs, PrintsAll ds cs := by
  induction ds with
  | nil => exact ⟨[], .nil blank_nil⟩
  | cons d ds ih =>
      obtain ⟨text, htext⟩ := exists_prints (h d (by simp))
      obtain ⟨rest, hrest⟩ := ih fun e he => h e (List.mem_cons_of_mem _ he)
      exact ⟨_, .cons blank_nil htext hrest⟩

/-- **Reading undoes printing.**  The declarations of a printable surface can be printed, in any
order that keeps the order of each kind, and reading each of the texts gives the surface back. -/
theorem read_of_printsAll {s : Surface} (h : s.Printable) {ds : List Declaration}
    (hds : .ofDeclarations ds = s) :
    (∃ cs, Declaration.PrintsAll ds cs) ∧
      ∀ cs, Declaration.PrintsAll ds cs → Surface.read (String.ofList cs) = .ok s := by
  subst hds
  refine ⟨Declaration.exists_printsAll h.declarations, fun cs hcs => ?_⟩
  have hspells := hcs.spells h.declarations
  have hslash := hcs.slash_not_mem h.declarations
  rw [read_eq_ok_iff, split_eq, String.toList_ofList, Comments.remove_of_not_mem hslash]
  exact ⟨ds, hspells, rfl⟩

/-- The declarations of a script that moves sprites, a function among the variables. -/
def spriteDeclarations : List Declaration :=
  [.variable ⟨"count", .scalar (.known .int), none⟩,
    .function ⟨"reset", none⟩,
    .variable ⟨"origin", .vector (.known .int) 2, some (.group [.int 1, .int (-2)])⟩,
    .kernel {
      name := "move"
      takesInput := true
      returnsOutput := true
      packet? := some ⟨"move_params", [⟨"speed", .scalar (.known .float)⟩]⟩ },
    .variable ⟨"visible", .scalar (.known .bool), some (.bool true)⟩]

/-- An integer with no more digits than a numeral can have, has a literal. -/
theorem integerLiteral_of_short {n : Int}
    (h : (Nat.toDigits 10 n.natAbs).length ≤ Numeral.maxDecimalDigits) :
    integerLiteral n = .ok (toString n) := by
  have hsmall : n.natAbs < 10 ^ Numeral.maxDecimalDigits :=
    (Nat.length_toDigits_le_iff (by decide) (by decide)).1 h
  rw [integerLiteral, Nat.pow_eq, if_neg (Nat.not_le.2 hsmall)]

theorem printable_sprite : (Surface.ofDeclarations spriteDeclarations).Printable := by
  have hcount : Variable.Printable ⟨"count", .scalar (.known .int), none⟩ :=
    ⟨by decide, ⟨"int", rfl⟩, nofun⟩
  have horigin : Variable.Printable
      ⟨"origin", .vector (.known .int) 2, some (.group [.int 1, .int (-2)])⟩ := by
    refine ⟨by decide, ⟨"int2", rfl⟩, ?_⟩
    rintro _ ⟨⟩
    have hone : (Nat.toDigits 10 (1 : Int).natAbs).length ≤ Numeral.maxDecimalDigits := by decide
    have htwo : (Nat.toDigits 10 (-2 : Int).natAbs).length ≤ Numeral.maxDecimalDigits := by decide
    refine ⟨.group ?_, ?_⟩
    · intro value hvalue
      rcases List.mem_cons.1 hvalue with rfl | hvalue
      · exact .int hone
      · obtain rfl := List.mem_singleton.1 hvalue
        exact .int htwo
    · have hliteral {n : Int} (h : (Nat.toDigits 10 n.natAbs).length ≤ Numeral.maxDecimalDigits) :
          ScriptType.scalarLiteral (.known .int) (.int n) = .ok (toString n) := by
        have hresolve : (Tag.known Scalar.int).resolve = .ok .int := rfl
        rw [ScriptType.scalarLiteral, hresolve, ok_bind, if_neg (by decide), if_neg (by decide),
          Initializer.toIntegral, ok_bind, integerLiteral_of_short h]
      have hitems : [Initializer.int 1, .int (-2)].mapM (ScriptType.scalarLiteral (.known .int)) =
          .ok [toString (1 : Int), toString (-2 : Int)] :=
        mapM_eq_ok_iff.2 (.cons (hliteral hone) (.cons (hliteral htwo) .nil))
      refine ⟨braced [toString (1 : Int), toString (-2 : Int)], ?_⟩
      have hvalues :
          ScriptType.elementValues 2 (.group [.int 1, .int (-2)]) = [.int 1, .int (-2)] := rfl
      obtain ⟨rendered, hrendered⟩ : ∃ rendered, (ScriptType.vector (.known .int) 2).render =
          .ok rendered := ⟨_, rfl⟩
      rw [ScriptType.literal, hrendered, ok_bind]
      dsimp only
      rw [hvalues, hitems, ok_bind]
      rfl
  have hvisible : Variable.Printable ⟨"visible", .scalar (.known .bool), some (.bool true)⟩ := by
    refine ⟨by decide, ⟨"bool", rfl⟩, ?_⟩
    rintro _ ⟨⟩
    exact ⟨.simple (.bool true), _, rfl⟩
  refine ⟨?_, ?_, ?_⟩
  · intro v hv
    rcases List.mem_cons.1 hv with rfl | hv
    · exact hcount
    rcases List.mem_cons.1 hv with rfl | hv
    · exact horigin
    · obtain rfl := List.mem_singleton.1 hv
      exact hvisible
  · intro k hk
    obtain rfl := List.mem_singleton.1 hk
    refine ⟨by decide, ?_⟩
    rintro _ ⟨⟩
    refine ⟨rfl, by simp, ?_⟩
    intro f hf
    obtain rfl := List.mem_singleton.1 hf
    exact ⟨by decide, "float", rfl⟩
  · intro f hf
    obtain rfl := List.mem_singleton.1 hf
    exact ⟨by decide, nofun⟩

theorem read_of_printsAll_sprite :
    (Surface.ofDeclarations spriteDeclarations).Printable ∧
      (∃ cs, Declaration.PrintsAll spriteDeclarations cs) ∧
      ∀ cs, Declaration.PrintsAll spriteDeclarations cs →
        Surface.read (String.ofList cs) = .ok (.ofDeclarations spriteDeclarations) :=
  ⟨printable_sprite, read_of_printsAll printable_sprite rfl⟩

end ScriptBindings
