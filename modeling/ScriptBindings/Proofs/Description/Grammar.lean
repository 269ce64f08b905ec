import ScriptBindings.Description.Reader
import ScriptBindings.Proofs.Description.Comments
import ScriptBindings.Proofs.Description.Form
import ScriptBindings.Proofs.Traversal
import ScriptBindings.Proofs.Types.Spelling

/-!
# The grammar of a description

Reading a description takes it apart step by step.  This file states as a grammar what the texts of
declarations look like, and shows that reading accepts exactly those, with exactly the surface that
they declare.

* `Argument.Spells` — the texts of one argument: nothing, a flag, or a parameter.
* `Declaration.Spells` — the texts of one declaration.
* `read_eq_ok_iff_spells` — a description without slashes, and hence without comments, can be read
  exactly if each of its pieces that is not blank spells a declaration.

### What is load-bearing

Flags and parameters are told apart by their blanks: a parameter has some between its type and its
name, a flag has none.  Hence an argument is never both, and the order in which reading asks the two
questions does not matter.
-/

namespace ScriptBindings

open ScriptBindings.Text Traversal

/-! ## Arguments -/

/-- **The flags of a kernel.** -/
inductive Flag where
  | input | output | result
deriving DecidableEq, Repr

namespace Flag

/-- All flags. -/
def all : List Flag :=
  [input, output, result]

/-- The word for a flag. -/
def word : Flag → List Char
  | input => "in".toList
  | output => "out".toList
  | result => "return".toList

theorem mem_all (f : Flag) : f ∈ all := by
  cases f <;> decide

theorem isName_word (f : Flag) : isName f.word := by
  cases f <;> decide

theorem word_injective {f g : Flag} (h : f.word = g.word) : f = g := by
  revert h
  cases f <;> cases g <;> decide

theorem map_word_all : all.map word = flagWords := rfl

end Flag

/-- **An argument** of a kernel or a function. -/
inductive Argument where
  | blank
  | flag (f : Flag)
  | parameter (f : Field)
deriving DecidableEq, Repr

namespace Argument

/-- The field that an argument adds to the packet. -/
def field? : Argument → Option Field
  | parameter f => some f
  | _ => none

/-- **The texts of an argument**, where some flags can be given. -/
inductive Spells (flags : List Flag) : List Char → Argument → Prop
  /-- Nothing but blanks. -/
  | blank {cs : List Char} (nothing : Blank cs) : Spells flags cs blank
  /-- The word for a flag. -/
  | flag {f : Flag} {before after : List Char} (canBeGiven : f ∈ flags)
      (blankBefore : Blank before) (blankAfter : Blank after) :
      Spells flags (before ++ f.word ++ after) (flag f)
  /-- The name of a type, blanks, and a name without blanks. -/
  | parameter {before typeName gap name after : List Char} {type : ScriptType}
      (blankBefore : Blank before) (blankBetween : Blank gap) (blankAfter : Blank after)
      (divided : gap ≠ []) (isType : ScriptType.ofName? (String.ofList typeName) = some type)
      (named : name ≠ []) (isWord : ∀ c ∈ name, isBlank c = false) :
      Spells flags (before ++ (typeName ++ gap ++ name) ++ after)
        (parameter ⟨String.ofList name, type⟩)

end Argument

theorem typeRead_eq_ok_iff {name : String} {type : ScriptType} :
    ScriptType.read name = .ok type ↔ ScriptType.ofName? name = some type := by
  rw [ScriptType.read]
  split <;> simp_all

/-- **A parameter** can be read exactly from its texts. -/
theorem fieldRead_eq_ok_iff (flags : List Flag) {cs : List Char} {f : Field} :
    Field.read cs = .ok f ↔ Argument.Spells flags cs (.parameter f) := by
  constructor
  · intro h
    rw [Field.read] at h
    split at h
    · rename_i typeName name hsplit
      obtain ⟨type, htype, heq⟩ := bind_eq_ok_iff.1 h
      cases heq
      obtain ⟨before, gap, after, rfl, hbefore, hgap, hafter, hdivided, -, hname, hword⟩ :=
        splitLastWord?_eq_some_iff.1 hsplit
      exact .parameter hbefore hgap hafter hdivided (typeRead_eq_ok_iff.1 htype) hname hword
    · cases h
  · intro h
    cases h with
    | @parameter before typeName gap name after type hbefore hgap hafter hdivided htype hname hword =>
    -- the name of a type has characters, and none of them is blank
    have hisName : isName typeName := by
      simpa using ScriptType.isName_of_ofName? htype
    have hbare := bare_of_forall_not (isBlank_eq_false_of_isName hisName)
    have hsplit := splitLastWord?_eq_some_iff.2 ⟨before, gap, after, rfl, hbefore, hgap, hafter,
      hdivided, ⟨ne_nil_of_isName hisName, hbare⟩, hname, hword⟩
    rw [Field.read, hsplit]
    dsimp only
    rw [typeRead_eq_ok_iff.2 htype]
    rfl

theorem fieldRead_trim (cs : List Char) : Field.read (trim cs) = Field.read cs := by
  rw [Field.read, splitLastWord?_trim, trim_trim, Field.read]

section

variable {flags : List Flag} {cs : List Char}

theorem Argument.spells_blank_iff : Argument.Spells flags cs .blank ↔ trim cs = [] := by
  rw [trim_eq_nil_iff]
  constructor
  · rintro ⟨h⟩
    exact h
  · exact .blank

theorem Argument.spells_flag_iff {f : Flag} :
    Argument.Spells flags cs (.flag f) ↔ f ∈ flags ∧ trim cs = f.word := by
  rw [trim_eq_iff]
  constructor
  · intro h
    cases h with
    | @flag f before after hf hbefore hafter =>
      exact ⟨hf, before, after, rfl, hbefore, hafter,
        bare_of_forall_not (isBlank_eq_false_of_isName f.isName_word)⟩
  · rintro ⟨hf, before, after, rfl, hbefore, hafter, -⟩
    exact .flag hf hbefore hafter

/-- A parameter has blanks before its name. -/
theorem exists_blank_of_fieldRead {f : Field} (h : Field.read cs = .ok f) :
    ∃ c ∈ trim cs, isBlank c = true := by
  rw [Field.read] at h
  split at h
  · rename_i typeName name hsplit
    obtain ⟨gap, htrim, -, hgap, hdivided, -⟩ := splitLastWord?_eq_some_iff_trim.1 hsplit
    obtain ⟨c, hc⟩ := List.exists_mem_of_ne_nil gap hdivided
    exact ⟨c, by simp [htrim, hc], hgap c hc⟩
  · cases h

/-- **Reading an argument**: the question after a flag comes before that after a parameter. -/
def Argument.read (flags : List Flag) (cs : List Char) : Except ReadError Argument :=
  if trim cs = [] then .ok .blank
  else match flags.find? (·.word = trim cs) with
    | some f => .ok (.flag f)
    | none => do return .parameter (← Field.read cs)

theorem Flag.find?_word_eq_some_iff {f : Flag} :
    flags.find? (·.word = trim cs) = some f ↔ f ∈ flags ∧ trim cs = f.word := by
  constructor
  · intro h
    exact ⟨List.mem_of_find?_eq_some h, by simpa [eq_comm] using List.find?_some h⟩
  · rintro ⟨hf, hword⟩
    have hfound : (flags.find? (·.word = trim cs)).isSome :=
      List.find?_isSome.2 ⟨f, hf, by simp [hword]⟩
    obtain ⟨g, hg⟩ := Option.isSome_iff_exists.1 hfound
    have hgword : g.word = trim cs := by simpa using List.find?_some hg
    rw [hg, word_injective (hgword.trans hword)]

/-- **An argument** can be read exactly from its texts. -/
theorem Argument.read_eq_ok_iff {a : Argument} :
    Argument.read flags cs = .ok a ↔ Argument.Spells flags cs a := by
  constructor
  · intro h
    rw [Argument.read] at h
    split at h
    · rename_i htrim
      cases h
      exact spells_blank_iff.2 htrim
    · split at h
      · rename_i f hfind
        cases h
        exact spells_flag_iff.2 (Flag.find?_word_eq_some_iff.1 hfind)
      · obtain ⟨f, hf, heq⟩ := bind_eq_ok_iff.1 h
        cases heq
        exact (fieldRead_eq_ok_iff flags).1 hf
  · intro h
    rw [Argument.read]
    cases a with
    | blank => rw [if_pos (spells_blank_iff.1 h)]
    | flag f =>
        obtain ⟨hf, htrim⟩ := spells_flag_iff.1 h
        have hne : trim cs ≠ [] := htrim ▸ ne_nil_of_isName f.isName_word
        rw [if_neg hne, Flag.find?_word_eq_some_iff.2 ⟨hf, htrim⟩]
    | parameter f =>
        have hread := (fieldRead_eq_ok_iff flags).2 h
        obtain ⟨c, hc, hblank⟩ := exists_blank_of_fieldRead hread
        have hnone : flags.find? (·.word = trim cs) = none := by
          by_contra hsome
          obtain ⟨f, hf⟩ := Option.ne_none_iff_exists'.1 hsome
          have hisName := f.isName_word
          rw [← (Flag.find?_word_eq_some_iff.1 hf).2] at hisName
          rw [isBlank_eq_false_of_isName hisName c hc] at hblank
          cases hblank
        rw [if_neg (List.ne_nil_of_mem hc), hnone, hread]
        rfl

end

/-! ## Packets -/

/-- **The packet of arguments**: their fields, if there are any. -/
def Packet.ofArguments (name : String) (as : List Argument) : Option Packet :=
  let fields := as.filterMap Argument.field?
  if fields.isEmpty then none else some ⟨name ++ "_params", fields⟩

/-- Reading the parameters that are left without flags and blanks, is reading all arguments. -/
theorem mapM_fieldRead (flags : List Flag) (ps : List (List Char)) :
    ((ps.filter fun p => trim p ∉ flags.map Flag.word).filter fun p => trim p ≠ []).mapM
        Field.read =
      do return (← ps.mapM (Argument.read flags)).filterMap Argument.field? := by
  rw [List.filter_filter]
  induction ps with
  | nil => rfl
  | cons p ps ih =>
      rw [List.mapM_cons, Argument.read]
      by_cases hnil : trim p = []
      · rw [List.filter_cons_of_neg (by simp [hnil]), ih, if_pos hnil, ok_bind, bind_assoc]
        rfl
      · rw [if_neg hnil]
        cases hfind : flags.find? (·.word = trim p) with
        | some f =>
            obtain ⟨hf, hword⟩ := Flag.find?_word_eq_some_iff.1 hfind
            have hmem : trim p ∈ flags.map Flag.word := List.mem_map.2 ⟨f, hf, hword.symm⟩
            rw [List.filter_cons_of_neg (by simp [hmem]), ih]
            simp only [ok_bind, bind_assoc]
            rfl
        | none =>
            have hnotMem : trim p ∉ flags.map Flag.word := by
              simpa using hfind
            rw [List.filter_cons_of_pos (by simp [hnil, hnotMem]), List.mapM_cons, ih]
            simp only [bind_assoc, pure_bind]
            rfl

/-- Blanks around the parameters of a packet do not matter. -/
theorem packetRead_map_trim (name : String) (ps : List (List Char)) :
    Packet.read name (ps.map trim) = Packet.read name ps := by
  rw [Packet.read, Packet.read, List.filter_map, List.mapM_map]
  simp only [Function.comp_def, trim_trim, fieldRead_trim]

/-- **A packet from arguments**, without their flags. -/
theorem packetRead_eq_ok_iff {flags : List Flag} {name : String} {ps : List (List Char)}
    {packet? : Option Packet} :
    Packet.read name (ps.filter fun p => trim p ∉ flags.map Flag.word) = .ok packet? ↔
      ∃ as, List.Forall₂ (Argument.Spells flags) ps as ∧
        packet? = Packet.ofArguments name as := by
  rw [Packet.read, mapM_fieldRead, bind_assoc, bind_eq_ok_iff]
  simp only [mapM_eq_ok_iff, Argument.read_eq_ok_iff, pure_eq_ok, ok_bind, Except.ok.injEq,
    eq_comm (a := packet?)]
  rfl

theorem packetRead_eq_ok_iff_of_noFlags {name : String} {ps : List (List Char)}
    {packet? : Option Packet} :
    Packet.read name ps = .ok packet? ↔
      ∃ as, List.Forall₂ (Argument.Spells []) ps as ∧ packet? = Packet.ofArguments name as := by
  simpa using @packetRead_eq_ok_iff [] name ps packet?

/-- **A kernel from its arguments.** -/
def Kernel.ofArguments (name : String) (as : List Argument) (isDefault : Bool) : Kernel where
  name
  takesInput := .flag .input ∈ as
  takesOutput := .flag .output ∈ as
  returnsOutput := .flag .result ∈ as
  isDefault
  packet? := Packet.ofArguments name as

/-- **An argument is one thing only.** -/
theorem Argument.Spells.unique {flags : List Flag} {cs : List Char} {a b : Argument}
    (ha : Argument.Spells flags cs a) (hb : Argument.Spells flags cs b) : a = b := by
  have hread := Argument.read_eq_ok_iff.2 ha
  rw [Argument.read_eq_ok_iff.2 hb] at hread
  exact (Except.ok.inj hread).symm

/-- A flag is among the arguments exactly if its word is. -/
theorem contains_word {flags : List Flag} {ps : List (List Char)} {as : List Argument}
    (h : List.Forall₂ (Argument.Spells flags) ps as) {f : Flag} (hf : f ∈ flags) :
    (ps.map trim).contains f.word = decide (.flag f ∈ as) := by
  induction h with
  | nil => rfl
  | @cons p a ps as hp _ ih =>
      have hhead : f.word = trim p ↔ .flag f = a := by
        constructor
        · intro hword
          exact (Argument.spells_flag_iff.2 ⟨hf, hword.symm⟩).unique hp
        · rintro rfl
          exact (Argument.spells_flag_iff.1 hp).2.symm
      rw [List.map_cons, List.contains_cons, ih, Bool.eq_iff_iff]
      simp [hhead]

theorem readKernel_eq_ok_iff {name : String} {text : List Char} {isDefault : Bool} {k : Kernel} :
    Declaration.readKernel name text isDefault = .ok k ↔
      ∃ as, List.Forall₂ (Argument.Spells Flag.all) (pieces (· == ',') text) as ∧
        k = Kernel.ofArguments name as isDefault := by
  have hfilter : ((pieces (· == ',') text).map trim).filter (!flagWords.contains ·) =
      ((pieces (· == ',') text).filter fun p => trim p ∉ Flag.all.map Flag.word).map trim := by
    rw [List.filter_map, Flag.map_word_all]
    simp [Function.comp_def]
  have hkernel {as : List Argument}
      (has : List.Forall₂ (Argument.Spells Flag.all) (pieces (· == ',') text) as) :
      Kernel.ofArguments name as isDefault = {
        name
        takesInput := ((pieces (· == ',') text).map trim).contains "in".toList
        takesOutput := ((pieces (· == ',') text).map trim).contains "out".toList
        returnsOutput := ((pieces (· == ',') text).map trim).contains "return".toList
        isDefault
        packet? := Packet.ofArguments name as } := by
    rw [Kernel.ofArguments, ← contains_word has (Flag.mem_all .input),
      ← contains_word has (Flag.mem_all .output), ← contains_word has (Flag.mem_all .result)]
    rfl
  unfold Declaration.readKernel
  dsimp only
  rw [hfilter, packetRead_map_trim, bind_eq_ok_iff]
  constructor
  · rintro ⟨packet?, hpacket, heq⟩
    cases heq
    obtain ⟨as, has, rfl⟩ := packetRead_eq_ok_iff.1 hpacket
    exact ⟨as, has, (hkernel has).symm⟩
  · rintro ⟨as, has, rfl⟩
    exact ⟨_, packetRead_eq_ok_iff.2 ⟨as, has, rfl⟩, by rw [hkernel has]; rfl⟩

/-! ## Declarations -/

/-- **The texts of a declaration.** -/
inductive Declaration.Spells (cs : List Char) : Declaration → Prop
  /-- A variable of a type with a name. -/
  | variable {typeName name : String} {type : ScriptType}
      (form : Form.Spells cs (.variable typeName name))
      (isType : ScriptType.ofName? typeName = some type) :
      Spells cs (.variable ⟨name, type, none⟩)
  /-- A constant whose value has a literal of its type. -/
  | constant {typeName name literal : String} {text : List Char} {type : ScriptType}
      {value : Initializer} (form : Form.Spells cs (.constant typeName name text))
      (isType : ScriptType.ofName? typeName = some type)
      (isValue : Initializer.read text = .ok value)
      (suits : type.literal value = .ok literal) :
      Spells cs (.variable ⟨name, type, some value⟩)
  /-- A kernel, among whose arguments any flags can be given. -/
  | kernel {name : String} {text : List Char} {isDefault : Bool} {as : List Argument}
      (form : Form.Spells cs (.kernel name text isDefault))
      (arguments : List.Forall₂ (Argument.Spells Flag.all) (pieces (· == ',') text) as) :
      Spells cs (.kernel (Kernel.ofArguments name as isDefault))
  /-- A function, among whose arguments no flags can be given. -/
  | function {name : String} {text : List Char} {as : List Argument}
      (form : Form.Spells cs (.function name text))
      (arguments : List.Forall₂ (Argument.Spells []) (pieces (· == ',') text) as) :
      Spells cs (.function ⟨name, Packet.ofArguments name as⟩)

theorem readConstant_eq_ok_iff {typeName name : String} {text : List Char} {v : Variable} :
    Declaration.readConstant typeName name text = .ok v ↔
      ∃ type value literal, ScriptType.ofName? typeName = some type ∧
        Initializer.read text = .ok value ∧ type.literal value = .ok literal ∧
        v = ⟨name, type, some value⟩ := by
  constructor
  · intro h
    obtain ⟨type, htype, hrest⟩ := bind_eq_ok_iff.1 h
    obtain ⟨value, hvalue, hliteral⟩ := bind_eq_ok_iff.1 hrest
    split at hliteral
    · rename_i literal hsuits
      cases hliteral
      exact ⟨type, value, literal, typeRead_eq_ok_iff.1 htype, hvalue, hsuits, rfl⟩
    · cases hliteral
  · rintro ⟨type, value, literal, htype, hvalue, hsuits, rfl⟩
    rw [Declaration.readConstant, typeRead_eq_ok_iff.2 htype, ok_bind, hvalue, ok_bind, hsuits]
    rfl

/-- **A declaration** can be read exactly from its texts. -/
theorem declarationRead_eq_ok_iff {cs : List Char} {d : Declaration} :
    Declaration.read cs = .ok d ↔ Declaration.Spells cs d := by
  constructor
  · intro h
    rw [Declaration.read] at h
    split at h
    · rename_i form hform
      have hspells := Form.ofChars?_eq_some_iff.1 hform
      cases form with
      | «variable» typeName name =>
          obtain ⟨type, htype, heq⟩ := bind_eq_ok_iff.1 h
          cases heq
          exact .variable hspells (typeRead_eq_ok_iff.1 htype)
      | constant typeName name text =>
          obtain ⟨v, hv, heq⟩ := bind_eq_ok_iff.1 h
          cases heq
          obtain ⟨type, value, literal, htype, hvalue, hsuits, rfl⟩ :=
            readConstant_eq_ok_iff.1 hv
          exact .constant hspells htype hvalue hsuits
      | kernel name text isDefault =>
          obtain ⟨k, hk, heq⟩ := bind_eq_ok_iff.1 h
          cases heq
          obtain ⟨as, has, rfl⟩ := readKernel_eq_ok_iff.1 hk
          exact .kernel hspells has
      | function name text =>
          obtain ⟨packet?, hpacket, heq⟩ := bind_eq_ok_iff.1 h
          cases heq
          obtain ⟨as, has, rfl⟩ := packetRead_eq_ok_iff_of_noFlags.1 hpacket
          exact .function hspells has
    · cases h
  · intro h
    rw [Declaration.read]
    cases h with
    | «variable» hform htype =>
        rw [Form.ofChars?_eq_some_iff.2 hform]
        exact bind_eq_ok_iff.2 ⟨_, typeRead_eq_ok_iff.2 htype, rfl⟩
    | constant hform htype hvalue hsuits =>
        rw [Form.ofChars?_eq_some_iff.2 hform]
        exact bind_eq_ok_iff.2
          ⟨_, readConstant_eq_ok_iff.2 ⟨_, _, _, htype, hvalue, hsuits, rfl⟩, rfl⟩
    | kernel hform has =>
        rw [Form.ofChars?_eq_some_iff.2 hform]
        exact bind_eq_ok_iff.2 ⟨_, readKernel_eq_ok_iff.2 ⟨_, has, rfl⟩, rfl⟩
    | function hform has =>
        rw [Form.ofChars?_eq_some_iff.2 hform]
        exact bind_eq_ok_iff.2 ⟨_, packetRead_eq_ok_iff_of_noFlags.2 ⟨_, has, rfl⟩, rfl⟩

/-! ## Descriptions -/

/-- **The pieces of a description** that are not blank, squeezed. -/
theorem split_eq (cs : List Char) :
    Declaration.split cs =
      ((pieces (· == ';') (Comments.remove cs)).filter fun p => ¬ Blank p).map squeeze := by
  rw [Declaration.split, List.filter_map]
  congr 2
  funext p
  simp [squeeze_eq_nil_iff]

/-- A description can be read exactly if its pieces spell declarations. -/
theorem read_eq_ok_iff {text : String} {s : Surface} :
    Surface.read text = .ok s ↔
      ∃ ds, List.Forall₂ Declaration.Spells (Declaration.split text.toList) ds ∧
        s = .ofDeclarations ds := by
  rw [Surface.read, bind_eq_ok_iff]
  simp only [mapM_eq_ok_iff, declarationRead_eq_ok_iff, pure_eq_ok, Except.ok.injEq,
    eq_comm (a := s)]

/-- **A description follows the grammar exactly if it can be read.**  Without slashes, it is cut at
its semicolons; every piece that is not blank spells a declaration once it is squeezed, and the
surface is what the declarations declare. -/
theorem read_eq_ok_iff_spells {text : String} (h : '/' ∉ text.toList) {s : Surface} :
    Surface.read text = .ok s ↔
      ∃ ds, List.Forall₂ Declaration.Spells
          (((pieces (· == ';') text.toList).filter fun p => ¬ Blank p).map squeeze) ds ∧
        s = .ofDeclarations ds := by
  rw [read_eq_ok_iff, split_eq, Comments.remove_of_not_mem h]

theorem read_eq_ok_iff_spells_fade :
    ∃ s, Surface.read "var int n ;;const float3 tint=2.5f; foreach fade (in, double w,out)default" =
        .ok s ∧
      ∃ ds, List.Forall₂ Declaration.Spells
          (((pieces (· == ';')
            "var int n ;;const float3 tint=2.5f; foreach fade (in, double w,out)default".toList).filter
              fun p => ¬ Blank p).map squeeze) ds ∧
        s = .ofDeclarations ds := by
  obtain ⟨s, hs⟩ : ∃ s, Surface.read
      "var int n ;;const float3 tint=2.5f; foreach fade (in, double w,out)default" = .ok s :=
    ⟨_, rfl⟩
  exact ⟨s, hs, (read_eq_ok_iff_spells (by decide)).1 hs⟩

end ScriptBindings
