import ScriptBindings.Proofs.Code.Lines

/-!
# Methods, as both files spell them

The header declares a method for every kernel and function that can be called, and the
implementation defines it.  Two passes over the same slots write the two texts, and nothing in them
compares one with the other.  This file describes a method once, as data, and shows that both
passes spell the same methods.

* `Method` — a name, the texts of the parameters, the statements that pack the parameters, and the
  call of the runtime.
* `Method.declaration`, `Method.definition` — its text in the header and in the implementation.
* `Carries` — how the fields of a packet become parameters, packing and arguments.
* `KernelMethod`, `FunctionMethod` — the method that belongs to a kernel or a function at a slot.

The step lemmas `kernelLine_kernelBlock` and `functionLine_functionBlock` find the method of one
symbol from its two texts; `exists_kernelMethods` and
`exists_functionMethods` collect them along a list.

### What is load-bearing

A method is *one* record with two texts.  That the header and the implementation agree on names,
parameters and order is therefore not a list of equations between texts, but the existence of one
list of methods of which both files are images.
-/

namespace ScriptBindings

open Traversal

variable {τ : Type}

/-- **A method of a generated class**: its name, the texts of its parameters, and its body, which
packs the parameters and then calls the runtime. -/
structure Method where
  name : String
  parameters : List String
  packing : List String
  call : String
deriving DecidableEq, Repr

namespace Method

/-- The text between the parentheses. -/
def parameterText (m : Method) : String :=
  ", ".intercalate m.parameters

/-- **The declaration** of a method inside its class. -/
def declaration (m : Method) : String :=
  "    void " ++ m.name ++ "(" ++ m.parameterText ++ ");"

/-- **The definition** of a method outside its class, with an empty line after it. -/
def definition (className : String) (m : Method) : List String :=
  ("void " ++ className ++ "::" ++ m.name ++ "(" ++ m.parameterText ++ ") \x7b") ::
    ((m.packing ++ [m.call]).map ("    " ++ ·) ++ ["\x7d", ""])

/-- The declaration of a method, or the comment in place of one. -/
def declarationLine : Option Method → String
  | none => "    // No forEach_root(...)"
  | some m => m.declaration

/-- The definition of a method, or the comment in place of one. -/
def definitionLines (className : String) : Option Method → List String
  | none => ["// No forEach_root(...)", ""]
  | some m => m.definition className

/-- **A dispatch line** of a body: it runs a kernel or invokes a function of the runtime. -/
def isDispatch (line : String) : Bool :=
  "    forEach(".toList.isPrefixOf line.toList || "    invoke(".toList.isPrefixOf line.toList

end Method

/-! ## What a method must be -/

/-- **How a packet travels.**  `Carries packet? parameters packing arguments` says that the fields
are the parameters, each a type and the name of the field; that the body makes a packer of the
packet's size and adds the parameters by name, in order; and that the packer's data and the same
size are the arguments.  Without a packet there are none of these. -/
inductive Carries : Option Packet → List String → List String → String → Prop
  | nothing : Carries none [] [] "NULL, 0"
  | packet {p : Packet} {parameters : List String} {size : Int}
      (spelled : List.Forall₂
        (fun f text => ∃ type, f.type.cppName = .ok type ∧ text = type ++ " " ++ f.name)
        p.fields parameters)
      (sized : p.type.paddedSize = .ok size) :
      Carries (some p) parameters
        (("FieldPacker __fp(" ++ toString size ++ ");") ::
          p.fields.map fun f => "__fp.add(" ++ f.name ++ ");")
        ("__fp.getData(), " ++ toString size)

/-- Whether the method of a kernel has an output allocation: it does unless the kernel only reads
its input. -/
def Kernel.hasOutput (k : Kernel) : Bool :=
  !k.takesInput || k.takesOutput || k.returnsOutput

/-- The parameters for the allocations of a kernel. -/
def Kernel.allocationParameters (k : Kernel) : List String :=
  (if k.takesInput then ["android::sp<const android::renderscriptCpp::Allocation> ain"] else []) ++
    (if k.hasOutput then ["android::sp<const android::renderscriptCpp::Allocation> aout"] else [])

/-- **The method of a kernel** at a slot: its parameters are the allocations and those of the
packet, and its call passes the slot, both allocations or `NULL`, and the packet.  A kernel without
a slot has no method. -/
inductive KernelMethod : Option Nat → Kernel → Option Method → Prop
  | omitted (k : Kernel) : KernelMethod none k none
  | called {slot : Nat} {k : Kernel} {parameters packing : List String} {arguments : String}
      (carries : Carries k.packet? parameters packing arguments) :
      KernelMethod (some slot) k (some
        { name := "forEach_" ++ k.name
          parameters := k.allocationParameters ++ parameters
          packing
          call := "forEach(" ++ toString slot ++ ", " ++ (if k.takesInput then "ain" else "NULL") ++
            ", " ++ (if k.hasOutput then "aout" else "NULL") ++ ", " ++ arguments ++ ");" })

/-- **The method of a function** at a slot: its parameters are those of the packet, and its call
passes the slot and the packet. -/
inductive FunctionMethod (slot : Nat) (f : Function) : Method → Prop
  | called {parameters packing : List String} {arguments : String}
      (carries : Carries f.packet? parameters packing arguments) :
      FunctionMethod slot f
        { name := "invoke_" ++ f.name
          parameters
          packing
          call := "invoke(" ++ toString slot ++ ", " ++ arguments ++ ");" }

/-! ## A body has one dispatch line -/

/-- No statement that packs parameters is a dispatch line. -/
theorem isDispatch_packing {packet? : Option Packet} {parameters packing : List String}
    {arguments line : String} (h : Carries packet? parameters packing arguments)
    (hline : line ∈ packing) : Method.isDispatch ("    " ++ line) = false := by
  cases h with
  | nothing => simp at hline
  | packet spelled sized =>
      rcases List.mem_cons.1 hline with rfl | hline
      · simp [Method.isDispatch, List.isPrefixOf]
      · obtain ⟨f, -, rfl⟩ := List.mem_map.1 hline
        simp [Method.isDispatch, List.isPrefixOf]

/-- **The dispatch lines of a definition** are its call alone. -/
theorem filter_isDispatch_definition {m : Method} (className : String)
    (hpacking : ∀ line ∈ m.packing, Method.isDispatch ("    " ++ line) = false)
    (hcall : Method.isDispatch ("    " ++ m.call) = true) :
    (m.definition className).filter Method.isDispatch = ["    " ++ m.call] := by
  have hfirst : ∀ rest : String, Method.isDispatch ("void " ++ rest) = false := by
    intro rest
    simp [Method.isDispatch, List.isPrefixOf]
  have hbody : (m.packing.map ("    " ++ ·)).filter Method.isDispatch = [] := by
    rw [List.filter_eq_nil_iff]
    intro line hline
    obtain ⟨statement, hstatement, rfl⟩ := List.mem_map.1 hline
    simp [hpacking statement hstatement]
  have hend : ["\x7d", ""].filter Method.isDispatch = [] := by decide
  rw [Method.definition, List.filter_cons_of_neg (by simp [String.append_assoc, hfirst]),
    List.filter_append, hend, List.map_append, List.filter_append, hbody]
  simp [hcall]

theorem KernelMethod.filter_isDispatch {slot? : Option Nat} {k : Kernel} {m : Method}
    (h : KernelMethod slot? k (some m)) (className : String) :
    (m.definition className).filter Method.isDispatch = ["    " ++ m.call] := by
  cases h with
  | called carries =>
      refine filter_isDispatch_definition className
        (fun line hline => isDispatch_packing carries hline) ?_
      simp [Method.isDispatch, List.isPrefixOf]

theorem FunctionMethod.filter_isDispatch {slot : Nat} {f : Function} {m : Method}
    (h : FunctionMethod slot f m) (className : String) :
    (m.definition className).filter Method.isDispatch = ["    " ++ m.call] := by
  cases h with
  | called carries =>
      refine filter_isDispatch_definition className
        (fun line hline => isDispatch_packing carries hline) ?_
      simp [Method.isDispatch, List.isPrefixOf]

/-! ## One symbol -/

theorem parametersOf_packing {packet? : Option Packet} {parameters packing : List String}
    {arguments : String} (hparameters : parametersOf packet? = .ok parameters)
    (hpacking : Implementation.packing packet? = .ok (packing, arguments)) :
    Carries packet? parameters packing arguments := by
  cases packet? with
  | none =>
      cases hparameters
      cases hpacking
      exact .nothing
  | some p =>
      obtain ⟨size, hsize, heq⟩ := bind_eq_ok_iff.1 hpacking
      cases heq
      refine .packet ?_ hsize
      refine (mapM_eq_ok_iff.1 hparameters).imp ?_
      intro f text htext
      obtain ⟨type, htype, heq⟩ := bind_eq_ok_iff.1 htext
      cases heq
      exact ⟨type, htype, rfl⟩

/-- Statements that pack parameters are not empty, so that they are indented. -/
theorem packing_ne_empty {packet? : Option Packet} {parameters packing : List String}
    {arguments line : String} (h : Carries packet? parameters packing arguments)
    (hline : line ∈ packing) : line ≠ "" := by
  cases h with
  | nothing => simp at hline
  | packet spelled sized =>
      rcases List.mem_cons.1 hline with rfl | hline
      · simp
      · obtain ⟨f, -, rfl⟩ := List.mem_map.1 hline
        simp

/-- A declaration inside the class, from the signature without the name of the class. -/
theorem atLevel_signatureText (name : String) (parameters : List String) :
    Buffer.atLevel 1 (signatureText "" name parameters ++ ";") =
      "    void " ++ name ++ "(" ++ ", ".intercalate parameters ++ ");" := by
  rw [Buffer.atLevel_one (by simp [signatureText])]
  apply String.toList_injective
  simp [signatureText]

/-- The lines of a definition outside the class, from the signature with the name of the class. -/
theorem lines_method {className : String} (h : className ≠ "") (name : String)
    (parameters body : List String) (hbody : ∀ line ∈ body, line ≠ "") :
    ((Implementation.Block.method (signatureText className name parameters) body).lines :
        List String) =
      ("void " ++ className ++ "::" ++ name ++ "(" ++ ", ".intercalate parameters ++ ") \x7b") ::
        (body.map ("    " ++ ·) ++ ["\x7d", ""]) := by
  have hmap : body.map (Buffer.atLevel 1) = body.map ("    " ++ ·) :=
    List.map_congr_left fun line hline => Buffer.atLevel_one (hbody line hline)
  rw [Implementation.Block.lines, Textual.ofStrings_string, hmap]
  congr 1
  apply String.toList_injective
  simp [signatureText, h]

/-- No statement of a body is empty, so that all are indented. -/
theorem body_ne_empty {packet? : Option Packet} {parameters packing : List String}
    {arguments call line : String} (h : Carries packet? parameters packing arguments)
    (hcall : call ≠ "") (hline : line ∈ packing ++ [call]) : line ≠ "" := by
  rcases List.mem_append.1 hline with hline | hline
  · exact packing_ne_empty h hline
  · obtain rfl := List.mem_singleton.1 hline
    exact hcall

theorem map_allocations (k : Kernel) :
    (k.allocations.map fun name => ScriptType.handleName "Allocation" ++ " " ++ name) =
      k.allocationParameters := by
  rw [Kernel.allocations, Kernel.allocationParameters, Kernel.hasOutput]
  cases k.takesInput <;> cases k.takesOutput <;> cases k.returnsOutput <;> decide

theorem allocationArgument_ain (k : Kernel) :
    Implementation.allocationArgument k "ain" = if k.takesInput then "ain" else "NULL" := by
  rw [Implementation.allocationArgument, Kernel.allocations]
  cases k.takesInput <;> cases k.takesOutput <;> cases k.returnsOutput <;> decide

theorem allocationArgument_aout (k : Kernel) :
    Implementation.allocationArgument k "aout" = if k.hasOutput then "aout" else "NULL" := by
  rw [Implementation.allocationArgument, Kernel.allocations, Kernel.hasOutput]
  cases k.takesInput <;> cases k.takesOutput <;> cases k.returnsOutput <;> decide

/-- **One kernel in the two files**: what the header declares and what the implementation defines
are the texts of one method. -/
theorem kernelLine_kernelBlock {c : ScriptClass τ} (hc : c.name ≠ "") {e : Option Nat × Kernel}
    {line : String} {block : Implementation.Block} (hline : Header.kernelLine e = .ok line)
    (hblock : Implementation.kernelBlock c e = .ok block) :
    ∃ m, KernelMethod e.1 e.2 m ∧ Buffer.atLevel 1 line = Method.declarationLine m ∧
      block.lines = Method.definitionLines c.name m := by
  obtain ⟨slot?, k⟩ := e
  cases slot? with
  | none =>
      cases hline
      cases hblock
      exact ⟨none, .omitted k, by decide, rfl⟩
  | some slot =>
      obtain ⟨all, hall, heq⟩ := bind_eq_ok_iff.1 hline
      cases heq
      -- Each pass spells the parameters for itself, but from the same kernel.
      obtain ⟨all', hall', hrest⟩ := bind_eq_ok_iff.1 hblock
      obtain rfl : all = all' := by simpa [hall] using hall'
      obtain ⟨⟨packing, arguments⟩, hpacking, heq⟩ := bind_eq_ok_iff.1 hrest
      cases heq
      obtain ⟨parameters, hparameters, heq⟩ := bind_eq_ok_iff.1 hall
      cases heq
      have hcarries := parametersOf_packing hparameters hpacking
      have hmethod := @KernelMethod.called slot k _ _ _ hcarries
      refine ⟨_, hmethod, ?_, ?_⟩
      · rw [atLevel_signatureText, map_allocations]
        rfl
      · rw [lines_method hc _ _ _ fun _ h => body_ne_empty hcarries (by simp) h, map_allocations,
          allocationArgument_ain, allocationArgument_aout]
        rfl

/-- **One function in the two files.** -/
theorem functionLine_functionBlock {c : ScriptClass τ} (hc : c.name ≠ "") {e : Nat × Function}
    {line : String} {block : Implementation.Block} (hline : Header.functionLine e.2 = .ok line)
    (hblock : Implementation.functionBlock c e = .ok block) :
    ∃ m, FunctionMethod e.1 e.2 m ∧ Buffer.atLevel 1 line = m.declaration ∧
      block.lines = m.definition c.name := by
  obtain ⟨slot, f⟩ := e
  obtain ⟨parameters, hparameters, heq⟩ := bind_eq_ok_iff.1 hline
  cases heq
  obtain ⟨parameters', hparameters', hrest⟩ := bind_eq_ok_iff.1 hblock
  obtain rfl : parameters = parameters' := by simpa [hparameters] using hparameters'
  obtain ⟨⟨packing, arguments⟩, hpacking, heq⟩ := bind_eq_ok_iff.1 hrest
  cases heq
  have hcarries := parametersOf_packing hparameters hpacking
  have hmethod := @FunctionMethod.called slot f _ _ _ hcarries
  refine ⟨_, hmethod, ?_, ?_⟩
  · rw [atLevel_signatureText]
    rfl
  · rw [lines_method hc _ _ _ fun _ h => body_ne_empty hcarries (by simp) h]
    rfl

/-! ## All symbols -/

/-- **The kernels of a surface in the two files**: one list of methods, or places without one, of
which both texts are images.  The `i`-th belongs to the `i`-th kernel, at a slot that counts the
callable kernels before it. -/
theorem exists_kernelMethods {c : ScriptClass τ} (hc : c.name ≠ "") {kernels : List Kernel}
    {lines : List String} {blocks : List Implementation.Block}
    (hlines : (numberKernels 0 kernels).mapM Header.kernelLine = .ok lines)
    (hblocks : (numberKernels 0 kernels).mapM (Implementation.kernelBlock c) = .ok blocks) :
    ∃ methods : List (Option Method), methods.length = kernels.length ∧
      lines.map (Buffer.atLevel 1) = methods.map Method.declarationLine ∧
      blocks.flatMap Implementation.Block.lines =
        methods.flatMap (Method.definitionLines c.name) ∧
      ∀ i k, kernels[i]? = some k → ∃ m, methods[i]? = some m ∧
        KernelMethod (if k.isDefault then none else some ((kernels.take i).countP (!·.isDefault)))
          k m := by
  obtain ⟨methods, hmethods, hdeclared, hdefined⟩ :=
    exists_forall₂_of_mapM (fun _ _ _ => kernelLine_kernelBlock hc) hlines hblocks
  refine ⟨methods, ?_, hdeclared, ?_, ?_⟩
  · rw [← hmethods.length_eq, ← List.length_map Prod.snd, map_snd_numberKernels]
  · rw [List.flatMap_def, hdefined, List.flatMap_def]
  · intro i k hk
    have hslot := getElem?_numberKernels 0 kernels i
    rw [hk, Option.map_some] at hslot
    obtain ⟨m, hm, hkernel⟩ := exists_getElem?_of_forall₂ hmethods hslot
    exact ⟨m, hm, by simpa using hkernel⟩

/-- **The functions of a surface in the two files**: the `j`-th method belongs to the `j`-th
function, at slot `j`. -/
theorem exists_functionMethods {c : ScriptClass τ} (hc : c.name ≠ "") {functions : List Function}
    {lines : List String} {blocks : List Implementation.Block}
    (hlines : (numberFrom 0 functions).mapM (fun (_, f) => Header.functionLine f) = .ok lines)
    (hblocks : (numberFrom 0 functions).mapM (Implementation.functionBlock c) = .ok blocks) :
    ∃ methods : List Method, methods.length = functions.length ∧
      lines.map (Buffer.atLevel 1) = methods.map Method.declaration ∧
      blocks.flatMap Implementation.Block.lines = methods.flatMap (Method.definition c.name) ∧
      ∀ j f, functions[j]? = some f → ∃ m, methods[j]? = some m ∧ FunctionMethod j f m := by
  obtain ⟨methods, hmethods, hdeclared, hdefined⟩ :=
    exists_forall₂_of_mapM (fun _ _ _ => functionLine_functionBlock hc) hlines hblocks
  refine ⟨methods, ?_, hdeclared, ?_, ?_⟩
  · rw [← hmethods.length_eq, ← List.length_map Prod.snd, map_snd_numberFrom]
  · rw [List.flatMap_def, hdefined, List.flatMap_def]
  · intro j f hf
    have hslot := getElem?_numberFrom 0 functions j
    rw [hf, Option.map_some] at hslot
    obtain ⟨m, hm, hfunction⟩ := exists_getElem?_of_forall₂ hmethods hslot
    exact ⟨m, hm, by simpa using hfunction⟩

variable [Append τ] [Textual τ]

/-- **Both files spell the same methods**, those of the kernels and then those of the functions, in
the order of the surface. -/
structure SpellMethods (c : ScriptClass τ) (s : Surface) (header implementation : Buffer τ)
    (kernels : List (Option Method)) (functions : List Method) : Prop where
  /-- The header ends with one declaration line each and the closing brace of the class. -/
  declared : Textual.ofStrings (kernels.map Method.declarationLine ++
    functions.map Method.declaration ++ ["\x7d;"]) <:+ header.lines
  /-- The implementation ends with one definition each. -/
  defined : Textual.ofStrings (kernels.flatMap (Method.definitionLines c.name) ++
    functions.flatMap (Method.definition c.name)) <:+ implementation.lines
  kernels_length : kernels.length = s.kernels.length
  functions_length : functions.length = s.functions.length
  /-- The method of a kernel is the one for the number of callable kernels before it; a default
  kernel has none. -/
  kernel : ∀ i k, s.kernels[i]? = some k → ∃ m, kernels[i]? = some m ∧
    KernelMethod (if k.isDefault then none else some ((s.kernels.take i).countP (!·.isDefault))) k m
  /-- The method of a function is the one for its number. -/
  function : ∀ j f, s.functions[j]? = some f → ∃ m, functions[j]? = some m ∧ FunctionMethod j f m
  /-- Every definition has one dispatch line, its call. -/
  dispatch : ∀ m, some m ∈ kernels ∨ m ∈ functions →
    (m.definition c.name).filter Method.isDispatch = ["    " ++ m.call]

/-- **Header and implementation agree on every kernel and function**: whenever both are generated,
one list of methods has given both texts. -/
theorem exists_spellMethods (c : ScriptClass τ) (s : Surface) (bytes : List UInt8)
    {header implementation : Buffer τ} (hc : c.name ≠ "")
    (hheader : Header.generate c s.slots = .ok header)
    (himplementation : Implementation.generate c s.slots bytes = .ok implementation) :
    ∃ kernels functions, SpellMethods c s header implementation kernels functions := by
  obtain ⟨storage, accessors, kernelLines, functionLines, -, -, hkl, hfl, rfl⟩ :=
    Header.generate_eq_ok_iff.1 hheader
  obtain ⟨kernelBlocks, functionBlocks, hkb, hfb, rfl⟩ :=
    Implementation.generate_eq_ok_iff.1 himplementation
  obtain ⟨kernels, hklength, hkdeclared, hkdefined, hkernels⟩ := exists_kernelMethods hc hkl hkb
  obtain ⟨functions, hflength, hfdeclared, hfdefined, hfunctions⟩ :=
    exists_functionMethods hc hfl hfb
  refine ⟨kernels, functions, ?_, ?_, hklength, hflength, hkernels, hfunctions, ?_⟩
  · rw [← hkdeclared, ← hfdeclared, ← List.map_append, Textual.ofStrings_append,
      ← Buffer.map_atLevel_ofStrings]
    exact List.suffix_append (Header.opening c storage accessors) _
  · rw [← hkdefined, ← hfdefined, ← List.flatMap_append,
      ← Implementation.flatMap_lines_eq_ofStrings]
    exact List.suffix_append (Implementation.opening c bytes) _
  -- A method of the list belongs to the symbol at its place, and so has one dispatch line.
  · rintro m (hm | hm)
    · obtain ⟨i, hi, hget⟩ := List.getElem_of_mem hm
      have hk : s.kernels[i]? = some s.kernels[i] := List.getElem?_eq_getElem (by omega)
      obtain ⟨m', hm', hkernel⟩ := hkernels i _ hk
      obtain rfl : some m = m' := by simpa [List.getElem?_eq_getElem hi, hget] using hm'
      exact hkernel.filter_isDispatch c.name
    · obtain ⟨j, hj, hget⟩ := List.getElem_of_mem hm
      have hf : s.functions[j]? = some s.functions[j] := List.getElem?_eq_getElem (by omega)
      obtain ⟨m', hm', hfunction⟩ := hfunctions j _ hf
      obtain rfl : m = m' := by simpa [List.getElem?_eq_getElem hj, hget] using hm'
      exact hfunction.filter_isDispatch c.name

/-- A surface with a default kernel before two callable ones, and a function. -/
def Surface.blend : Surface where
  kernels := [
    { name := "root", isDefault := true },
    { name := "mix", takesInput := true, returnsOutput := true,
      packet? := some ⟨"mix_params", [⟨"weight", .scalar (.known .float)⟩]⟩ },
    { name := "fill", takesOutput := true }]
  functions := [⟨"reset", none⟩]

theorem exists_spellMethods_blend :
    ∃ header implementation kernels functions,
      "ScriptC_blend" ≠ "" ∧
      Header.generate ⟨"ScriptC_blend", "blend.rs", ""⟩ Surface.blend.slots = .ok header ∧
      Implementation.generate ⟨"ScriptC_blend", "blend.rs", ""⟩ Surface.blend.slots [] =
        .ok implementation ∧
      SpellMethods ⟨"ScriptC_blend", "blend.rs", ""⟩ Surface.blend header implementation kernels
        functions := by
  have hname : "ScriptC_blend" ≠ "" := by decide
  obtain ⟨header, hheader⟩ : ∃ header,
      Header.generate ⟨"ScriptC_blend", "blend.rs", ""⟩ Surface.blend.slots = .ok header :=
    ⟨_, rfl⟩
  obtain ⟨implementation, himplementation⟩ : ∃ implementation,
      Implementation.generate ⟨"ScriptC_blend", "blend.rs", ""⟩ Surface.blend.slots [] =
        .ok implementation :=
    ⟨_, rfl⟩
  obtain ⟨kernels, functions, h⟩ := exists_spellMethods _ _ _ hname hheader himplementation
  exact ⟨header, implementation, kernels, functions, hname, hheader, himplementation, h⟩

end ScriptBindings
