import ScriptBindings.Description.Reader
import ScriptBindings.Proofs.Code.Lines
import ScriptBindings.Proofs.Types.WellFormed

/-!
# What can be read can be generated

Reading checks a description once; generating asks the types and constants of the surface many
questions, each of which can fail.  This file names the invariant that connects the two.

* `Surface.Sound` — every type on the surface is plain, and every constant has a literal.
* `sound_of_read` — reading gives sound surfaces only.
* `Surface.Sound.exists_header`, `Surface.Sound.exists_implementation` — sound surfaces have both
  files, whatever the class and the embedded bytes are.

Names play no part: any text can stand for a variable, a parameter or a class without making a
generator fail.
-/

namespace ScriptBindings

open Traversal

variable {τ : Type}

/-! ## Sound surfaces -/

/-- **A sound variable**: its type is plain, and its value, if it is a constant, has a literal. -/
structure Variable.Sound (v : Variable) : Prop where
  plain : v.type.Plain
  literal : ∀ value, v.constant? = some value → ∃ text, v.type.literal value = .ok text

/-- **A sound packet**: its fields have plain types. -/
def Packet.Sound (packet? : Option Packet) : Prop :=
  ∀ p, packet? = some p → ∀ f ∈ p.fields, f.type.Plain

/-- **A sound surface**: all its variables and packets are. -/
structure Surface.Sound (s : Surface) : Prop where
  globals : ∀ v ∈ s.globals, v.Sound
  kernels : ∀ k ∈ s.kernels, Packet.Sound k.packet?
  functions : ∀ f ∈ s.functions, Packet.Sound f.packet?

/-! ## A sound surface has both files -/

theorem Packet.Sound.exists_parametersOf {packet? : Option Packet} (h : Packet.Sound packet?) :
    ∃ parameters, parametersOf packet? = .ok parameters := by
  cases packet? with
  | none => exact ⟨[], rfl⟩
  | some p =>
      refine exists_mapM_eq_ok fun f hf => ?_
      obtain ⟨name, hname⟩ := (h p rfl f hf).exists_cppName
      exact ⟨name ++ " " ++ f.name, by simp [Field.parameter, hname]⟩

theorem Packet.Sound.exists_packing {packet? : Option Packet} (h : Packet.Sound packet?) :
    ∃ packed, Implementation.packing packet? = .ok packed := by
  cases packet? with
  | none => exact ⟨([], "NULL, 0"), rfl⟩
  | some p =>
      have hrecord : p.type.WellFormed := .record p.name fun f hf => .plain (h p rfl f hf)
      obtain ⟨size, hsize⟩ := hrecord.exists_paddedSize
      exact ⟨_, by rw [Implementation.packing, hsize]; rfl⟩

theorem Packet.Sound.exists_kernelParameters {k : Kernel} (h : Packet.Sound k.packet?) :
    ∃ parameters, k.parameters = .ok parameters := by
  obtain ⟨parameters, hparameters⟩ := h.exists_parametersOf
  exact ⟨_, by rw [Kernel.parameters, hparameters]; rfl⟩

theorem Variable.Sound.exists_storageLine {v : Variable} (h : v.Sound) :
    ∃ line, Header.storageLine v = .ok line := by
  obtain ⟨name, hname⟩ := h.plain.exists_cppName
  exact ⟨_, by rw [Header.storageLine, hname]; rfl⟩

theorem Variable.Sound.exists_accessors {v : Variable} (h : v.Sound) (slot : Nat) :
    ∃ lines, Header.accessors slot v = .ok lines := by
  obtain ⟨name, hname⟩ := h.plain.exists_cppName
  cases hv : v.constant? with
  | none => exact ⟨_, by rw [Header.accessors, hname, hv]; rfl⟩
  | some value =>
      obtain ⟨text, htext⟩ := h.literal value hv
      refine ⟨Header.getter v.name name text ++ [""], ?_⟩
      rw [Header.accessors, hname, ok_bind, hv]
      simp [htext]

theorem exists_kernelLine {e : Option Nat × Kernel} (h : Packet.Sound e.2.packet?) :
    ∃ line, Header.kernelLine e = .ok line := by
  obtain ⟨_ | slot, k⟩ := e
  · exact ⟨_, rfl⟩
  · obtain ⟨parameters, hparameters⟩ := h.exists_kernelParameters
    exact ⟨_, by rw [Header.kernelLine, hparameters]; rfl⟩

theorem exists_kernelBlock (c : ScriptClass τ) {e : Option Nat × Kernel}
    (h : Packet.Sound e.2.packet?) : ∃ block, Implementation.kernelBlock c e = .ok block := by
  obtain ⟨_ | slot, k⟩ := e
  · exact ⟨_, rfl⟩
  · obtain ⟨parameters, hparameters⟩ := h.exists_kernelParameters
    obtain ⟨packed, hpacked⟩ := h.exists_packing
    exact ⟨_, by rw [Implementation.kernelBlock, hparameters, ok_bind, hpacked]; rfl⟩

theorem exists_functionLine {f : Function} (h : Packet.Sound f.packet?) :
    ∃ line, Header.functionLine f = .ok line := by
  obtain ⟨parameters, hparameters⟩ := h.exists_parametersOf
  exact ⟨_, by rw [Header.functionLine, Function.parameters, hparameters]; rfl⟩

theorem exists_functionBlock (c : ScriptClass τ) {e : Nat × Function}
    (h : Packet.Sound e.2.packet?) : ∃ block, Implementation.functionBlock c e = .ok block := by
  obtain ⟨slot, f⟩ := e
  obtain ⟨parameters, hparameters⟩ := h.exists_parametersOf
  obtain ⟨packed, hpacked⟩ := h.exists_packing
  exact ⟨_, by
    rw [Implementation.functionBlock, Function.parameters, hparameters, ok_bind, hpacked]
    rfl⟩

/-- A property of the items holds of the numbered items. -/
theorem forall_numberFrom {α : Type} {P : α → Prop} {items : List α} (h : ∀ x ∈ items, P x)
    (next : Nat) : ∀ e ∈ numberFrom next items, P e.2 := by
  intro e he
  refine h e.2 ?_
  rw [← map_snd_numberFrom next items]
  exact List.mem_map_of_mem he

/-- A property of the kernels holds of the numbered kernels. -/
theorem forall_numberKernels {P : Kernel → Prop} {kernels : List Kernel} (h : ∀ k ∈ kernels, P k)
    (next : Nat) : ∀ e ∈ numberKernels next kernels, P e.2 := by
  intro e he
  refine h e.2 ?_
  rw [← map_snd_numberKernels next kernels]
  exact List.mem_map_of_mem he

/-- **A sound surface has a header**, whatever the class is. -/
theorem Surface.Sound.exists_header [Append τ] [Textual τ] {s : Surface} (h : s.Sound)
    (c : ScriptClass τ) :
    ∃ header, Header.generate c s.slots = .ok header := by
  have hglobals := forall_numberFrom h.globals 0
  obtain ⟨storage, hstorage⟩ : ∃ storage, Header.storage s.slots.globals = .ok storage :=
    exists_mapM_eq_ok fun e he => (hglobals e (List.mem_filter.1 he).1).exists_storageLine
  obtain ⟨accessors, haccessors⟩ : ∃ accessors,
      s.slots.globals.mapM (fun e => Header.accessors e.1 e.2) = .ok accessors :=
    exists_mapM_eq_ok fun e he => (hglobals e he).exists_accessors e.1
  obtain ⟨kernels, hkernels⟩ : ∃ kernels, s.slots.kernels.mapM Header.kernelLine = .ok kernels :=
    exists_mapM_eq_ok fun e he => exists_kernelLine (forall_numberKernels h.kernels 0 e he)
  obtain ⟨functions, hfunctions⟩ : ∃ functions,
      s.slots.functions.mapM (fun e => Header.functionLine e.2) = .ok functions :=
    exists_mapM_eq_ok fun e he => exists_functionLine (forall_numberFrom h.functions 0 e he)
  exact ⟨_, Header.generate_eq_ok_iff.2
    ⟨storage, accessors, kernels, functions, hstorage, haccessors, hkernels, hfunctions, rfl⟩⟩

/-- **A sound surface has an implementation**, whatever the class and the embedded bytes are. -/
theorem Surface.Sound.exists_implementation [Append τ] [Textual τ] {s : Surface} (h : s.Sound)
    (c : ScriptClass τ) (bytes : List UInt8) :
    ∃ implementation, Implementation.generate c s.slots bytes = .ok implementation := by
  obtain ⟨kernels, hkernels⟩ : ∃ kernels,
      s.slots.kernels.mapM (Implementation.kernelBlock c) = .ok kernels :=
    exists_mapM_eq_ok fun e he => exists_kernelBlock c (forall_numberKernels h.kernels 0 e he)
  obtain ⟨functions, hfunctions⟩ : ∃ functions,
      s.slots.functions.mapM (Implementation.functionBlock c) = .ok functions :=
    exists_mapM_eq_ok fun e he => exists_functionBlock c (forall_numberFrom h.functions 0 e he)
  exact ⟨_, Implementation.generate_eq_ok_iff.2 ⟨kernels, functions, hkernels, hfunctions, rfl⟩⟩

/-! ## What is read is sound -/

/-- What a declaration declares, is sound. -/
def Declaration.Sound : Declaration → Prop
  | .variable v => v.Sound
  | .kernel k => Packet.Sound k.packet?
  | .function f => Packet.Sound f.packet?

/-- A type that can be read is plain. -/
theorem plain_of_read {name : String} {type : ScriptType} (h : ScriptType.read name = .ok type) :
    type.Plain := by
  rw [ScriptType.read] at h
  split at h
  · rename_i hname
    cases h
    exact ScriptType.plain_of_ofName? hname
  · cases h

theorem plain_of_fieldRead {cs : List Char} {f : Field} (h : Field.read cs = .ok f) :
    f.type.Plain := by
  rw [Field.read] at h
  split at h
  · obtain ⟨type, htype, heq⟩ := bind_eq_ok_iff.1 h
    cases heq
    exact plain_of_read htype
  · cases h

/-- Packets that are read, are sound. -/
theorem sound_of_packetRead {name : String} {parameters : List (List Char)}
    {packet? : Option Packet} (h : Packet.read name parameters = .ok packet?) :
    Packet.Sound packet? := by
  obtain ⟨fields, hfields, heq⟩ := bind_eq_ok_iff.1 h
  intro p hp f hf
  -- There is a packet only if there are fields, and then they are its own.
  have hmem : f ∈ fields := by
    cases hempty : fields.isEmpty with
    | true => simp_all
    | false =>
        simp only [hempty, pure_eq_ok, Except.ok.injEq] at heq
        subst heq
        obtain rfl := Option.some.inj hp
        exact hf
  obtain ⟨cs, -, hcs⟩ := exists_of_mem_mapM hfields hmem
  exact plain_of_fieldRead hcs

/-- Constants that are read have a literal, since reading tries it. -/
theorem sound_of_readConstant {type name : String} {value : List Char} {v : Variable}
    (h : Declaration.readConstant type name value = .ok v) : v.Sound := by
  obtain ⟨t, ht, hrest⟩ := bind_eq_ok_iff.1 h
  obtain ⟨i, -, hrest⟩ := bind_eq_ok_iff.1 hrest
  split at hrest
  · rename_i text hliteral
    cases hrest
    refine ⟨plain_of_read ht, ?_⟩
    intro value hvalue
    obtain rfl := Option.some.inj hvalue
    exact ⟨text, hliteral⟩
  · cases hrest

/-- **A declaration that can be read is sound.** -/
theorem sound_of_declarationRead {cs : List Char} {d : Declaration}
    (h : Declaration.read cs = .ok d) : d.Sound := by
  rw [Declaration.read] at h
  split at h
  · rename_i form _
    match form, h with
    | .variable type name, h =>
        obtain ⟨t, ht, heq⟩ := bind_eq_ok_iff.1 h
        cases heq
        exact ⟨plain_of_read ht, by simp⟩
    | .constant type name value, h =>
        obtain ⟨v, hv, heq⟩ := bind_eq_ok_iff.1 h
        cases heq
        exact sound_of_readConstant hv
    | .kernel name arguments isDefault, h =>
        obtain ⟨k, hk, heq⟩ := bind_eq_ok_iff.1 h
        cases heq
        obtain ⟨packet?, hpacket, heq⟩ := bind_eq_ok_iff.1 hk
        cases heq
        exact sound_of_packetRead hpacket
    | .function name arguments, h =>
        obtain ⟨packet?, hpacket, heq⟩ := bind_eq_ok_iff.1 h
        cases heq
        exact sound_of_packetRead hpacket
  · cases h

/-- **Reading gives sound surfaces.** -/
theorem sound_of_read {text : String} {s : Surface} (h : Surface.read text = .ok s) : s.Sound := by
  obtain ⟨ds, hds, heq⟩ := bind_eq_ok_iff.1 h
  cases heq
  have hsound (d : Declaration) (hd : d ∈ ds) : d.Sound := by
    obtain ⟨cs, -, hcs⟩ := exists_of_mem_mapM hds hd
    exact sound_of_declarationRead hcs
  refine ⟨fun v hv => ?_, fun k hk => ?_, fun f hf => ?_⟩
  · obtain ⟨d, hd, hdv⟩ := List.mem_filterMap.1 hv
    cases d <;> cases hdv
    exact hsound _ hd
  · obtain ⟨d, hd, hdk⟩ := List.mem_filterMap.1 hk
    cases d <;> cases hdk
    exact hsound _ hd
  · obtain ⟨d, hd, hdf⟩ := List.mem_filterMap.1 hf
    cases d <;> cases hdf
    exact hsound _ hd

/-- **What can be read can be generated.**  Whatever a description declares, both files of every
class come out without a fault, whatever the embedded bytes are, and both end at level zero. -/
theorem exists_generate_of_read [Append τ] [Textual τ] {text : String} {s : Surface}
    (h : Surface.read text = .ok s) (c : ScriptClass τ) (bytes : List UInt8) :
    ∃ header implementation, Header.generate c s.slots = .ok header ∧
      Implementation.generate c s.slots bytes = .ok implementation ∧
      header.level = 0 ∧ implementation.level = 0 := by
  have hsound := sound_of_read h
  obtain ⟨header, hheader⟩ := hsound.exists_header c
  obtain ⟨implementation, himplementation⟩ := hsound.exists_implementation c bytes
  refine ⟨header, implementation, hheader, himplementation, ?_, ?_⟩
  · obtain ⟨_, _, _, _, -, -, -, -, rfl⟩ := Header.generate_eq_ok_iff.1 hheader
    rfl
  · obtain ⟨_, _, -, -, rfl⟩ := Implementation.generate_eq_ok_iff.1 himplementation
    rfl

theorem exists_generate_of_read_scale :
    ∃ s, Surface.read "const float3 scale = 2.5f; foreach mix(in, return, double w);" = .ok s ∧
      ∃ header implementation,
        Header.generate ⟨"ScriptC_scale", "scale.rs", ""⟩ s.slots = .ok header ∧
        Implementation.generate ⟨"ScriptC_scale", "scale.rs", ""⟩ s.slots [0, 255] =
          .ok implementation ∧
        header.level = 0 ∧ implementation.level = 0 := by
  obtain ⟨s, hs⟩ : ∃ s,
      Surface.read "const float3 scale = 2.5f; foreach mix(in, return, double w);" = .ok s :=
    ⟨_, rfl⟩
  exact ⟨s, hs, exists_generate_of_read hs ⟨"ScriptC_scale", "scale.rs", ""⟩ [0, 255]⟩

end ScriptBindings
