import ScriptBindings.Proofs.Code.Variables
import ScriptBindings.Proofs.Constant.Shape
import ScriptBindings.Proofs.Description.Failure
import ScriptBindings.Proofs.Description.Generable
import ScriptBindings.Proofs.Description.Grammar

/-!
# The elements of constants

The literal of a vector or a matrix should have as many entries as its type has elements.  A matrix
asks for that many values, and a single value stands for every element of a vector.  The values of
a vector that is given as a group are not counted, so that its literal has as many entries as the
group has values.

* `entryCount?` — how many entries a literal has, read from its text.
* `ScriptType.Fits` — a value that gives exactly the elements of a type.
* `Declaration.Miscounts` — a constant whose group has another number of values than its vector has
  elements, and that is not turned down for it.
* `keepsCount_iff` — a description keeps to the numbers of elements unless one of its declarations
  is such a constant.
-/

namespace ScriptBindings

open ScriptBindings.Text Traversal

/-! ## Counting the entries of a literal -/

/-- **The entries of a list in braces**: what stands between its commas, without blanks around
it. -/
def entries? (text : List Char) : Option (List (List Char)) :=
  (Initializer.inside? text).map fun inside =>
    if Blank inside then [] else (pieces (· == ',') inside).map trim

/-- The number of entries of a literal; `none` if it is no list. -/
def entryCount? (literal : String) : Option Nat :=
  (entries? literal.toList).map List.length

/-- **The entries of a list are read back**, as long as they have no commas. -/
theorem entries?_list {parts : List (List Char)} (htight : ∀ p ∈ parts, Tight p)
    (hcomma : ∀ p ∈ parts, ',' ∉ p) :
    entries? ('{' :: (List.intercalate [',', ' '] parts ++ ['}'])) = some parts := by
  have hinside : Initializer.inside? ('{' :: (List.intercalate [',', ' '] parts ++ ['}'])) =
      some (List.intercalate [',', ' '] parts) := by
    simp [Initializer.inside?]
  rw [entries?, hinside, Option.map_some]
  cases parts with
  | nil => rfl
  | cons first rest =>
      have hkept := (Tight.intercalate (List.cons_ne_nil first rest) htight).not_blank
      have htrim : ∀ p ∈ rest, trim (' ' :: p) = p := fun p hp =>
        trim_eq_iff.2 ⟨[' '], [], by simp, by simp [Blank], blank_nil,
          (htight p (List.mem_cons_of_mem _ hp)).bare⟩
      have hrest : (rest.map (' ' :: ·)).map trim = rest := by
        rw [List.map_map]
        exact (List.map_congr_left htrim).trans (List.map_id rest)
      rw [if_neg hkept, pieces_intercalate hcomma, List.map_cons, hrest,
        trim_eq_self (htight first (by simp)).bare]

/-- **The literals of a scalar, put in braces,** are as many entries. -/
theorem entryCount?_braced {s : Scalar} {values : List Initializer} {texts : List String}
    (h : values.mapM (ScriptType.scalarLiteral (.known s)) = .ok texts) :
    entryCount? (braced texts) = some values.length := by
  have hwrites := writes_of_mem_scalarLiterals h
  have hcomma : ∀ p ∈ texts.map String.toList, ',' ∉ p := fun p hp =>
    (hwrites p hp).consists.not_mem (by decide) (by decide)
  rw [entryCount?, toList_braced, entries?_list (fun p hp => (hwrites p hp).tight) hcomma,
    Option.map_some, List.length_map, (mapM_eq_ok_iff.1 h).length_eq]

/-! ## Types and values -/

namespace ScriptType

/-- **The number of elements** of a vector or a matrix. -/
def elementCount? : ScriptType → Option Nat
  | vector _ length => some length.toNat
  | matrix rows => some (rows * rows).toNat
  | _ => none

/-- **A value that gives exactly the elements of a type**: a group of as many values, or, for a
vector, a single value that stands for all of them. -/
inductive Fits : ScriptType → Initializer → Prop
  | single {element : Tag Scalar} {length : Int} {value : Initializer}
      (single : ∀ items, value ≠ .group items) : Fits (vector element length) value
  | vector {element : Tag Scalar} {length : Int} {items : List Initializer}
      (counted : (items.length : Int) = length) : Fits (vector element length) (.group items)
  | matrix {rows : Int} {items : List Initializer}
      (counted : (items.length : Int) = rows * rows) : Fits (matrix rows) (.group items)

theorem Plain.numeric {s : Scalar} {length : Int}
    (h : (ScriptType.vector (.known s) length).Plain) : s ≠ .bool := by
  cases h
  assumption

/-- **The entries of a vector's literal** are as many as its elements exactly if the value fits. -/
theorem entryCount?_vector_iff {s : Scalar} {length : Int} {value : Initializer} {text : String}
    (hlength : 0 ≤ length) (h : (vector (.known s) length).literal value = .ok text) :
    entryCount? text = some length.toNat ↔ Fits (vector (.known s) length) value := by
  obtain ⟨-, texts, htexts, rfl⟩ := literal_vector_eq_ok_iff.1 h
  rw [entryCount?_braced htexts, Option.some_inj]
  cases value with
  | group items =>
      constructor
      · intro hcount
        refine .vector ?_
        rw [← Int.toNat_of_nonneg hlength, ← hcount]
        rfl
      · rintro (hsingle | hcount)
        · exact absurd rfl (hsingle items)
        · rw [← hcount]
          rfl
  | _ => exact iff_of_true List.length_replicate (.single nofun)

/-- **The entries of a matrix's literal** are as many as its elements, and its value fits. -/
theorem entryCount?_matrix {rows : Int} {value : Initializer} {text : String}
    (h : (matrix rows).literal value = .ok text) :
    entryCount? text = some (rows * rows).toNat ∧ Fits (matrix rows) value := by
  obtain ⟨items, texts, rfl, hcount, htexts, rfl⟩ := literal_matrix_eq_ok_iff.1 h
  refine ⟨?_, .matrix hcount⟩
  rw [entryCount?_braced htexts, ← hcount]
  rfl

/-- **The entries of a literal** are as many as the elements of its type exactly if the value
fits. -/
theorem Plain.entryCount?_iff {type : ScriptType} (hplain : type.Plain) {value : Initializer}
    {text : String} {n : Nat} (h : type.literal value = .ok text)
    (hn : type.elementCount? = some n) : entryCount? text = some n ↔ type.Fits value := by
  cases hplain with
  | @vector s length _ hshort =>
      cases hn
      exact entryCount?_vector_iff (by omega) h
  | matrix =>
      cases hn
      obtain ⟨hcount, hfits⟩ := entryCount?_matrix h
      exact iff_of_true hcount hfits
  | scalar | object => cases hn

/-- A matrix is given nothing but a group of the right size. -/
theorem literal_matrix_of_not_fits {rows : Int} {value : Initializer}
    (h : ¬ Fits (matrix rows) value) :
    (matrix rows).literal value = .error (.wrongElementCount rows) := by
  obtain ⟨rendered, hrender⟩ : ∃ rendered, (matrix rows).render = .ok rendered := ⟨_, rfl⟩
  rw [literal, hrender, ok_bind]
  cases value with
  | group items => exact if_neg fun hcount => h (.matrix hcount)
  | _ => rfl

/-- **What does not fit** a vector is a group. -/
theorem Plain.eq_of_not_fits {type : ScriptType} (hplain : type.Plain) {value : Initializer}
    (hcounted : type.elementCount? ≠ none) (h : ¬ type.Fits value) :
    (∃ rows, type = .matrix rows) ∨ ∃ s length items, type = .vector (.known s) length ∧
      value = .group items ∧ (items.length : Int) ≠ length := by
  cases hplain with
  | @vector s length _ _ =>
      cases value with
      | group items => exact .inr ⟨s, length, items, rfl, rfl, fun hcount => h (.vector hcount)⟩
      | _ => exact absurd (.single nofun) h
  | @matrix rows _ => exact .inl ⟨rows, rfl⟩
  | scalar | object => exact absurd rfl hcounted

end ScriptType

/-! ## Constants as they are declared -/

theorem isReported_ofFault_iff {name : String} {fault : Fault} :
    (ReadError.ofFault name fault).isReported ↔ ¬ fault.Unreported := by
  rw [ReadError.ofFault, Fault.Unreported]
  cases fault.kind <;> simp [ReadError.isReported]

/-- **A declaration of a constant** of a type, with a value that can be read. -/
inductive Declaration.Gives (cs : List Char) (type : ScriptType) (value : Initializer) : Prop
  | constant {typeName name : String} {text : List Char}
      (form : Form.Spells cs (.constant typeName name text))
      (isType : ScriptType.ofName? typeName = some type)
      (isValue : Initializer.read text = .ok value)

/-- **A constant whose entries are miscounted**: a vector is given a group of another size, and the
group is not turned down, since all of its values have a literal or the first that has none is
beyond the range of the type. -/
inductive Declaration.Miscounts (cs : List Char) : Prop
  | group {s : Scalar} {length : Int} {items : List Initializer}
      (given : Declaration.Gives cs (.vector (.known s) length) (.group items))
      (surplus : (items.length : Int) ≠ length)
      (passed : (∀ item ∈ items, ∃ text, ScriptType.scalarLiteral (.known s) item = .ok text) ∨
        ∃ fault, (ScriptType.vector (.known s) length).Exceeds (.group items) fault)

namespace Declaration

variable {cs : List Char} {type : ScriptType} {value : Initializer}

theorem Gives.plain (h : Gives cs type value) : type.Plain := by
  obtain ⟨-, htype, -⟩ := h
  exact ScriptType.plain_of_ofName? htype

/-- **A constant is read by writing its literal.** -/
theorem Gives.read_eq (h : Gives cs type value) :
    ∃ name, Declaration.read cs = match type.literal value with
      | .ok _ => .ok (.variable ⟨name, type, some value⟩)
      | .error fault => .error (.ofFault name fault) := by
  obtain ⟨hform, htype, hvalue⟩ := h
  rename_i typeName name text
  refine ⟨name, ?_⟩
  have hconstant : Declaration.readConstant typeName name text = match type.literal value with
      | .ok _ => .ok ⟨name, type, some value⟩
      | .error fault => .error (.ofFault name fault) := by
    rw [readConstant, typeRead_eq_ok_iff.2 htype, ok_bind, hvalue]
    rfl
  rw [Declaration.read, Form.ofChars?_eq_some_iff.2 hform]
  show (do return Declaration.variable (← readConstant typeName name text)) = _
  rw [hconstant]
  cases type.literal value <;> rfl

/-- A constant that can be read is declared with its value. -/
theorem Spells.gives {v : Variable} (h : Declaration.Spells cs (.variable v))
    (hvalue : v.constant? = some value) : Gives cs v.type value := by
  cases h with
  | «variable» => cases hvalue
  | constant hform htype hread =>
      cases hvalue
      exact .constant hform htype hread

/-- A miscounted constant is given what does not fit its type. -/
theorem Miscounts.exists_gives (h : Miscounts cs) :
    ∃ type value, Gives cs type value ∧ type.elementCount? ≠ none ∧ ¬ type.Fits value := by
  obtain ⟨hgives, hsurplus, -⟩ := h
  refine ⟨_, _, hgives, nofun, ?_⟩
  rintro (hsingle | hcounted)
  · exact hsingle _ rfl
  · exact hsurplus hcounted

/-- **A miscounted constant** is not turned down by an error that is reported. -/
theorem Miscounts.not_rejected (h : Miscounts cs) :
    ¬ ∃ e, Declaration.read cs = .error e ∧ e.isReported := by
  rintro ⟨e, he, hreported⟩
  obtain @⟨s, length, items, hgives, -, hpassed⟩ := h
  obtain ⟨name, hread⟩ := hgives.read_eq
  rw [he] at hread
  rcases hpassed with hitems | ⟨fault, hexceeds⟩
  · obtain ⟨texts, htexts⟩ := exists_mapM_eq_ok hitems
    have hliteral : (ScriptType.vector (.known s) length).literal (.group items) =
        .ok (braced texts) :=
      literal_vector_eq_ok_iff.2 ⟨hgives.plain.numeric, texts, htexts, rfl⟩
    rw [hliteral] at hread
    cases hread
  · obtain ⟨hfault, hunreported⟩ := (literal_unreported_iff hgives.plain).2 hexceeds
    rw [hfault] at hread
    cases hread
    exact isReported_ofFault_iff.1 hreported hunreported

/-- **A constant that does not fit** is turned down, unless its entries are miscounted. -/
theorem Gives.rejected (h : Gives cs type value) (hcounted : type.elementCount? ≠ none)
    (hfits : ¬ type.Fits value) (hcs : ¬ Miscounts cs) :
    ∃ e, Declaration.read cs = .error e ∧ e.isReported := by
  obtain ⟨name, hread⟩ := h.read_eq
  rcases h.plain.eq_of_not_fits hcounted hfits with ⟨rows, rfl⟩ | ⟨s, length, items, rfl, rfl, hne⟩
  · rw [ScriptType.literal_matrix_of_not_fits hfits] at hread
    exact ⟨_, hread, rfl⟩
  cases hliteral : (ScriptType.vector (.known s) length).literal (.group items) with
  | ok text =>
      obtain ⟨-, texts, htexts, -⟩ := literal_vector_eq_ok_iff.1 hliteral
      refine absurd (.group h hne (.inl fun item hitem => ?_)) hcs
      exact exists_ok_of_mapM htexts hitem
  | error fault =>
      rw [hliteral] at hread
      refine ⟨_, hread, isReported_ofFault_iff.2 fun hunreported => ?_⟩
      have hexceeds := (literal_unreported_iff h.plain).1 ⟨hliteral, hunreported⟩
      exact hcs (.group h hne (.inr ⟨fault, hexceeds⟩))

end Declaration

/-! ## Descriptions that keep to the numbers of elements -/

/-- **A header with a getter** of a variable that returns a literal. -/
def Header.Returns {τ : Type} [Append τ] [Textual τ] (header : Buffer τ) (v : Variable)
    (literal : String) : Prop :=
  ∃ typeName, v.type.cppName = .ok typeName ∧ Textual.ofStrings
    ["    " ++ typeName ++ " get_" ++ v.name ++ "() const \x7b",
     "        return " ++ literal ++ ";",
     "    \x7d",
     ""] <:+: header.lines

/-- **A description keeps to the numbers of elements.** -/
structure KeepsCount (text : String) : Prop where
  /-- If the description can be read, every constant with elements has a literal with one entry for
  each of them, and the header of every class returns it. -/
  complete : ∀ s, Surface.read text = .ok s → ∀ v ∈ s.globals, ∀ value n,
    v.constant? = some value → v.type.elementCount? = some n →
      ∃ literal, v.type.literal value = .ok literal ∧ entryCount? literal = some n ∧
        ∀ (τ : Type) [Append τ] [Textual τ] (c : ScriptClass τ), ∃ header,
          Header.generate c s.slots = .ok header ∧ Header.Returns header v literal
  /-- A declaration that gives its constant another number of values is turned down by an error that
  is reported.  If no declaration before it is at fault, that is the error of the description. -/
  rejected : ∀ before cs after, Declaration.split text.toList = before ++ cs :: after →
    (∀ d ∈ before, ∃ r, Declaration.read d = .ok r) →
      ∀ type value, Declaration.Gives cs type value → type.elementCount? ≠ none →
        ¬ type.Fits value →
          ∃ e, Declaration.read cs = .error e ∧ e.isReported ∧ Surface.read text = .error e

section

variable {text : String} {s : Surface} {v : Variable} {value : Initializer}

/-- In a description that can be read, every declaration can. -/
theorem exists_declarationRead (h : Surface.read text = .ok s) :
    ∀ cs ∈ Declaration.split text.toList, ∃ r, Declaration.read cs = .ok r := by
  obtain ⟨ds, hds, -⟩ := bind_eq_ok_iff.1 h
  exact fun cs hcs => exists_ok_of_mapM hds hcs

/-- **A constant that is read** is declared with its value. -/
theorem exists_gives_of_read (h : Surface.read text = .ok s) (hv : v ∈ s.globals)
    (hvalue : v.constant? = some value) :
    ∃ cs ∈ Declaration.split text.toList, Declaration.Gives cs v.type value := by
  obtain ⟨ds, hds, rfl⟩ := read_eq_ok_iff.1 h
  obtain ⟨d, hd, hdv⟩ := List.mem_filterMap.1 hv
  cases d with
  | kernel | function => cases hdv
  | «variable» w =>
      obtain rfl := Option.some.inj hdv
      obtain ⟨cs, hcs, hspells⟩ := exists_of_forall₂_right hds hd
      exact ⟨cs, hcs, Declaration.Spells.gives hspells hvalue⟩

/-- **A constant that is read has a value that fits,** if no declaration miscounts its entries. -/
theorem fits_of_read (h : Surface.read text = .ok s) (hv : v ∈ s.globals)
    (hvalue : v.constant? = some value) (hcounted : v.type.elementCount? ≠ none)
    (hcounts : ∀ cs ∈ Declaration.split text.toList, ¬ Declaration.Miscounts cs) :
    v.type.Fits value := by
  by_contra hfits
  obtain ⟨cs, hcs, hgives⟩ := exists_gives_of_read h hv hvalue
  obtain ⟨e, he, -⟩ := hgives.rejected hcounted hfits (hcounts cs hcs)
  obtain ⟨r, hr⟩ := exists_declarationRead h cs hcs
  rw [he] at hr
  cases hr

/-- **The literal of a constant is what the header returns.** -/
theorem exists_returns {τ : Type} [Append τ] [Textual τ] {c : ScriptClass τ} {header : Buffer τ}
    {literal : String} (h : Header.generate c s.slots = .ok header) (hv : v ∈ s.globals)
    (hvalue : v.constant? = some value) (hliteral : v.type.literal value = .ok literal) :
    Header.Returns header v literal := by
  obtain ⟨slot, lines, haccessed, hlines⟩ := exists_accessedBy h hv
  cases haccessed with
  | mutable hunset => rw [hunset] at hvalue; cases hvalue
  | constant hset htyped hwritten =>
      obtain rfl := Option.some.inj (hset.symm.trans hvalue)
      obtain rfl := Except.ok.inj (hwritten.symm.trans hliteral)
      exact ⟨_, htyped, hlines⟩

/-- The first declaration that cannot be read has the error of the description. -/
theorem read_eq_error_of_split {before after : List (List Char)} {cs : List Char} {e : ReadError}
    (hsplit : Declaration.split text.toList = before ++ cs :: after)
    (hbefore : ∀ d ∈ before, ∃ r, Declaration.read d = .ok r) (h : Declaration.read cs = .error e) :
    Surface.read text = .error e := by
  rw [Surface.read]
  exact bind_eq_error_iff.2
    (.inl (mapM_eq_error_iff.2 ⟨before, cs, after, hsplit, hbefore, h⟩))

end

/-- **Constants have the right number of elements,** and those that do not are turned down, unless
a declaration with none at fault before it miscounts its entries. -/
theorem keepsCount_iff (text : String) :
    KeepsCount text ↔
      ¬ ∃ before cs after, Declaration.split text.toList = before ++ cs :: after ∧
        (∀ d ∈ before, ∃ r, Declaration.read d = .ok r) ∧ Declaration.Miscounts cs := by
  constructor
  · rintro hkeeps ⟨before, cs, after, hsplit, hbefore, hcs⟩
    obtain ⟨type, value, hgives, hcounted, hfits⟩ := hcs.exists_gives
    obtain ⟨e, he, hreported, -⟩ :=
      hkeeps.rejected before cs after hsplit hbefore type value hgives hcounted hfits
    exact hcs.not_rejected ⟨e, he, hreported⟩
  · intro h
    constructor
    · intro s hs v hv value n hvalue hn
      obtain ⟨literal, hliteral⟩ := ((sound_of_read hs).globals v hv).literal value hvalue
      have hcounts : ∀ cs ∈ Declaration.split text.toList, ¬ Declaration.Miscounts cs := by
        intro cs hmem hcs
        obtain ⟨before, after, hsplit⟩ := List.append_of_mem hmem
        -- every declaration is read, and so are those before this one
        have hread := exists_declarationRead hs
        exact h ⟨before, cs, after, hsplit, fun d hd => hread d (by simp [hsplit, hd]), hcs⟩
      have hfits := fits_of_read hs hv hvalue (by simp [hn]) hcounts
      obtain ⟨cs, -, hgives⟩ := exists_gives_of_read hs hv hvalue
      refine ⟨literal, hliteral, (hgives.plain.entryCount?_iff hliteral hn).2 hfits,
        fun τ _ _ c => ?_⟩
      obtain ⟨header, hheader⟩ := (sound_of_read hs).exists_header c
      exact ⟨header, hheader, exists_returns hheader hv hvalue hliteral⟩
    · intro before cs after hsplit hbefore type value hgives hcounted hfits
      have hcs : ¬ Declaration.Miscounts cs :=
        fun hcs => h ⟨before, cs, after, hsplit, hbefore, hcs⟩
      obtain ⟨e, he, hreported⟩ := hgives.rejected hcounted hfits hcs
      exact ⟨e, he, hreported, read_eq_error_of_split hsplit hbefore he⟩

/-- A vector of two that is given three values has a literal with three entries. -/
theorem not_keepsCount_three : ¬ ∀ text : String, KeepsCount text := by
  intro h
  obtain ⟨s, hs, v, hv, value, hvalue, hn, hcount⟩ :
      ∃ s, Surface.read "const float2 v = {0.5, 1.5, 2.5};" = .ok s ∧ ∃ v ∈ s.globals, ∃ value,
        v.constant? = some value ∧ v.type.elementCount? = some 2 ∧
        ∀ literal, v.type.literal value = .ok literal → entryCount? literal = some 3 :=
    ⟨_, rfl, _, List.mem_singleton.2 rfl, _, rfl, rfl, by rintro _ ⟨⟩; decide⟩
  obtain ⟨literal, hliteral, htwo, -⟩ := (h _).complete s hs v hv value 2 hvalue hn
  rw [hcount literal hliteral] at htwo
  cases htwo

end ScriptBindings
