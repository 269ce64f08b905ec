import Mathlib.Data.List.TakeWhile
import ScriptBindings.Proofs.Code.Lines

/-!
# Variables in the header

A mutable variable has three parts in the header: a member that stores it, a setter that also tells
the runtime, and a getter.  A constant has a getter only.  The storage and the accessors come from
two passes over one list of variables; in the second one a constant takes a slot and emits no
setter.

* `StoredBy`, `AccessedBy` — the lines that belong to one variable, spelled out.
* `setVarSlot?` — the slot that a line of a header tells the runtime, read from the text of the
  line.
* `Header.ShowsVariables` — the whole of what a header says about the variables of a surface.
* `exists_showsVariables` — every generated header says it.

### What is load-bearing

The slots are read back from *all* lines of the file as they are shown, whatever the names on the
surface are.  No name can imitate a call of `setVar`: every other line has a character that a call
cannot have (`setVarSlot?_eq_none`), and this one character is the whole argument for each kind of
line.
-/

namespace ScriptBindings

open Traversal

/-! ## The lines of one variable -/

/-- **The member that stores a variable.** -/
inductive StoredBy (v : Variable) : String → Prop
  | member {typeName : String} (typed : v.type.cppName = .ok typeName) :
      StoredBy v ("    " ++ typeName ++ " __" ++ v.name ++ ";")

/-- The statement of a setter that tells the runtime. -/
def setVarLine (slot : Nat) : String :=
  "        setVar(" ++ toString slot ++ ", &v, sizeof(v));"

/-- **The accessors of a variable** at a slot: setter and getter of a mutable variable, the getter
of a constant, which returns its literal.  An empty line ends them. -/
inductive AccessedBy (slot : Nat) (v : Variable) : List String → Prop
  | mutable {typeName : String} (unset : v.constant? = none)
      (typed : v.type.cppName = .ok typeName) :
      AccessedBy slot v [
        "    void set_" ++ v.name ++ "(" ++ typeName ++ " v) \x7b",
        setVarLine slot,
        "        __" ++ v.name ++ " = v;",
        "    \x7d",
        "    " ++ typeName ++ " get_" ++ v.name ++ "() const \x7b",
        "        return __" ++ v.name ++ ";",
        "    \x7d",
        ""]
  | constant {value : Initializer} {typeName literal : String} (set : v.constant? = some value)
      (typed : v.type.cppName = .ok typeName) (written : v.type.literal value = .ok literal) :
      AccessedBy slot v [
        "    " ++ typeName ++ " get_" ++ v.name ++ "() const \x7b",
        "        return " ++ literal ++ ";",
        "    \x7d",
        ""]

theorem storedBy_of_storageLine {v : Variable} {line : String}
    (h : Header.storageLine v = .ok line) : StoredBy v (Buffer.atLevel 1 line) := by
  obtain ⟨typeName, htyped, heq⟩ := bind_eq_ok_iff.1 h
  cases heq
  rw [Buffer.atLevel_one (by simp)]
  simpa [String.append_assoc] using StoredBy.member htyped

/-- A line with a fixed beginning, one level in. -/
theorem atLevel_one_append {start : String} (h : start ≠ "") (rest : String) :
    Buffer.atLevel 1 (start ++ rest) = "    " ++ start ++ rest := by
  rw [Buffer.atLevel_one (by simp [h]), String.append_assoc]

/-- The lines of a setter, one level in. -/
theorem map_atLevel_setter (slot : Nat) (name typeName : String) :
    (Header.setter slot name typeName).map (Buffer.atLevel 1) =
      ["    void set_" ++ name ++ "(" ++ typeName ++ " v) \x7b",
       setVarLine slot,
       "        __" ++ name ++ " = v;",
       "    \x7d"] := by
  unfold Header.setter setVarLine
  simp only [List.map_cons, List.map_nil, String.append_assoc]
  rw [atLevel_one_append (by decide), atLevel_one_append (by decide),
    atLevel_one_append (by decide)]
  rfl

/-- The lines of a getter, one level in. -/
theorem map_atLevel_getter (name typeName result : String) :
    (Header.getter name typeName result).map (Buffer.atLevel 1) =
      ["    " ++ typeName ++ " get_" ++ name ++ "() const \x7b",
       "        return " ++ result ++ ";",
       "    \x7d"] := by
  have hfirst : typeName ++ (" get_" ++ (name ++ "() const \x7b")) ≠ "" := by simp
  simp only [Header.getter, List.map_cons, List.map_nil, String.append_assoc]
  rw [Buffer.atLevel_one hfirst, atLevel_one_append (by decide)]
  rfl

/-- **The accessors of one variable**, one level in. -/
theorem accessedBy_of_accessors {slot : Nat} {v : Variable} {lines : List String}
    (h : Header.accessors slot v = .ok lines) :
    AccessedBy slot v (lines.map (Buffer.atLevel 1)) := by
  obtain ⟨typeName, htyped, hrest⟩ := bind_eq_ok_iff.1 h
  cases hv : v.constant? with
  | none =>
      rw [hv] at hrest
      cases hrest
      have hreturn : "        return " ++ ("__" ++ v.name) ++ ";" =
          "        return __" ++ v.name ++ ";" := by
        rw [← String.append_assoc]
        rfl
      rw [List.map_append, List.map_append, map_atLevel_setter, map_atLevel_getter, hreturn]
      exact .mutable hv htyped
  | some value =>
      rw [hv] at hrest
      obtain ⟨literal, hliteral, heq⟩ := bind_eq_ok_iff.1 hrest
      cases heq
      rw [List.map_append, map_atLevel_getter]
      exact .constant hv htyped hliteral

/-! ## Reading slots from lines -/

/-- **The slot that a line tells the runtime**: that of a setter's call, and none of any other
line. -/
def setVarSlot? (line : String) : Option Nat := do
  let rest ← "        setVar(".toList.isPrefixOf? line.toList
  let digits := rest.takeWhile Char.isDigit
  if digits ≠ [] ∧ rest.dropWhile Char.isDigit = ", &v, sizeof(v));".toList then
    some (Nat.ofDigitChars 10 digits 0)
  else none

@[simp] theorem setVarSlot?_setVarLine (slot : Nat) :
    setVarSlot? (setVarLine slot) = some slot := by
  have hdigits : ∀ c ∈ Nat.toDigits 10 slot, c.isDigit = true :=
    fun c hc => Nat.isDigit_of_mem_toDigits (by decide) (by decide) hc
  have hline : (setVarLine slot).toList =
      "        setVar(".toList ++ (Nat.toDigits 10 slot ++ ", &v, sizeof(v));".toList) := by
    show ("        setVar(" ++ toString slot ++ ", &v, sizeof(v));").toList = _
    simp
  have hrest : "        setVar(".toList.isPrefixOf? (setVarLine slot).toList =
      some (Nat.toDigits 10 slot ++ ", &v, sizeof(v));".toList) :=
    List.isPrefixOf?_eq_some_iff_append_eq.2 hline.symm
  have hstop : (", &v, sizeof(v));".toList).dropWhile Char.isDigit = ", &v, sizeof(v));".toList ∧
      (", &v, sizeof(v));".toList).takeWhile Char.isDigit = [] := by decide
  simp only [setVarSlot?, hrest, Option.bind_eq_bind, Option.bind_some,
    List.dropWhile_append_of_pos hdigits, List.takeWhile_append_of_pos hdigits, hstop.1, hstop.2,
    List.append_nil, Nat.ofDigitChars_toDigits (by decide : 1 < 10) (by decide : 10 ≤ 10)]
  exact if_pos ⟨Nat.toDigits_ne_nil, trivial⟩

/-- The characters of a call besides its digits. -/
def callCharacters : List Char :=
  [' ', 's', 'e', 't', 'V', 'a', 'r', '(', ',', '&', 'v', 'i', 'z', 'o', 'f', ')', ';']

/-- **A line with a character that a call cannot have** tells the runtime no slot. -/
theorem setVarSlot?_eq_none {line : String} {c : Char} (hc : c ∈ line.toList)
    (hdigit : c.isDigit = false) (hcall : c ∉ callCharacters) : setVarSlot? line = none := by
  unfold setVarSlot?
  cases hrest : "        setVar(".toList.isPrefixOf? line.toList with
  | none => rfl
  | some rest =>
      have hline := List.isPrefixOf?_eq_some_iff_append_eq.1 hrest
      refine if_neg fun ⟨_, hend⟩ => ?_
      -- A call is its beginning, its digits and its end, and the character is in none of them.
      have hbefore : "        setVar(".toList ⊆ callCharacters := by decide
      have hafter : ", &v, sizeof(v));".toList ⊆ callCharacters := by decide
      rw [← hline, ← List.takeWhile_append_dropWhile (p := Char.isDigit) (l := rest), hend,
        List.mem_append, List.mem_append] at hc
      rcases hc with hc | hc | hc
      · exact hcall (hbefore hc)
      · rw [List.mem_takeWhile_imp hc] at hdigit
        cases hdigit
      · exact hcall (hafter hc)

/-- A line with such a character tells no slot at any level. -/
theorem setVarSlot?_atLevel {level : Nat} {line : String} {c : Char} (hc : c ∈ line.toList)
    (hdigit : c.isDigit = false) (hcall : c ∉ callCharacters) :
    setVarSlot? (Buffer.atLevel level line) = none := by
  refine setVarSlot?_eq_none (c := c) ?_ hdigit hcall
  rw [Buffer.atLevel]
  split
  · rename_i hempty
    rw [String.isEmpty_iff.1 hempty] at hc
    exact hc
  · simp [hc]

/-! ## All lines of a header -/

/-- The storage tells no slot. -/
theorem StoredBy.setVarSlot?_eq_none {v : Variable} {line : String} (h : StoredBy v line) :
    setVarSlot? line = none := by
  cases h with
  | member typed => exact ScriptBindings.setVarSlot?_eq_none (c := '_') (by simp) rfl (by decide)

/-- **The accessors of a variable** tell its slot if it is mutable, and no slot otherwise. -/
theorem AccessedBy.filterMap_setVarSlot? {slot : Nat} {v : Variable} {lines : List String}
    (h : AccessedBy slot v lines) :
    lines.filterMap setVarSlot? = if v.isConstant then [] else [slot] := by
  have hclose : setVarSlot? "    \x7d" = none := by decide
  have hempty : setVarSlot? "" = none := by decide
  have hget (name typeName : String) :
      setVarSlot? ("    " ++ typeName ++ " get_" ++ name ++ "() const \x7b") = none :=
    setVarSlot?_eq_none (c := '_') (by simp) rfl (by decide)
  have hreturn (result : String) : setVarSlot? ("        return " ++ result ++ ";") = none :=
    setVarSlot?_eq_none (c := 'u') (by simp) rfl (by decide)
  cases h with
  | mutable unset typed =>
      have hset (typeName : String) :
          setVarSlot? ("    void set_" ++ v.name ++ "(" ++ typeName ++ " v) \x7b") = none :=
        setVarSlot?_eq_none (c := '_') (by simp) rfl (by decide)
      have hstore : setVarSlot? ("        __" ++ v.name ++ " = v;") = none :=
        setVarSlot?_eq_none (c := '_') (by simp) rfl (by decide)
      have hreturn' : setVarSlot? ("        return __" ++ v.name ++ ";") = none :=
        setVarSlot?_eq_none (c := '_') (by simp) rfl (by decide)
      simp [hset, hstore, hclose, hempty, hget, hreturn', Variable.isConstant, unset]
  | constant set typed written =>
      simp [hget, hreturn, hclose, hempty, Variable.isConstant, set]

/-- **The accessors of numbered variables** tell the numbers of the mutable ones, in order. -/
theorem filterMap_setVarSlot?_accessors {globals : List (Nat × Variable)}
    {accessors : List (List String)}
    (h : List.Forall₂ (fun e lines => AccessedBy e.1 e.2 lines) globals accessors) :
    accessors.flatten.filterMap setVarSlot? =
      (globals.filter (!·.2.isConstant)).map Prod.fst := by
  induction h with
  | nil => rfl
  | @cons e lines globals accessors hlines _ ih =>
      rw [List.flatten_cons, List.filterMap_append, hlines.filterMap_setVarSlot?, ih,
        List.filter_cons]
      cases e.2.isConstant <;> simp

/-- The line of a kernel or a function names its method with an underscore. -/
theorem underscore_mem_kernelLine {e : Option Nat × Kernel} {line : String}
    (h : Header.kernelLine e = .ok line) : '_' ∈ line.toList := by
  obtain ⟨_ | slot, k⟩ := e
  · cases h
    decide
  · obtain ⟨parameters, -, heq⟩ := bind_eq_ok_iff.1 h
    cases heq
    simp [signatureText, Kernel.methodName]

theorem underscore_mem_functionLine {f : Function} {line : String}
    (h : Header.functionLine f = .ok line) : '_' ∈ line.toList := by
  obtain ⟨parameters, -, heq⟩ := bind_eq_ok_iff.1 h
  cases heq
  simp [signatureText, Function.methodName]

variable {τ : Type}

/-- **The lines of constructor and destructor**, one level in. -/
theorem Header.map_atLevel_lifetimeLines (c : ScriptClass τ) :
    (Header.lifetimeLines c).map (Buffer.atLevel 1) =
      ["    " ++ c.name ++ "(" ++ ScriptClass.constructorArguments ++ ");",
       "    virtual ~" ++ c.name ++ "();", ""] := by
  have hfirst : c.name ++ ("(" ++ (ScriptClass.constructorArguments ++ ");")) ≠ "" := by simp
  simp only [Header.lifetimeLines, List.map_cons, List.map_nil, String.append_assoc]
  rw [Buffer.atLevel_one hfirst, atLevel_one_append (by decide)]
  rfl

variable [Append τ] [Textual τ]

/-- **What a header says about the variables of a surface**, with the lines of their storage and
the blocks of their accessors. -/
structure Header.ShowsVariables [DecidableEq τ] (c : ScriptClass τ) (s : Surface)
    (header : Buffer τ) (storage : List String) (accessors : List (List String)) : Prop where
  /-- The storage stands between the marks of the private and the public part. -/
  storage_section : (header.lines.dropWhile (· ≠ Textual.ofString "private:")).takeWhile
    (· ≠ Textual.ofString "public:") = Textual.ofStrings ("private:" :: storage)
  /-- There is one line of storage for each mutable variable, in order. -/
  stored : List.Forall₂ StoredBy (s.globals.filter (!·.isConstant)) storage
  /-- The public part begins with constructor and destructor, an empty line, and the accessors. -/
  accessors_section : Textual.ofStrings
    (["public:", "    " ++ c.name ++ "(" ++ ScriptClass.constructorArguments ++ ");",
      "    virtual ~" ++ c.name ++ "();", ""] ++ accessors.flatten) <+:
      header.lines.dropWhile (· ≠ Textual.ofString "public:")
  accessors_length : accessors.length = s.globals.length
  /-- A variable is accessed at the slot of its place among all variables. -/
  accessed : ∀ i v, s.globals[i]? = some v → ∃ lines, accessors[i]? = some lines ∧
    AccessedBy i v lines
  /-- The slots of the setters increase along the file. -/
  slots_increase : (header.lines.filterMap (setVarSlot? ∘ Textual.shown)).Pairwise (· < ·)
  /-- They are the places of the mutable variables. -/
  mem_slots : ∀ i, i ∈ header.lines.filterMap (setVarSlot? ∘ Textual.shown) ↔
    ∃ v, s.globals[i]? = some v ∧ v.constant? = none

/-- The lines before the private part. -/
def Header.preamble (c : ScriptClass τ) : List τ :=
  ScriptClass.notice c.source ++ Textual.ofStrings Header.includeLines ++ [Header.classLine c]

/-- The lines from the private part on. -/
def Header.body (c : ScriptClass τ) (storage : List String) (accessors : List (List String))
    (kernels functions : List String) : List String :=
  "private:" :: (storage.map (Buffer.atLevel 1) ++
    "public:" :: ((Header.lifetimeLines c).map (Buffer.atLevel 1) ++
      (accessors.map (·.map (Buffer.atLevel 1))).flatten ++
        ((kernels ++ functions).map (Buffer.atLevel 1) ++ ["\x7d;"])))

/-- No line of the preamble is shown as the mark of a part of the class, and none tells a slot. -/
theorem Header.preamble_spec {c : ScriptClass τ} {line : τ} (h : line ∈ Header.preamble c) :
    Textual.shown line ≠ "private:" ∧ Textual.shown line ≠ "public:" ∧
      setVarSlot? (Textual.shown line) = none := by
  have hne {line mark : String} (hfirst : line.toList.head? ≠ mark.toList.head?) : line ≠ mark := by
    rintro rfl
    exact hfirst rfl
  have hstring {s : String} (h : s ≠ "private:" ∧ s ≠ "public:" ∧ setVarSlot? s = none) :
      Textual.shown (Textual.ofString s : τ) ≠ "private:" ∧
        Textual.shown (Textual.ofString s : τ) ≠ "public:" ∧
          setVarSlot? (Textual.shown (Textual.ofString s : τ)) = none := by
    rwa [Textual.shown_ofString]
  simp only [Header.preamble, ScriptClass.notice, Header.includeLines, List.mem_append,
    List.mem_cons, List.not_mem_nil, or_false, Textual.ofStrings_cons, Textual.ofStrings_nil] at h
  rcases h with ((rfl | rfl | rfl | rfl | rfl) | (rfl | rfl | rfl)) | rfl
  · exact hstring (by decide)
  · exact hstring (by decide)
  · rw [Textual.shown_append, Textual.shown_ofString]
    refine ⟨hne (by simp), hne (by simp), setVarSlot?_eq_none (c := '*') (by simp) rfl (by decide)⟩
  · exact hstring (by decide)
  · exact hstring (by decide)
  · exact hstring (by decide)
  · exact hstring (by decide)
  · exact hstring (by decide)
  · refine ⟨hne ?_, hne ?_, setVarSlot?_eq_none (c := '\x7b') ?_ rfl (by decide)⟩ <;>
      simp [Header.classLine]

/-- Storage is no mark of a part of the class. -/
theorem StoredBy.ne_mark {v : Variable} {line : String} (h : StoredBy v line) :
    line ≠ "public:" := by
  cases h with
  | member typed =>
      intro heq
      have hfirst := congrArg (·.toList.head?) heq
      simp at hfirst

/-- **The sections of a header**: what stands before the mark of the private part, and the strings
from there on. -/
theorem Header.lines_eq_sections (c : ScriptClass τ) (storage : List String)
    (accessors : List (List String)) (kernels functions : List String) :
    Header.lines c storage accessors kernels functions = Header.preamble c ++
      Textual.ofStrings (Header.body c storage accessors kernels functions) := by
  simp [Header.lines, Header.opening, Header.preamble, Header.body, List.map_flatten,
    Buffer.map_atLevel_ofStrings]

/-- **The slots in a header** are those that its accessors tell. -/
theorem Header.filterMap_setVarSlot?_lines (c : ScriptClass τ) {storage : List String}
    (accessors : List (List String)) {kernels functions : List String}
    (hstorage : ∀ line ∈ storage, setVarSlot? (Buffer.atLevel 1 line) = none)
    (hkernels : ∀ line ∈ kernels, '_' ∈ line.toList)
    (hfunctions : ∀ line ∈ functions, '_' ∈ line.toList) :
    (Header.lines c storage accessors kernels functions).filterMap
        (setVarSlot? ∘ Textual.shown) =
      (accessors.map (·.map (Buffer.atLevel 1))).flatten.filterMap setVarSlot? := by
  have hpreamble : (Header.preamble c).filterMap (setVarSlot? ∘ Textual.shown) = [] :=
    List.filterMap_eq_nil_iff.2 fun line hline => (Header.preamble_spec hline).2.2
  have hstrings (strings : List String) :
      (Textual.ofStrings strings : List τ).filterMap (setVarSlot? ∘ Textual.shown) =
        strings.filterMap setVarSlot? := by
    simp [Textual.ofStrings, List.filterMap_map]
  have hmarks : setVarSlot? "private:" = none ∧ setVarSlot? "public:" = none ∧
      setVarSlot? "\x7d;" = none := by decide
  have hstored : (storage.map (Buffer.atLevel 1)).filterMap setVarSlot? = [] := by
    rw [List.filterMap_eq_nil_iff]
    intro line hline
    obtain ⟨line, hmem, rfl⟩ := List.mem_map.1 hline
    exact hstorage line hmem
  have hlifetime :
      ((Header.lifetimeLines c).map (Buffer.atLevel 1)).filterMap setVarSlot? = [] := by
    have hconstructor : setVarSlot?
        ("    " ++ c.name ++ "(" ++ ScriptClass.constructorArguments ++ ");") = none :=
      setVarSlot?_eq_none (c := ':')
        (by simp [ScriptClass.constructorArguments]) rfl (by decide)
    have hdestructor : setVarSlot? ("    virtual ~" ++ c.name ++ "();") = none :=
      setVarSlot?_eq_none (c := '~') (by simp) rfl (by decide)
    have hempty : setVarSlot? "" = none := by decide
    simp [Header.map_atLevel_lifetimeLines, hconstructor, hdestructor, hempty]
  have hmethods : ((kernels ++ functions).map (Buffer.atLevel 1)).filterMap setVarSlot? = [] := by
    rw [List.filterMap_eq_nil_iff]
    intro line hline
    obtain ⟨line, hmem, rfl⟩ := List.mem_map.1 hline
    refine setVarSlot?_atLevel (c := '_') ?_ rfl (by decide)
    rcases List.mem_append.1 hmem with hmem | hmem
    · exact hkernels line hmem
    · exact hfunctions line hmem
  simp only [Header.lines_eq_sections, Header.body, hstrings, List.filterMap_append,
    List.filterMap_cons, List.filterMap_nil, hpreamble, hmarks, hstored, hlifetime, hmethods,
    List.nil_append, List.append_nil]

/-- **The storage section**: from the mark of the private part up to that of the public part. -/
theorem Header.takeWhile_private_lines [DecidableEq τ] (c : ScriptClass τ) {storage : List String}
    (accessors : List (List String)) (kernels functions : List String)
    (hstorage : ∀ line ∈ storage.map (Buffer.atLevel 1), line ≠ "public:") :
    ((Header.lines c storage accessors kernels functions).dropWhile
      (· ≠ Textual.ofString "private:")).takeWhile (· ≠ Textual.ofString "public:") =
        Textual.ofStrings ("private:" :: storage.map (Buffer.atLevel 1)) := by
  have hpreamble : ∀ line ∈ Header.preamble c,
      decide (line ≠ Textual.ofString "private:") = true := fun line hline =>
    decide_eq_true (Textual.ne_ofString_of_shown_ne (Header.preamble_spec hline).1)
  rw [Header.lines_eq_sections, List.dropWhile_append_of_pos hpreamble,
    Textual.dropWhile_ne_ofStrings, Textual.takeWhile_ne_ofStrings, Header.body,
    List.dropWhile_cons_of_neg (by simp), List.takeWhile_cons_of_pos (by simp),
    List.takeWhile_append_of_pos fun line hline => decide_eq_true (hstorage line hline),
    List.takeWhile_cons_of_neg (by simp), List.append_nil]

/-- **The public section** begins with constructor and destructor, and goes on with the
accessors. -/
theorem Header.prefix_public_lines [DecidableEq τ] (c : ScriptClass τ) {storage : List String}
    (accessors : List (List String)) (kernels functions : List String)
    (hstorage : ∀ line ∈ storage.map (Buffer.atLevel 1), line ≠ "public:") :
    Textual.ofStrings
        (["public:", "    " ++ c.name ++ "(" ++ ScriptClass.constructorArguments ++ ");",
          "    virtual ~" ++ c.name ++ "();", ""] ++
            (accessors.map (·.map (Buffer.atLevel 1))).flatten) <+:
      (Header.lines c storage accessors kernels functions).dropWhile
        (· ≠ Textual.ofString "public:") := by
  have hpreamble : ∀ line ∈ Header.preamble c,
      decide (line ≠ Textual.ofString "public:") = true := fun line hline =>
    decide_eq_true (Textual.ne_ofString_of_shown_ne (Header.preamble_spec hline).2.1)
  rw [Header.lines_eq_sections, List.dropWhile_append_of_pos hpreamble,
    Textual.dropWhile_ne_ofStrings, Header.body, List.dropWhile_cons_of_pos (by simp),
    List.dropWhile_append_of_pos fun line hline => decide_eq_true (hstorage line hline),
    List.dropWhile_cons_of_neg (by simp), Header.map_atLevel_lifetimeLines]
  exact (List.prefix_append _ _).map _

/-- **A header has the accessors of every variable**, in one piece. -/
theorem exists_accessedBy {c : ScriptClass τ} {s : Surface} {header : Buffer τ}
    (h : Header.generate c s.slots = .ok header) {v : Variable} (hv : v ∈ s.globals) :
    ∃ slot lines, AccessedBy slot v lines ∧ Textual.ofStrings lines <:+: header.lines := by
  obtain ⟨storage, accessors, kernels, functions, -, haccessors, -, -, rfl⟩ :=
    Header.generate_eq_ok_iff.1 h
  obtain ⟨slot, hslot⟩ := List.mem_iff_getElem?.1 hv
  have hnumbered : (numberFrom 0 s.globals)[slot]? = some (0 + slot, v) := by
    rw [getElem?_numberFrom, hslot, Option.map_some]
  obtain ⟨lines, hlines, haccess⟩ :=
    exists_getElem?_of_forall₂ (mapM_eq_ok_iff.1 haccessors) hnumbered
  have hpiece : lines.map (Buffer.atLevel 1) ∈ accessors.map (·.map (Buffer.atLevel 1)) :=
    List.mem_map_of_mem (List.mem_of_getElem? hlines)
  refine ⟨_, _, accessedBy_of_accessors haccess, ?_⟩
  show _ <:+: Header.lines c storage accessors kernels functions
  rw [Header.lines_eq_sections]
  have hpublic := List.infix_append ((Header.lifetimeLines c).map (Buffer.atLevel 1))
    (accessors.map (·.map (Buffer.atLevel 1))).flatten
    ((kernels ++ functions).map (Buffer.atLevel 1) ++ ["\x7d;"])
  have hbody : lines.map (Buffer.atLevel 1) <:+:
      Header.body c storage accessors kernels functions := by
    refine (List.infix_of_mem_flatten hpiece).trans (hpublic.trans (List.IsSuffix.isInfix ?_))
    exact (List.suffix_append_of_suffix (List.suffix_cons _ _)).trans (List.suffix_cons _ _)
  exact (hbody.map Textual.ofString).trans (List.suffix_append _ _).isInfix

/-- **A header shows the variables of its surface**: whenever it is generated, one list of storage
lines and one list of accessor blocks belong to the variables, and the slots of the setters are the
places of the mutable ones. -/
theorem exists_showsVariables [DecidableEq τ] (c : ScriptClass τ) (s : Surface)
    {header : Buffer τ} (h : Header.generate c s.slots = .ok header) :
    ∃ storage accessors, Header.ShowsVariables c s header storage accessors := by
  obtain ⟨storage, accessors, kernels, functions, hs, ha, hk, hf, rfl⟩ :=
    Header.generate_eq_ok_iff.1 h
  have hstored : List.Forall₂ StoredBy (s.globals.filter (!·.isConstant))
      (storage.map (Buffer.atLevel 1)) := by
    rw [← map_snd_numberFrom 0 s.globals, List.filter_map, List.forall₂_map_left_iff,
      List.forall₂_map_right_iff]
    exact (mapM_eq_ok_iff.1 hs).imp fun _ _ hline => storedBy_of_storageLine hline
  have haccessed : List.Forall₂ (fun e lines => AccessedBy e.1 e.2 lines) (numberFrom 0 s.globals)
      (accessors.map (·.map (Buffer.atLevel 1))) := by
    rw [List.forall₂_map_right_iff]
    exact (mapM_eq_ok_iff.1 ha).imp fun _ _ hlines => accessedBy_of_accessors hlines
  have hmark : ∀ line ∈ storage.map (Buffer.atLevel 1), line ≠ "public:" := by
    intro line hline
    obtain ⟨v, -, hv⟩ := exists_of_forall₂_right hstored hline
    exact hv.ne_mark
  have hslots : (Header.lines c storage accessors kernels functions).filterMap
      (setVarSlot? ∘ Textual.shown) =
        ((numberFrom 0 s.globals).filter (!·.2.isConstant)).map Prod.fst := by
    rw [Header.filterMap_setVarSlot?_lines c accessors, filterMap_setVarSlot?_accessors haccessed]
    · intro line hline
      obtain ⟨v, -, hv⟩ := exists_of_mem_mapM hs hline
      exact (storedBy_of_storageLine hv).setVarSlot?_eq_none
    · intro line hline
      obtain ⟨e, -, he⟩ := exists_of_mem_mapM hk hline
      exact underscore_mem_kernelLine he
    · intro line hline
      obtain ⟨e, -, he⟩ := exists_of_mem_mapM hf hline
      exact underscore_mem_functionLine he
  refine ⟨storage.map (Buffer.atLevel 1), accessors.map (·.map (Buffer.atLevel 1)),
    Header.takeWhile_private_lines c accessors kernels functions hmark, hstored,
    Header.prefix_public_lines c accessors kernels functions hmark, ?_, ?_, ?_, ?_⟩
  · rw [← haccessed.length_eq, ← List.length_map Prod.snd, map_snd_numberFrom]
  · intro i v hv
    have hslot := getElem?_numberFrom 0 s.globals i
    rw [hv, Option.map_some] at hslot
    obtain ⟨lines, hlines, haccess⟩ := exists_getElem?_of_forall₂ haccessed hslot
    exact ⟨lines, hlines, by simpa using haccess⟩
  · rw [hslots, List.pairwise_map]
    exact (pairwise_numberFrom 0 s.globals).filter _
  · intro i
    simp only [hslots, List.mem_map, List.mem_filter, mem_numberFrom, Variable.isConstant]
    constructor
    · rintro ⟨⟨j, v⟩, ⟨⟨k, hv, rfl⟩, hconstant⟩, rfl⟩
      exact ⟨v, by simpa using hv, by simpa using hconstant⟩
    · rintro ⟨v, hv, hconstant⟩
      exact ⟨(i, v), ⟨⟨i, hv, by simp⟩, by simp [hconstant]⟩, rfl⟩

/-- A surface with constants before, between and after its mutable variables. -/
def Surface.palette : Surface where
  globals := [
    ⟨"debug", .scalar (.known .bool), some (.bool true)⟩,
    ⟨"gain", .scalar (.known .float), none⟩,
    ⟨"scale", .vector (.known .float) 2, some (.float (.finite false 5 (-1)))⟩,
    ⟨"tint", .vector (.known .float) 4, none⟩,
    ⟨"verbose", .scalar (.known .bool), some (.int 0)⟩]

theorem exists_showsVariables_palette :
    ∃ header, Header.generate ⟨"ScriptC_palette", "palette.rs", ""⟩ Surface.palette.slots =
        .ok header ∧
      ∃ storage accessors, Header.ShowsVariables ⟨"ScriptC_palette", "palette.rs", ""⟩
        Surface.palette header storage accessors := by
  obtain ⟨header, hheader⟩ : ∃ header,
      Header.generate ⟨"ScriptC_palette", "palette.rs", ""⟩ Surface.palette.slots = .ok header :=
    ⟨_, rfl⟩
  exact ⟨header, hheader, exists_showsVariables _ _ hheader⟩

end ScriptBindings
