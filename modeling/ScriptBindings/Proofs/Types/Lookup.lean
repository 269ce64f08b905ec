import ScriptBindings.Proofs.Text.Capital
import ScriptBindings.Proofs.Types.Spelling

/-!
# The names that are looked up

A script names a type with one of the words of a fixed list.  Each of them is found, but they are
not the only ones: a handle is recognised by the capitals of its name, so it is found by other
spellings that have the same.

* `ScriptType.names` — the list.
* `Disguises` — a name of a handle in other letters.
* `ofName?_eq_none_iff` — nothing is found by a name that is neither in the list nor in disguise.
* `looksUp_iff` — so all names are looked up by the list, but for those in disguise.
-/

namespace ScriptBindings.ScriptType

open ScriptBindings.Text

/-! ## The list -/

/-- The names of scalars, with those that tell the width. -/
def scalarNames : List String :=
  ["half", "float", "double", "char", "short", "int", "long", "uchar", "ushort", "uint", "ulong",
    "bool", "int8_t", "int16_t", "int32_t", "int64_t", "uint8_t", "uint16_t", "uint32_t",
    "uint64_t"]

/-- The names of the scalars of which there are vectors. -/
def elementNames : List String :=
  ["half", "float", "double", "char", "short", "int", "long", "uchar", "ushort", "uint", "ulong"]

/-- The names of handles. -/
def handleNames : List String :=
  ["rs_element", "rs_type", "rs_allocation", "rs_sampler", "rs_script"]

/-- **The names of types.** -/
def names : List String :=
  scalarNames ++ elementNames.flatMap (fun element => ["2", "3", "4"].map (element ++ ·)) ++
    ["rs_matrix2x2", "rs_matrix3x3", "rs_matrix4x4"] ++ handleNames

/-- The table of type names and the spellings of handles make up the list. -/
theorem map_fst_spellings :
    spellings.map Prod.fst ++ ObjectKind.all.map ObjectKind.spelling = names := by
  decide

theorem mem_names_iff {name : String} :
    name ∈ names ↔ (spellings.lookup name).isSome ∨ ∃ kind : ObjectKind, name = kind.spelling := by
  rw [← map_fst_spellings, List.mem_append, List.lookup_isSome_iff]
  simp only [List.mem_map, beq_iff_eq]
  constructor
  · rintro (⟨entry, mem, heq⟩ | ⟨kind, -, heq⟩)
    · exact .inl ⟨entry, mem, heq.symm⟩
    · exact .inr ⟨kind, heq.symm⟩
  · rintro (⟨entry, mem, heq⟩ | ⟨kind, heq⟩)
    · exact .inl ⟨entry, mem, heq.symm⟩
    · exact .inr ⟨kind, kind.mem_all, heq.symm⟩

theorem spelling_mem_names (kind : ObjectKind) : kind.spelling ∈ names :=
  mem_names_iff.2 (.inr ⟨kind, rfl⟩)

/-- The names are written in ASCII and without capitals. -/
theorem small_of_mem_names {name : String} (h : name ∈ names) :
    ∀ c ∈ name.toList, c.toNat < 128 ∧ c.isUpper = false := by
  have hall : names.all (·.toList.all fun c => c.toNat < 128 && !c.isUpper) = true := by decide
  simpa using List.all_eq_true.1 hall name h

/-! ## Names in disguise -/

/-- **A name in disguise**: that of a kind of handle with other letters of the same capitals. -/
structure Disguises (kind : ObjectKind) (name : String) : Prop where
  alike : List.Forall₂ Alike kind.spelling.toList name.toList
  ne : name ≠ kind.spelling

/-- **The names whose capitals are the tag** of a kind of handle. -/
theorem capitals_eq_tag_iff {name : String} {kind : ObjectKind} :
    capitals name = kind.tag ↔ List.Forall₂ Alike kind.spelling.toList name.toList := by
  have hcapitals : kind.tag.toList = kind.spelling.toList.map Char.toUpper := by
    cases kind <;> rfl
  have hform : NoLongForm (kind.spelling.toList.map Char.toUpper) := by
    cases kind <;> decide +kernel
  rw [← flatMap_capital_eq_iff (small_of_mem_names (spelling_mem_names kind)) hform, ← hcapitals,
    capitals, ← String.toList_inj, String.toList_ofList]

/-- No name of the list is in disguise. -/
theorem Disguises.notMem_names {kind : ObjectKind} {name : String} (h : Disguises kind name) :
    name ∉ names := fun mem =>
  h.ne (String.toList_inj.1 (eq_of_alike h.alike (small_of_mem_names mem))).symm

/-- **A name in disguise** finds the type of its handle. -/
theorem Disguises.ofName_eq {kind : ObjectKind} {name : String} (h : Disguises kind name) :
    ofName name = .ok (object (.known kind)) := by
  have hlookup : spellings.lookup name = none :=
    Option.not_isSome_iff_eq_none.1 fun hsome => h.notMem_names (mem_names_iff.2 (.inl hsome))
  have hname : ofName? name = some (object (.known kind)) := by
    rw [ofName?, hlookup, capitals_eq_tag_iff.2 h.alike, ObjectKind.ofTag?_tag]
    rfl
  rw [ofName, hname]

/-! ## What is found -/

/-- **Nothing is found** by a name that is neither in the list nor in disguise. -/
theorem ofName?_eq_none_iff {name : String} :
    ofName? name = none ↔ name ∉ names ∧ ∀ kind, ¬ Disguises kind name := by
  have hlookup : ofName? name = none ↔
      spellings.lookup name = none ∧ ∀ kind : ObjectKind, capitals name ≠ kind.tag := by
    rw [ofName?]
    cases spellings.lookup name with
    | some type => simp
    | none =>
        rw [Option.map_eq_none_iff, ObjectKind.ofTag?, List.find?_eq_none]
        simp [ObjectKind.mem_all, eq_comm]
  rw [hlookup, mem_names_iff, not_or, Option.not_isSome_iff_eq_none, and_assoc]
  refine and_congr_right fun _ => ?_
  constructor
  · intro h
    refine ⟨?_, fun kind hkind => h kind (capitals_eq_tag_iff.2 hkind.alike)⟩
    rintro ⟨kind, rfl⟩
    exact h kind (capitals_eq_tag_iff.2 (List.forall₂_same.2 fun c _ => .same c))
  · rintro ⟨hspelling, hdisguise⟩ kind hcapitals
    exact hdisguise kind ⟨capitals_eq_tag_iff.1 hcapitals, fun heq => hspelling ⟨kind, heq⟩⟩

/-- **A name is looked up by the list**: it is found exactly if it is in the list, and reported as
unknown otherwise. -/
structure LooksUp (name : String) : Prop where
  found : (∃ type, ofName name = .ok type) ↔ name ∈ names
  unknown : name ∉ names → ofName name = .error (.unknownName name)

/-- **Names are looked up by the list**, all but those of handles in disguise. -/
theorem looksUp_iff (name : String) : LooksUp name ↔ ∀ kind, ¬ Disguises kind name := by
  constructor
  · intro h kind hkind
    exact hkind.notMem_names (h.found.1 ⟨_, hkind.ofName_eq⟩)
  · intro h
    by_cases mem : name ∈ names
    · obtain ⟨type, htype⟩ : ∃ type, ofName? name = some type :=
        Option.ne_none_iff_exists'.1 fun hnone => (ofName?_eq_none_iff.1 hnone).1 mem
      have hok : ofName name = .ok type := by rw [ofName, htype]
      exact ⟨⟨fun _ => mem, fun _ => ⟨type, hok⟩⟩, fun hnot => absurd mem hnot⟩
    · have herror : ofName name = .error (.unknownName name) := by
        rw [ofName, ofName?_eq_none_iff.2 ⟨mem, h⟩]
      refine ⟨?_, fun _ => herror⟩
      simp [herror, mem]

/-- **A name with a long s** is found, although it is not in the list. -/
theorem not_looksUp_long : ¬ LooksUp "rs_ſcript" := by
  intro h
  have hmem : "rs_ſcript" ∈ names := h.found.1 ⟨object (.known .script), rfl⟩
  exact absurd hmem (by decide)

end ScriptBindings.ScriptType
