import ScriptBindings.Proofs.Types.WellFormed
import ScriptBindings.Text.Word
import ScriptBindings.Types.Spelling

/-!
# Names of types are names

A type is looked up by any text, but only names find one: runs of word characters.  For handles this
is so although they are recognised by their capitals, since no character but a letter has an ASCII
letter as its capital.

* `isName_of_ofName?` — what finds a type is a name.
* `sourceName` — the name that a type has in scripts; `ofName?_sourceName` says that every type that
  can be found, is found by it.
-/

namespace ScriptBindings

open ScriptBindings.Text

/-- A character whose capital form has word characters only is one itself. -/
theorem Text.isWordChar_of_capital {c : Char} (h : ∀ d ∈ capital c, isWordChar d = true) :
    isWordChar c = true := by
  rcases capital_cases c with ⟨letters, mem, -⟩ | ⟨rfl, -⟩ | ⟨rfl, -⟩ | hcapital
  -- What has a long capital form is a letter.
  · have hletters : ∀ entry ∈ longCapitals, isWordChar entry.1 = true := by decide +kernel
    exact hletters (c, letters) mem
  · decide +kernel
  · decide +kernel
  rw [hcapital, List.forall_mem_singleton] at h
  by_cases hlower : 'a'.val ≤ c.val ∧ c.val ≤ 'z'.val
  · have hcode : 97 ≤ c.toNat ∧ c.toNat ≤ 122 := hlower
    have hisLower : c.isLower = true := by
      show (decide ('a'.val ≤ c.val) && decide (c.val ≤ 'z'.val)) = true
      simpa using hlower
    have hisAlpha : c.isAlpha = true := by
      show (c.isUpper || c.isLower) = true
      rw [hisLower, Bool.or_true]
    exact isWordChar_of_isAlphanum (by simp [Char.isAlphanum, hisAlpha]) (by omega)
  -- Everything else is its own capital.
  · have hself : c.toUpper = c := dif_neg hlower
    rwa [hself] at h

namespace ScriptType

theorem isName_of_mem_spellings {name : String} {type : ScriptType}
    (h : (name, type) ∈ spellings) : isName name.toList := by
  have hall : ∀ entry ∈ spellings, isName entry.1.toList := by decide +kernel
  exact hall (name, type) h

theorem isName_tag (kind : ObjectKind) : isName kind.tag.toList := by
  cases kind <;> decide

/-- **What finds a type is a name.** -/
theorem isName_of_ofName? {name : String} {type : ScriptType} (h : ofName? name = some type) :
    isName name.toList := by
  rw [ofName?] at h
  split at h
  · rename_i hlookup
    obtain ⟨before, after, heq, -⟩ := List.lookup_eq_some_iff.1 hlookup
    apply isName_of_mem_spellings
    rw [heq]
    exact List.mem_append_right before List.mem_cons_self
  · obtain ⟨kind, hkind, rfl⟩ := Option.map_eq_some_iff.1 h
    have htag : kind.tag = capitals name := by simpa using List.find?_some hkind
    have hname := isName_tag kind
    rw [htag, capitals, String.toList_ofList] at hname
    simp only [isName, Bool.and_eq_true, List.all_eq_true, Bool.not_eq_true'] at hname ⊢
    refine ⟨?_, fun c hc => isWordChar_of_capital fun d hd =>
      hname.2 d (List.mem_flatMap.2 ⟨c, hc, hd⟩)⟩
    cases hnil : name.toList with
    | nil => simp [hnil] at hname
    | cons c cs => rfl

/-- **The name of a type in scripts**; handles are spelled in lower case. -/
def sourceName : ScriptType → String
  | scalar (.known s) => s.spelling
  | vector (.known s) length => s.spelling ++ toString length
  | matrix rows => matrixName rows
  | object (.known kind) => kind.spelling
  | _ => ""

theorem Plain.ofName?_sourceName {type : ScriptType} (h : Plain type) :
    ofName? type.sourceName = some type := by
  cases h with
  | scalar s => cases s <;> rfl
  | @vector s length numeric short =>
      rcases short with rfl | rfl | rfl <;> cases s <;> first | rfl | exact absurd rfl numeric
  | matrix small => rcases small with rfl | rfl | rfl <;> rfl
  | object kind => cases kind <;> rfl

/-- **Every type that can be found** is found by its name in scripts. -/
theorem ofName?_sourceName {name : String} {type : ScriptType} (h : ofName? name = some type) :
    ofName? type.sourceName = some type :=
  (plain_of_ofName? h).ofName?_sourceName

end ScriptType

end ScriptBindings
