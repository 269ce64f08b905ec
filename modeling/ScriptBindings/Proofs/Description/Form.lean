import Mathlib.Data.List.Basic
import ScriptBindings.Description.Form
import ScriptBindings.Proofs.Text.Blank

/-!
# How the forms are written

A form is recognised by taking a text apart from the left.  This file says what the texts of the
four forms look like as a whole, and that they are the texts that are recognised.

* `Form.Spells` — the texts of a form.
* `Form.ofChars?_eq_some_iff` — a text is recognised as a form exactly if it is one of its texts.

The steps from the left are as long as they can be.  That they never go too far is due to the
characters behind: no name is followed by a word character, and arguments have no closing
parenthesis.
-/

namespace ScriptBindings.Form

open ScriptBindings.Text

/-- A space that may be left out. -/
def OptionalSpace (cs : List Char) : Prop :=
  cs = [] ∨ cs = [' ']

/-- **The texts of a form.**  Behind `=`, a space is never part of the value. -/
inductive Spells : List Char → Form → Prop
  /-- `var T n` -/
  | variable {type name : List Char} (isType : isName type) (isName : isName name) :
      Spells ("var ".toList ++ (type ++ ' ' :: name))
        (.variable (String.ofList type) (String.ofList name))
  /-- `const T n = value` -/
  | constant {type name before after value : List Char} (isType : isName type)
      (isName : isName name) (spaceBefore : OptionalSpace before) (spaceAfter : OptionalSpace after)
      (hasValue : value ≠ []) (separate : after = [] → value.head? ≠ some ' ') :
      Spells ("const ".toList ++ (type ++ ' ' :: (name ++ (before ++ '=' :: (after ++ value)))))
        (.constant (String.ofList type) (String.ofList name) value)
  /-- `foreach n(arguments)` -/
  | kernel {name before arguments : List Char} (isName : isName name)
      (spaceBefore : OptionalSpace before) (isClosed : ')' ∉ arguments) :
      Spells ("foreach ".toList ++ (name ++ (before ++ '(' :: (arguments ++ [')']))))
        (.kernel (String.ofList name) arguments false)
  /-- `foreach n(arguments) default` -/
  | defaultKernel {name before arguments after : List Char} (isName : isName name)
      (spaceBefore : OptionalSpace before) (isClosed : ')' ∉ arguments)
      (spaceAfter : OptionalSpace after) :
      Spells
        ("foreach ".toList ++
          (name ++ (before ++ '(' :: (arguments ++ ')' :: (after ++ "default".toList)))))
        (.kernel (String.ofList name) arguments true)
  /-- `invoke n(arguments)` -/
  | function {name before arguments : List Char} (isName : isName name)
      (spaceBefore : OptionalSpace before) (isClosed : ')' ∉ arguments) :
      Spells ("invoke ".toList ++ (name ++ (before ++ '(' :: (arguments ++ [')']))))
        (.function (String.ofList name) arguments)

/-! ## The steps from the left -/

theorem after?_eq_some_iff {start : String} {cs rest : List Char} :
    after? start cs = some rest ↔ cs = start.toList ++ rest := by
  rw [after?, List.isPrefixOf?_eq_some_iff_append_eq, eq_comm]

theorem after?_append (start : String) (cs : List Char) :
    after? start (start.toList ++ cs) = some cs :=
  after?_eq_some_iff.2 rfl

/-- A name at the start: it is as long as it can be. -/
theorem takeName?_eq_some_iff {cs rest : List Char} {name : String} :
    takeName? cs = some (name, rest) ↔
      ∃ word, name = String.ofList word ∧ cs = word ++ rest ∧ isName word ∧
        ∀ c ∈ rest.head?, isWordChar c = false := by
  unfold takeName?
  dsimp only
  constructor
  · intro h
    split at h
    · cases h
    · rename_i hword
      obtain ⟨rfl, rfl⟩ := Prod.mk.inj (Option.some.inj h)
      obtain ⟨hcs, hchars, hend⟩ := takeWhile_and_dropWhile_iff.1
        (⟨rfl, rfl⟩ : cs.takeWhile isWordChar = _ ∧ cs.dropWhile isWordChar = _)
      exact ⟨_, rfl, hcs, by simp [isName, hword], hend⟩
  · rintro ⟨word, rfl, hcs, hname, hend⟩
    obtain ⟨hne, hchars⟩ : word ≠ [] ∧ ∀ c ∈ word, isWordChar c = true := by
      simpa [isName] using hname
    obtain ⟨hword, hrest⟩ := takeWhile_and_dropWhile_iff.2 ⟨hcs, hchars, hend⟩
    rw [hword, hrest, if_neg (by simpa using hne)]

/-- A name before something that it does not go on with. -/
theorem takeName?_append {word rest : List Char} (h : isName word)
    (hrest : ∀ c ∈ rest.head?, isWordChar c = false) :
    takeName? (word ++ rest) = some (String.ofList word, rest) :=
  takeName?_eq_some_iff.2 ⟨word, rfl, rfl, h, hrest⟩

/-- A name at the end. -/
theorem takeName?_self {word : List Char} (h : isName word) :
    takeName? word = some (String.ofList word, []) :=
  takeName?_eq_some_iff.2 ⟨word, rfl, by simp, h, by simp⟩

theorem exists_optionalSpace (cs : List Char) :
    ∃ space, OptionalSpace space ∧ cs = space ++ skipSpace cs ∧
      (space = [] → (skipSpace cs).head? ≠ some ' ') := by
  unfold skipSpace
  split
  · exact ⟨[' '], .inr rfl, rfl, nofun⟩
  · rename_i h
    refine ⟨[], .inl rfl, rfl, fun _ hhead => ?_⟩
    obtain ⟨rest, rfl⟩ := List.head?_eq_some_iff.1 hhead
    exact h rest rfl

theorem skipSpace_append {space : List Char} (h : OptionalSpace space) {rest : List Char}
    (hrest : space = [] → rest.head? ≠ some ' ') : skipSpace (space ++ rest) = rest := by
  rcases h with rfl | rfl
  · rw [List.nil_append, skipSpace]
    rintro cs rfl
    exact hrest rfl rfl
  · rfl

/-- A name before a mark, perhaps with a space between the two. -/
theorem takeName?_append_mark {word space : List Char} (h : isName word)
    (hspace : OptionalSpace space) {mark : Char} (hmark : isWordChar mark = false)
    (rest : List Char) :
    takeName? (word ++ (space ++ mark :: rest)) =
      some (String.ofList word, space ++ mark :: rest) := by
  refine takeName?_append h ?_
  rcases hspace with rfl | rfl
  · simpa using hmark
  · simpa using (by decide : isWordChar ' ' = false)

/-- A name before a space. -/
theorem takeName?_append_space {word : List Char} (h : isName word) (rest : List Char) :
    takeName? (word ++ ' ' :: rest) = some (String.ofList word, ' ' :: rest) :=
  takeName?_append_mark h (.inl rfl) (by decide) rest

/-- Arguments in parentheses, perhaps after a space. -/
theorem takeArguments?_eq_some_iff {cs arguments rest : List Char} :
    takeArguments? cs = some (arguments, rest) ↔
      ∃ before, OptionalSpace before ∧ cs = before ++ '(' :: (arguments ++ ')' :: rest) ∧
        ')' ∉ arguments := by
  constructor
  · intro h
    obtain ⟨before, hbefore, hcs, -⟩ := exists_optionalSpace cs
    unfold takeArguments? at h
    split at h
    · rename_i inside hinside
      split at h
      · cases h
      · rename_i c rest' hrest
        obtain ⟨rfl, rfl⟩ := Prod.mk.inj (Option.some.inj h)
        obtain ⟨hsplit, hchars, hend⟩ := takeWhile_and_dropWhile_iff.1 ⟨rfl, hrest⟩
        obtain rfl : c = ')' := by simpa using hend c (by simp)
        refine ⟨before, hbefore, ?_, fun hmem => by simpa using hchars _ hmem⟩
        rw [← hsplit, ← hinside]
        exact hcs
    · cases h
  · rintro ⟨before, hbefore, rfl, hclosed⟩
    have hsplit := takeWhile_and_dropWhile_iff.2
      (⟨rfl, fun c hc => by simpa using ne_of_mem_of_not_mem hc hclosed, by simp⟩ :
        arguments ++ ')' :: rest = arguments ++ ')' :: rest ∧
          (∀ c ∈ arguments, (c != ')') = true) ∧ ∀ c ∈ (')' :: rest).head?, (c != ')') = false)
    rw [takeArguments?, skipSpace_append hbefore (by simp)]
    simp only [hsplit.1, hsplit.2]

theorem takeArguments?_append {before arguments : List Char} (h : OptionalSpace before)
    (hclosed : ')' ∉ arguments) (rest : List Char) :
    takeArguments? (before ++ '(' :: (arguments ++ ')' :: rest)) = some (arguments, rest) :=
  takeArguments?_eq_some_iff.2 ⟨before, h, rfl, hclosed⟩

/-! ## What is recognised is a text of the form -/

theorem spells_of_variableForm? {cs : List Char} {form : Form} (h : variableForm? cs = some form) :
    Spells cs form := by
  obtain ⟨rest, hstart, h₁⟩ := Option.bind_eq_some_iff.1 h
  obtain ⟨⟨type, rest₁⟩, htype, h₂⟩ := Option.bind_eq_some_iff.1 h₁
  obtain ⟨rest₂, hspace, h₃⟩ := Option.bind_eq_some_iff.1 h₂
  obtain ⟨⟨name, rest₃⟩, hname, h₄⟩ := Option.bind_eq_some_iff.1 h₃
  obtain rfl := after?_eq_some_iff.1 hstart
  obtain ⟨type, rfl, rfl, hisType, -⟩ := takeName?_eq_some_iff.1 htype
  obtain rfl := after?_eq_some_iff.1 hspace
  obtain ⟨name, rfl, rfl, hisName, -⟩ := takeName?_eq_some_iff.1 hname
  dsimp only at h₄
  split at h₄
  · rename_i hend
    cases h₄
    obtain rfl := List.isEmpty_iff.1 hend
    simpa using Spells.variable hisType hisName
  · cases h₄

theorem spells_of_constantForm? {cs : List Char} {form : Form} (h : constantForm? cs = some form) :
    Spells cs form := by
  obtain ⟨rest, hstart, h₁⟩ := Option.bind_eq_some_iff.1 h
  obtain ⟨⟨type, rest₁⟩, htype, h₂⟩ := Option.bind_eq_some_iff.1 h₁
  obtain ⟨rest₂, hspace, h₃⟩ := Option.bind_eq_some_iff.1 h₂
  obtain ⟨⟨name, rest₃⟩, hname, h₄⟩ := Option.bind_eq_some_iff.1 h₃
  obtain ⟨rest₄, hequals, h₅⟩ := Option.bind_eq_some_iff.1 h₄
  obtain rfl := after?_eq_some_iff.1 hstart
  obtain ⟨type, rfl, rfl, hisType, -⟩ := takeName?_eq_some_iff.1 htype
  obtain rfl := after?_eq_some_iff.1 hspace
  obtain ⟨name, rfl, rfl, hisName, -⟩ := takeName?_eq_some_iff.1 hname
  obtain ⟨before, hbefore, hrest₃, -⟩ := exists_optionalSpace rest₃
  obtain ⟨after, hafter, hrest₄, hseparate⟩ := exists_optionalSpace rest₄
  dsimp only at h₅
  split at h₅
  · cases h₅
  · rename_i hvalue
    cases h₅
    have hspells := Spells.constant hisType hisName hbefore hafter (by simpa using hvalue) hseparate
    rw [← hrest₄] at hspells
    rw [hrest₃, after?_eq_some_iff.1 hequals]
    exact hspells

theorem spells_of_kernelForm? {cs : List Char} {form : Form} (h : kernelForm? cs = some form) :
    Spells cs form := by
  obtain ⟨rest, hstart, h₁⟩ := Option.bind_eq_some_iff.1 h
  obtain ⟨⟨name, rest₁⟩, hname, h₂⟩ := Option.bind_eq_some_iff.1 h₁
  obtain ⟨⟨arguments, rest₂⟩, harguments, h₃⟩ := Option.bind_eq_some_iff.1 h₂
  obtain rfl := after?_eq_some_iff.1 hstart
  obtain ⟨name, rfl, rfl, hisName, -⟩ := takeName?_eq_some_iff.1 hname
  obtain ⟨before, hbefore, rfl, hclosed⟩ := takeArguments?_eq_some_iff.1 harguments
  dsimp only at h₃
  split at h₃
  · rename_i hend
    cases h₃
    obtain rfl := List.isEmpty_iff.1 hend
    exact .kernel hisName hbefore hclosed
  · split at h₃
    · rename_i hdefault
      cases h₃
      obtain ⟨after, hafter, hrest₂, -⟩ := exists_optionalSpace rest₂
      rw [hrest₂, hdefault]
      exact .defaultKernel hisName hbefore hclosed hafter
    · cases h₃

theorem spells_of_functionForm? {cs : List Char} {form : Form} (h : functionForm? cs = some form) :
    Spells cs form := by
  obtain ⟨rest, hstart, h₁⟩ := Option.bind_eq_some_iff.1 h
  obtain ⟨⟨name, rest₁⟩, hname, h₂⟩ := Option.bind_eq_some_iff.1 h₁
  obtain ⟨⟨arguments, rest₂⟩, harguments, h₃⟩ := Option.bind_eq_some_iff.1 h₂
  obtain rfl := after?_eq_some_iff.1 hstart
  obtain ⟨name, rfl, rfl, hisName, -⟩ := takeName?_eq_some_iff.1 hname
  obtain ⟨before, hbefore, rfl, hclosed⟩ := takeArguments?_eq_some_iff.1 harguments
  dsimp only at h₃
  split at h₃
  · rename_i hend
    cases h₃
    obtain rfl := List.isEmpty_iff.1 hend
    exact .function hisName hbefore hclosed
  · cases h₃

/-! ## The texts are recognised -/

section

variable {type name before after arguments value : List Char}

theorem variableForm?_append (hisType : isName type) (hisName : isName name) :
    variableForm? ("var ".toList ++ (type ++ ' ' :: name)) =
      some (.variable (String.ofList type) (String.ofList name)) := by
  have hspace : after? " " (' ' :: name) = some name := after?_append " " name
  simp only [variableForm?, after?_append, takeName?_append_space hisType, hspace,
    takeName?_self hisName, Option.bind_eq_bind, Option.bind_some]
  rfl

theorem constantForm?_append (hisType : isName type) (hisName : isName name)
    (hbefore : OptionalSpace before) (hafter : OptionalSpace after) (hvalue : value ≠ [])
    (hseparate : after = [] → value.head? ≠ some ' ') :
    constantForm?
        ("const ".toList ++ (type ++ ' ' :: (name ++ (before ++ '=' :: (after ++ value))))) =
      some (.constant (String.ofList type) (String.ofList name) value) := by
  have hspace (rest : List Char) : after? " " (' ' :: rest) = some rest := after?_append " " rest
  have hname := takeName?_append_mark hisName hbefore (by decide : isWordChar '=' = false)
  have hequals : after? "=" (skipSpace (before ++ '=' :: (after ++ value))) =
      some (after ++ value) := by
    rw [skipSpace_append hbefore (by simp)]
    exact after?_append "=" (after ++ value)
  simp only [constantForm?, after?_append, takeName?_append_space hisType, hspace, hname, hequals,
    skipSpace_append hafter hseparate, Option.bind_eq_bind, Option.bind_some]
  rw [if_neg (by simpa using hvalue)]

/-- The name and the arguments of a kernel, and the text behind them. -/
theorem kernelForm?_append (hisName : isName name) (hbefore : OptionalSpace before)
    (hclosed : ')' ∉ arguments) (rest : List Char) :
    kernelForm? ("foreach ".toList ++ (name ++ (before ++ '(' :: (arguments ++ ')' :: rest)))) =
      if rest.isEmpty then some (.kernel (String.ofList name) arguments false)
      else if skipSpace rest = "default".toList then
        some (.kernel (String.ofList name) arguments true)
      else none := by
  have hname := takeName?_append_mark hisName hbefore (by decide : isWordChar '(' = false)
  simp only [kernelForm?, after?_append, hname, takeArguments?_append hbefore hclosed,
    Option.bind_eq_bind, Option.bind_some]

theorem functionForm?_append (hisName : isName name) (hbefore : OptionalSpace before)
    (hclosed : ')' ∉ arguments) :
    functionForm? ("invoke ".toList ++ (name ++ (before ++ '(' :: (arguments ++ [')'])))) =
      some (.function (String.ofList name) arguments) := by
  have hname := takeName?_append_mark hisName hbefore (by decide : isWordChar '(' = false)
  simp only [functionForm?, after?_append, hname, takeArguments?_append hbefore hclosed,
    Option.bind_eq_bind, Option.bind_some]
  rfl

end

/-- **The texts of a form are recognised**; no earlier form begins with the same word. -/
theorem ofChars?_of_spells {cs : List Char} {form : Form} (h : Spells cs form) :
    ofChars? cs = some form := by
  cases h with
  | «variable» hisType hisName =>
      rw [ofChars?, variableForm?_append hisType hisName]
      rfl
  | constant hisType hisName hbefore hafter hvalue hseparate =>
      rw [ofChars?, constantForm?_append hisType hisName hbefore hafter hvalue hseparate]
      rfl
  | kernel hisName hbefore hclosed =>
      rw [ofChars?, kernelForm?_append hisName hbefore hclosed]
      rfl
  | @defaultKernel name before arguments after hisName hbefore hclosed hafter =>
      have hskip : skipSpace (after ++ "default".toList) = "default".toList :=
        skipSpace_append hafter fun _ => by decide
      rw [ofChars?, kernelForm?_append hisName hbefore hclosed, if_neg (by simp), if_pos hskip]
      rfl
  | function hisName hbefore hclosed =>
      rw [ofChars?, functionForm?_append hisName hbefore hclosed]
      rfl

/-- **The texts that are recognised** as a form are the texts of the form. -/
theorem ofChars?_eq_some_iff {cs : List Char} {form : Form} :
    ofChars? cs = some form ↔ Spells cs form := by
  refine ⟨fun h => ?_, ofChars?_of_spells⟩
  simp only [ofChars?, Option.orElse_eq_orElse, Option.orElse_eq_or, Option.or_eq_some_iff] at h
  rcases h with h | ⟨-, h | ⟨-, h | ⟨-, h⟩⟩⟩
  · exact spells_of_variableForm? h
  · exact spells_of_constantForm? h
  · exact spells_of_kernelForm? h
  · exact spells_of_functionForm? h

end ScriptBindings.Form
