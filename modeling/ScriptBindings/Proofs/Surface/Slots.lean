import Mathlib.Data.List.InsertIdx
import ScriptBindings.Surface.Slots

/-!
# Slots and default kernels

A default kernel takes part in the order of the kernels but has no slot.  Default kernels may be put
among the kernels of a surface or taken out from there, any number of them and at any places: no
variable, no function and no other kernel gets another slot by it.

* `SlotMap.Numbers` — what the slots of a surface are; `Surface.numbers_iff` says that nothing but
  `Surface.slots` is that.
* `DefaultChange` — a default kernel put in or taken out at a place; `make?` and `run?` give the
  surface after one change and after some, `moves` and `movesAll` the place of a kernel after them.
* `SlotMap.Keeps` — slots that stay; `keeps_of_make?` is what one change keeps, `keeps_of_run?` what
  a run of changes keeps.
* `Surface.numbers_and_keeps_slots` — the slots of a surface, and what default kernels do to them.

### What is load-bearing

The numbered kernels follow the kernels: a default kernel that comes in brings an entry without a
slot at its place, and every other entry is the one that it was (`numberKernels_insertIdx`).  Taking
a kernel out is putting it in, read backwards (`PutsIn`), so both kinds of change rest on this fact.
-/

namespace ScriptBindings

/-! ## The slots of a surface -/

/-- **The slots of a surface**: all that it exports, and which number each symbol has. -/
structure SlotMap.Numbers (slots : SlotMap) (s : Surface) : Prop where
  /-- The variables are listed, all of them and in order. -/
  globals : slots.globals.map Prod.snd = s.globals
  /-- So are the kernels, the default ones among them. -/
  kernels : slots.kernels.map Prod.snd = s.kernels
  /-- So are the functions. -/
  functions : slots.functions.map Prod.snd = s.functions
  /-- The slots of the variables are the numbers from zero on. -/
  globalSlots : slots.globals.map Prod.fst = List.range s.globals.length
  /-- So are those of the functions. -/
  functionSlots : slots.functions.map Prod.fst = List.range s.functions.length
  /-- A kernel has no slot exactly if it is a default one. -/
  eq_none_iff : ∀ e ∈ slots.kernels, e.1 = none ↔ e.2.isDefault = true
  /-- The slots of the other kernels, in order, are the numbers from zero on. -/
  kernelSlots : slots.kernels.filterMap Prod.fst = List.range (s.kernels.countP (!·.isDefault))

theorem map_fst_numberFrom {α : Type} (next : Nat) (items : List α) :
    (numberFrom next items).map Prod.fst = List.range' next items.length := by
  induction items generalizing next with
  | nil => rfl
  | cons item items ih => rw [numberFrom, List.map_cons, ih, List.length_cons, List.range'_succ]

/-- A list is numbered in one way only. -/
theorem eq_numberFrom {α : Type} {entries : List (Nat × α)} {items : List α}
    (hitems : entries.map Prod.snd = items)
    (hslots : entries.map Prod.fst = List.range items.length) : entries = numberFrom 0 items := by
  rw [List.range_eq_range'] at hslots
  have hnumbered : numberFrom 0 items = (List.range' 0 items.length).zip items :=
    List.zip_of_prod (map_fst_numberFrom 0 items) (map_snd_numberFrom 0 items)
  rw [hnumbered]
  exact List.zip_of_prod hslots hitems

theorem eq_none_iff_of_mem_numberKernels {next : Nat} {kernels : List Kernel}
    {e : Option Nat × Kernel} (he : e ∈ numberKernels next kernels) :
    e.1 = none ↔ e.2.isDefault = true := by
  obtain ⟨i, hi⟩ := List.mem_iff_getElem?.1 he
  rw [getElem?_numberKernels, Option.map_eq_some_iff] at hi
  obtain ⟨kernel, -, rfl⟩ := hi
  simp

/-- **The slots of kernels** go up by one at each callable kernel and at no other. -/
theorem filterMap_fst_numberKernels (next : Nat) (kernels : List Kernel) :
    (numberKernels next kernels).filterMap Prod.fst =
      List.range' next (kernels.countP (!·.isDefault)) := by
  induction kernels generalizing next with
  | nil => rfl
  | cons kernel kernels ih =>
      rw [numberKernels]
      cases hd : kernel.isDefault with
      | true => simp [ih, hd]
      | false => simp [ih, hd, List.range'_succ]

/-- Kernels are numbered in one way only: the entry at the head has no slot or the next one, and the
others go on from there. -/
theorem eq_numberKernels {next : Nat} {entries : List (Option Nat × Kernel)}
    (hnone : ∀ e ∈ entries, e.1 = none ↔ e.2.isDefault = true)
    (hslots : entries.filterMap Prod.fst =
      List.range' next ((entries.map Prod.snd).countP (!·.isDefault))) :
    entries = numberKernels next (entries.map Prod.snd) := by
  induction entries generalizing next with
  | nil => rfl
  | cons e entries ih =>
      obtain ⟨slot, kernel⟩ := e
      obtain ⟨hhead, htail⟩ := List.forall_mem_cons.1 hnone
      rw [List.map_cons, numberKernels]
      cases hd : kernel.isDefault with
      | true =>
          obtain rfl : slot = none := hhead.2 hd
          exact congrArg _ (ih htail (by simpa [hd] using hslots))
      | false =>
          cases slot with
          | none => exact absurd (hhead.1 rfl) (by simp [hd])
          | some number =>
              have hcons : number = next ∧ entries.filterMap Prod.fst =
                  List.range' (next + 1) ((entries.map Prod.snd).countP (!·.isDefault)) := by
                simpa [hd, List.range'_succ] using hslots
              obtain ⟨rfl, hrest⟩ := hcons
              exact congrArg _ (ih htail hrest)

/-- **What numbers a surface is its slots**, and nothing else does. -/
theorem Surface.numbers_iff {slots : SlotMap} {s : Surface} :
    slots.Numbers s ↔ slots = s.slots := by
  constructor
  · intro h
    obtain ⟨globals, kernels, functions⟩ := slots
    have hkernels : kernels = numberKernels 0 s.kernels := by
      have hslots := h.kernelSlots
      rw [List.range_eq_range', ← h.kernels] at hslots
      rw [← h.kernels]
      exact eq_numberKernels h.eq_none_iff hslots
    rw [slots, ← eq_numberFrom h.globals h.globalSlots, ← hkernels,
      ← eq_numberFrom h.functions h.functionSlots]
  · rintro rfl
    refine ⟨map_snd_numberFrom 0 s.globals, map_snd_numberKernels 0 s.kernels,
      map_snd_numberFrom 0 s.functions, ?_, ?_, fun e he => eq_none_iff_of_mem_numberKernels he, ?_⟩
    all_goals rw [List.range_eq_range']
    · exact map_fst_numberFrom 0 s.globals
    · exact map_fst_numberFrom 0 s.functions
    · exact filterMap_fst_numberKernels 0 s.kernels

/-! ## Changes of the default kernels -/

/-- **A change of the default kernels** at a place of the list of kernels. -/
inductive DefaultChange where
  /-- A default kernel comes in before the kernel at the place, or at the end. -/
  | insert (place : Nat) (kernel : Kernel)
  /-- The default kernel at the place goes out. -/
  | remove (place : Nat)
deriving DecidableEq, Repr

namespace DefaultChange

/-- **A surface after a change.**  There is none if the list of kernels has no such place, or if the
kernel is not a default one. -/
def make? (s : Surface) : DefaultChange → Option Surface
  | insert place kernel =>
      if place ≤ s.kernels.length ∧ kernel.isDefault then
        some { s with kernels := s.kernels.insertIdx place kernel }
      else none
  | remove place =>
      if s.kernels[place]?.any (·.isDefault) then
        some { s with kernels := s.kernels.eraseIdx place }
      else none

/-- **A surface after a run of changes.** -/
def run? (s : Surface) (changes : List DefaultChange) : Option Surface :=
  changes.foldlM make? s

/-- **Where a kernel stands after a change**, other than the one that comes in or goes out. -/
def moves : DefaultChange → Nat → Nat
  | insert place _, i => if i < place then i else i + 1
  | remove place, i => if i < place then i else i - 1

/-- **Where a kernel stands after a run of changes.** -/
def movesAll (changes : List DefaultChange) (i : Nat) : Nat :=
  changes.foldl (fun i change => change.moves i) i

/-- **A default kernel put in**: the second surface is the first one with it at the place. -/
structure PutsIn (place : Nat) (kernel : Kernel) (s t : Surface) : Prop where
  place_le : place ≤ s.kernels.length
  isDefault : kernel.isDefault = true
  eq : t = { s with kernels := s.kernels.insertIdx place kernel }

/-- **What a change is**: a default kernel is put in, or taking one out leaves a surface into which
it can be put again. -/
theorem putsIn_of_make? {change : DefaultChange} {s t : Surface} (h : change.make? s = some t) :
    (∃ place kernel, change = insert place kernel ∧ PutsIn place kernel s t) ∨
      ∃ place kernel, change = remove place ∧ PutsIn place kernel t s := by
  cases change with
  | insert place kernel =>
      obtain ⟨⟨hplace, hdefault⟩, ht⟩ := Option.ite_none_right_eq_some.1 h
      exact .inl ⟨place, kernel, rfl, hplace, hdefault, (Option.some.inj ht).symm⟩
  | remove place =>
      obtain ⟨hany, ht⟩ := Option.ite_none_right_eq_some.1 h
      obtain ⟨kernel, hkernel, hdefault⟩ := (Option.any_eq_true _ _).1 hany
      obtain ⟨hlt, rfl⟩ := List.getElem?_eq_some_iff.1 hkernel
      obtain rfl := Option.some.inj ht
      refine .inr ⟨place, _, rfl, ?_, hdefault, ?_⟩
      · rw [List.length_eraseIdx_of_lt hlt]
        exact Nat.le_sub_one_of_lt hlt
      · rw [List.insertIdx_eraseIdx_getElem hlt]

end DefaultChange

/-! ## Slots that stay -/

/-- **A default kernel that comes in** brings an entry without a slot, and changes no other. -/
theorem numberKernels_insertIdx {kernel : Kernel} (hd : kernel.isDefault = true) (next : Nat)
    (kernels : List Kernel) (place : Nat) :
    numberKernels next (kernels.insertIdx place kernel) =
      (numberKernels next kernels).insertIdx place (none, kernel) := by
  induction kernels generalizing next place with
  | nil => cases place <;> simp [numberKernels, hd]
  | cons first kernels ih =>
      cases place with
      | zero => rw [List.insertIdx_zero, List.insertIdx_zero, numberKernels, if_pos hd]
      | succ place =>
          rw [List.insertIdx_succ_cons, numberKernels, numberKernels]
          split <;> rw [ih, List.insertIdx_succ_cons]

/-- What a filter drops may stand anywhere. -/
theorem filter_insertIdx_of_not {α : Type} {p : α → Bool} {x : α} (hx : ¬ p x) (xs : List α)
    (place : Nat) : (xs.insertIdx place x).filter p = xs.filter p := by
  induction xs generalizing place with
  | nil => cases place <;> simp [hx]
  | cons first xs ih =>
      cases place with
      | zero => rw [List.insertIdx_zero, List.filter_cons_of_neg hx]
      | succ place => rw [List.insertIdx_succ_cons, List.filter_cons, List.filter_cons, ih]

/-- **Slots that stay** while kernels move to other places. -/
structure SlotMap.Keeps (moves : Nat → Nat) (slots slots' : SlotMap) : Prop where
  /-- Every variable has the slot that it had. -/
  globals : slots'.globals = slots.globals
  /-- So has every function. -/
  functions : slots'.functions = slots.functions
  /-- So has every callable kernel, where it stands now. -/
  moved : ∀ i e, slots.kernels[i]? = some e → e.2.isDefault = false →
    slots'.kernels[moves i]? = some e
  /-- The callable kernels are the ones that there were, in the same order. -/
  callable : slots'.kernels.filter (!·.2.isDefault) = slots.kernels.filter (!·.2.isDefault)

theorem SlotMap.Keeps.refl (slots : SlotMap) : slots.Keeps id slots :=
  ⟨rfl, rfl, fun _ _ he _ => he, rfl⟩

theorem SlotMap.Keeps.trans {moves moves' : Nat → Nat} {slots slots' slots'' : SlotMap}
    (h : slots.Keeps moves slots') (h' : slots'.Keeps moves' slots'') :
    slots.Keeps (moves' ∘ moves) slots'' where
  globals := h'.globals.trans h.globals
  functions := h'.functions.trans h.functions
  moved i e he hcallable := h'.moved (moves i) e (h.moved i e he hcallable) hcallable
  callable := h'.callable.trans h.callable

namespace DefaultChange

section PutsIn

variable {place : Nat} {kernel : Kernel} {s t : Surface}

theorem PutsIn.slots_kernels (h : PutsIn place kernel s t) :
    t.slots.kernels = s.slots.kernels.insertIdx place (none, kernel) := by
  rw [h.eq]
  exact numberKernels_insertIdx h.isDefault 0 s.kernels place

theorem PutsIn.callable (h : PutsIn place kernel s t) :
    t.slots.kernels.filter (!·.2.isDefault) = s.slots.kernels.filter (!·.2.isDefault) := by
  rw [h.slots_kernels]
  exact filter_insertIdx_of_not (by simp [h.isDefault]) _ place

/-- Slots stay where a default kernel comes in. -/
theorem PutsIn.keeps (h : PutsIn place kernel s t) :
    s.slots.Keeps (insert place kernel).moves t.slots := by
  refine ⟨by rw [h.eq]; rfl, by rw [h.eq]; rfl, ?_, h.callable⟩
  intro i e he hcallable
  rw [h.slots_kernels, List.getElem?_insertIdx, moves]
  by_cases hi : i < place
  · rw [if_pos hi, if_pos hi]
    exact he
  · rw [if_neg hi, if_neg (by omega), if_neg (by omega), Nat.add_sub_cancel]
    exact he

/-- Slots stay where a default kernel goes out. -/
theorem PutsIn.keeps_remove (h : PutsIn place kernel s t) :
    t.slots.Keeps (remove place).moves s.slots := by
  refine ⟨by rw [h.eq]; rfl, by rw [h.eq]; rfl, ?_, h.callable.symm⟩
  intro i e he hcallable
  rw [h.slots_kernels, List.getElem?_insertIdx] at he
  rw [moves]
  by_cases hi : i < place
  · rw [if_pos hi] at he ⊢
    exact he
  · -- The kernel at the place itself is the one that goes out, and that is no callable one.
    have hne : i ≠ place := by
      rintro rfl
      rw [if_neg hi, if_pos rfl, Option.ite_none_right_eq_some] at he
      obtain rfl := Option.some.inj he.2
      exact Bool.false_ne_true (hcallable.symm.trans h.isDefault)
    rw [if_neg hi, if_neg hne] at he
    rw [if_neg hi]
    exact he

end PutsIn

/-- **What a change keeps.** -/
theorem keeps_of_make? {change : DefaultChange} {s t : Surface} (h : change.make? s = some t) :
    s.slots.Keeps change.moves t.slots := by
  rcases putsIn_of_make? h with ⟨place, kernel, rfl, hputs⟩ | ⟨place, kernel, rfl, hputs⟩
  · exact hputs.keeps
  · exact hputs.keeps_remove

/-- **What a run of changes keeps.** -/
theorem keeps_of_run? {changes : List DefaultChange} {s t : Surface}
    (h : run? s changes = some t) : s.slots.Keeps (movesAll changes) t.slots := by
  induction changes generalizing s with
  | nil =>
      obtain rfl : s = t := Option.some.inj h
      exact .refl s.slots
  | cons change changes ih =>
      rw [run?, List.foldlM_cons] at h
      obtain ⟨u, hu, hrest⟩ := Option.bind_eq_some_iff.1 h
      exact (keeps_of_make? hu).trans (ih hrest)

end DefaultChange

/-- **Default kernels never shift slots.**  The slots of a surface number it, and no run of changes
of its default kernels gives another symbol a different one. -/
theorem Surface.numbers_and_keeps_slots (s : Surface) :
    s.slots.Numbers s ∧ ∀ changes t, DefaultChange.run? s changes = some t →
      s.slots.Keeps (DefaultChange.movesAll changes) t.slots :=
  ⟨Surface.numbers_iff.2 rfl, fun _ _ h => DefaultChange.keeps_of_run? h⟩

/-- A surface with a default kernel between two kernels that cannot be told apart. -/
def Surface.fog : Surface where
  globals := [⟨"density", .scalar (.known .float), none⟩]
  kernels := [{ name := "veil" }, { name := "root", isDefault := true }, { name := "veil" }]
  functions := [⟨"reset", none⟩]

theorem Surface.numbers_and_keeps_slots_fog :
    Surface.fog.slots.Numbers Surface.fog ∧
      ∃ t, DefaultChange.run? Surface.fog
          [.remove 1, .insert 0 { name := "base", isDefault := true },
            .insert 3 { name := "last", isDefault := true }] = some t ∧
        t.slots.kernels.map Prod.fst = [none, some 0, some 1, none] ∧
        Surface.fog.slots.Keeps (DefaultChange.movesAll
          [.remove 1, .insert 0 { name := "base", isDefault := true },
            .insert 3 { name := "last", isDefault := true }]) t.slots :=
  have h := Surface.fog.numbers_and_keeps_slots
  ⟨h.1, _, rfl, rfl, h.2 _ _ rfl⟩

end ScriptBindings
