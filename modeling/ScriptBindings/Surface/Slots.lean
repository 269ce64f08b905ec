import ScriptBindings.Surface.Basic

/-!
# Slots

The runtime knows what a script exports by number.  Variables and functions are numbered in the
order of their declarations, constants included.  Kernels are numbered in their order too, but a
default kernel gets no number and leaves those of the others as they are.
-/

namespace ScriptBindings

/-- **A surface with its slots.** -/
structure SlotMap where
  globals : List (Nat × Variable)
  kernels : List (Option Nat × Kernel)
  functions : List (Nat × Function)
deriving DecidableEq, Repr

/-- Items numbered from `next` on. -/
def numberFrom {α : Type} (next : Nat) : List α → List (Nat × α)
  | [] => []
  | item :: items => (next, item) :: numberFrom (next + 1) items

/-- Kernels numbered from `next` on, without the default ones. -/
def numberKernels (next : Nat) : List Kernel → List (Option Nat × Kernel)
  | [] => []
  | kernel :: kernels =>
      if kernel.isDefault then (none, kernel) :: numberKernels next kernels
      else (some next, kernel) :: numberKernels (next + 1) kernels

/-- **The slots of a surface.** -/
def Surface.slots (s : Surface) : SlotMap where
  globals := numberFrom 0 s.globals
  kernels := numberKernels 0 s.kernels
  functions := numberFrom 0 s.functions

/-- Numbering keeps the items and their order. -/
theorem map_snd_numberFrom {α : Type} (next : Nat) (items : List α) :
    (numberFrom next items).map Prod.snd = items := by
  induction items generalizing next with
  | nil => rfl
  | cons item items ih => simp [numberFrom, ih]

/-- An item has the number of its place. -/
theorem getElem?_numberFrom {α : Type} (next : Nat) (items : List α) (i : Nat) :
    (numberFrom next items)[i]? = items[i]?.map fun item => (next + i, item) := by
  induction items generalizing next i with
  | nil => simp [numberFrom]
  | cons item items ih =>
      cases i with
      | zero => simp [numberFrom]
      | succ i => simp [numberFrom, ih, Nat.add_assoc, Nat.add_comm 1 i]

/-- What a numbered list holds: every item with the number of its place. -/
theorem mem_numberFrom {α : Type} {next : Nat} {items : List α} {e : Nat × α} :
    e ∈ numberFrom next items ↔ ∃ i, items[i]? = some e.2 ∧ e.1 = next + i := by
  obtain ⟨number, item⟩ := e
  simp only [List.mem_iff_getElem?, getElem?_numberFrom, Option.map_eq_some_iff, Prod.mk.injEq]
  constructor
  · rintro ⟨i, x, hx, rfl, rfl⟩
    exact ⟨i, hx, rfl⟩
  · rintro ⟨i, hx, rfl⟩
    exact ⟨i, item, hx, rfl, rfl⟩

/-- Items behind others take the numbers after theirs. -/
theorem numberFrom_append {α : Type} (next : Nat) (items items' : List α) :
    numberFrom next (items ++ items') =
      numberFrom next items ++ numberFrom (next + items.length) items' := by
  induction items generalizing next with
  | nil => rfl
  | cons item items ih =>
      rw [List.cons_append, numberFrom, ih, numberFrom, List.length_cons, Nat.add_right_comm,
        Nat.add_assoc]
      rfl

/-- The numbers increase along the list. -/
theorem pairwise_numberFrom {α : Type} (next : Nat) (items : List α) :
    (numberFrom next items).Pairwise (·.1 < ·.1) := by
  induction items generalizing next with
  | nil => exact .nil
  | cons item items ih =>
      refine .cons (fun e he => ?_) (ih (next + 1))
      obtain ⟨i, -, hi⟩ := mem_numberFrom.1 he
      show next < e.1
      omega

/-- Numbering keeps the kernels and their order. -/
theorem map_snd_numberKernels (next : Nat) (kernels : List Kernel) :
    (numberKernels next kernels).map Prod.snd = kernels := by
  induction kernels generalizing next with
  | nil => rfl
  | cons kernel kernels ih =>
      rw [numberKernels]
      split <;> simp [ih]

/-- Kernels behind others take the slots after theirs. -/
theorem numberKernels_append (next : Nat) (kernels kernels' : List Kernel) :
    numberKernels next (kernels ++ kernels') = numberKernels next kernels ++
      numberKernels (next + kernels.countP (!·.isDefault)) kernels' := by
  induction kernels generalizing next with
  | nil => rfl
  | cons kernel kernels ih =>
      rw [List.cons_append, numberKernels, numberKernels]
      cases hd : kernel.isDefault with
      | true => simp [ih, hd]
      | false => simp [ih, hd, Nat.add_assoc, Nat.add_comm 1]

/-- **The slot of a kernel** is the number of callable kernels before it; a default kernel has
none. -/
theorem getElem?_numberKernels (next : Nat) (kernels : List Kernel) (i : Nat) :
    (numberKernels next kernels)[i]? = kernels[i]?.map fun k =>
      (if k.isDefault then none else some (next + (kernels.take i).countP (!·.isDefault)), k) := by
  induction kernels generalizing next i with
  | nil => simp [numberKernels]
  | cons kernel kernels ih =>
      rw [numberKernels]
      cases hd : kernel.isDefault with
      | true =>
          cases i with
          | zero => simp [hd]
          | succ i => simp [ih, hd]
      | false =>
          cases i with
          | zero => simp [hd]
          | succ i => simp [ih, hd, Nat.add_assoc, Nat.add_comm 1]

end ScriptBindings
