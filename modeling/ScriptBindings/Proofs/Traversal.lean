import Mathlib.Data.List.Forall2

/-!
# Fallible steps in sequence

Reading, laying out and generating are programs in `Except`: one step after the other, and lists of
things step by step.  This file says once what the result of such a program tells about its steps.

* `bind_eq_ok_iff`, `bind_eq_error_iff` — two steps.
* `mapM_eq_ok_iff` — a list of steps succeeds exactly if each of them does.
* `mapM_eq_error_iff` — it fails with the error of the first step that fails.
-/

namespace ScriptBindings.Traversal

variable {ε α β : Type}

@[simp] theorem pure_eq_ok (a : α) : (pure a : Except ε α) = .ok a := rfl

@[simp] theorem ok_bind (a : α) (f : α → Except ε β) : (Except.ok a >>= f) = f a := rfl

@[simp] theorem error_bind (e : ε) (f : α → Except ε β) :
    (Except.error e >>= f) = .error e := rfl

theorem bind_eq_ok_iff {x : Except ε α} {f : α → Except ε β} {b : β} :
    x >>= f = .ok b ↔ ∃ a, x = .ok a ∧ f a = .ok b := by
  cases x with
  | error e => simp [bind, Except.bind]
  | ok a => simp [bind, Except.bind]

theorem bind_eq_error_iff {x : Except ε α} {f : α → Except ε β} {e : ε} :
    x >>= f = .error e ↔ x = .error e ∨ ∃ a, x = .ok a ∧ f a = .error e := by
  cases x with
  | error e' => simp [bind, Except.bind]
  | ok a => simp [bind, Except.bind]

/-- **A list of steps succeeds** exactly if every step does, and gives their results in order. -/
theorem mapM_eq_ok_iff {f : α → Except ε β} {xs : List α} {ys : List β} :
    xs.mapM f = .ok ys ↔ List.Forall₂ (fun x y => f x = .ok y) xs ys := by
  induction xs generalizing ys with
  | nil => cases ys <;> simp
  | cons x xs ih =>
      rw [List.mapM_cons, bind_eq_ok_iff]
      constructor
      · rintro ⟨y, hy, hrest⟩
        obtain ⟨zs, hzs, heq⟩ := bind_eq_ok_iff.1 hrest
        cases heq
        exact .cons hy (ih.1 hzs)
      · rintro (_ | ⟨hy, hys⟩)
        exact ⟨_, hy, bind_eq_ok_iff.2 ⟨_, ih.2 hys, rfl⟩⟩

/-- **A list of steps fails** exactly if one of them fails after others that succeed, and with the
error of that one. -/
theorem mapM_eq_error_iff {f : α → Except ε β} {xs : List α} {e : ε} :
    xs.mapM f = .error e ↔
      ∃ before x after, xs = before ++ x :: after ∧ (∀ y ∈ before, ∃ z, f y = .ok z) ∧
        f x = .error e := by
  induction xs with
  | nil => simp
  | cons x xs ih =>
      rw [List.mapM_cons, bind_eq_error_iff]
      constructor
      -- Either the first step fails, with nothing before it, or it joins the steps before.
      · rintro (hx | ⟨y, hy, hrest⟩)
        · exact ⟨[], x, xs, rfl, by simp, hx⟩
        · rcases bind_eq_error_iff.1 hrest with hxs | ⟨zs, -, heq⟩
          · obtain ⟨before, z, after, rfl, hbefore, hz⟩ := ih.1 hxs
            refine ⟨x :: before, z, after, rfl, ?_, hz⟩
            intro w hw
            rcases List.mem_cons.1 hw with rfl | hw
            · exact ⟨y, hy⟩
            · exact hbefore w hw
          · cases heq
      · rintro ⟨before, z, after, heq, hbefore, hz⟩
        cases before with
        | nil =>
            obtain ⟨rfl, rfl⟩ := List.cons.inj heq
            exact .inl hz
        | cons w before =>
            obtain ⟨rfl, rfl⟩ := List.cons.inj heq
            obtain ⟨y, hy⟩ := hbefore x (by simp)
            have hxs := ih.2 ⟨before, z, after, rfl, fun v hv => hbefore v (by simp [hv]), hz⟩
            exact .inr ⟨y, hy, bind_eq_error_iff.2 (.inl hxs)⟩

/-- Steps that all succeed give some list of results. -/
theorem exists_mapM_eq_ok {f : α → Except ε β} {xs : List α} (h : ∀ x ∈ xs, ∃ y, f x = .ok y) :
    ∃ ys, xs.mapM f = .ok ys := by
  cases hxs : xs.mapM f with
  | ok ys => exact ⟨ys, rfl⟩
  | error e =>
      obtain ⟨before, x, after, rfl, -, hx⟩ := mapM_eq_error_iff.1 hxs
      obtain ⟨y, hy⟩ := h x (by simp)
      rw [hx] at hy
      cases hy

/-- What is in the second of two related lists, is related to something in the first. -/
theorem exists_of_forall₂_right {R : α → β → Prop} {xs : List α} {ys : List β}
    (h : List.Forall₂ R xs ys) {y : β} (hy : y ∈ ys) : ∃ x ∈ xs, R x y := by
  induction h with
  | nil => simp at hy
  | cons hx _ ih =>
      rcases List.mem_cons.1 hy with rfl | hy
      · exact ⟨_, by simp, hx⟩
      · obtain ⟨x, hmem, hx⟩ := ih hy
        exact ⟨x, by simp [hmem], hx⟩

/-- What holds of related things together, holds of all of two related lists together. -/
theorem forall_iff_of_forall₂ {R : α → β → Prop} {p : α → Prop} {q : β → Prop}
    (step : ∀ x y, R x y → (p x ↔ q y)) {xs : List α} {ys : List β} (h : List.Forall₂ R xs ys) :
    (∀ x ∈ xs, p x) ↔ ∀ y ∈ ys, q y := by
  induction h with
  | nil => simp
  | cons hxy _ ih => rw [List.forall_mem_cons, List.forall_mem_cons, step _ _ hxy, ih]

/-- What a list of steps gives, comes from one of the steps. -/
theorem exists_of_mem_mapM {f : α → Except ε β} {xs : List α} {ys : List β}
    (h : xs.mapM f = .ok ys) {y : β} (hy : y ∈ ys) : ∃ x ∈ xs, f x = .ok y :=
  exists_of_forall₂_right (mapM_eq_ok_iff.1 h) hy

/-- In a list of steps that gives something, each step does. -/
theorem exists_ok_of_mapM {f : α → Except ε β} {xs : List α} {ys : List β}
    (h : xs.mapM f = .ok ys) {x : α} (hx : x ∈ xs) : ∃ y, f x = .ok y := by
  obtain ⟨y, -, hy⟩ := exists_of_forall₂_right (mapM_eq_ok_iff.1 h).flip hx
  exact ⟨y, hy⟩

/-- **Two passes over one list.**  If the two results of every step come from one common thing,
then the two lists of results come from one list of such things. -/
theorem exists_forall₂_of_mapM {δ ε' ζ η : Type} {f : α → Except ε β} {g : α → Except ε δ}
    {R : α → ε' → Prop} {u : β → ζ} {u' : ε' → ζ} {v : δ → η} {v' : ε' → η}
    (step : ∀ x y z, f x = .ok y → g x = .ok z → ∃ m, R x m ∧ u y = u' m ∧ v z = v' m)
    {xs : List α} {ys : List β} {zs : List δ} (hf : xs.mapM f = .ok ys) (hg : xs.mapM g = .ok zs) :
    ∃ ms, List.Forall₂ R xs ms ∧ ys.map u = ms.map u' ∧ zs.map v = ms.map v' := by
  have hys := mapM_eq_ok_iff.1 hf
  have hzs := mapM_eq_ok_iff.1 hg
  clear hf hg
  induction hys generalizing zs with
  | nil =>
      cases hzs
      exact ⟨[], .nil, rfl, rfl⟩
  | cons hy _ ih =>
      obtain _ | ⟨hz, hzs⟩ := hzs
      obtain ⟨m, hm, hu, hv⟩ := step _ _ _ hy hz
      obtain ⟨ms, hms, hus, hvs⟩ := ih hzs
      exact ⟨m :: ms, .cons hm hms, by simp [hu, hus], by simp [hv, hvs]⟩

/-- What stands at a place of one list, is related to what stands there in the other. -/
theorem exists_getElem?_of_forall₂ {R : α → β → Prop} {xs : List α} {ys : List β}
    (h : List.Forall₂ R xs ys) {i : Nat} {x : α} (hx : xs[i]? = some x) :
    ∃ y, ys[i]? = some y ∧ R x y := by
  induction h generalizing i with
  | nil => simp at hx
  | cons hxy _ ih =>
      cases i with
      | zero =>
          obtain rfl := Option.some.inj hx
          exact ⟨_, rfl, hxy⟩
      | succ i => simpa using ih (by simpa using hx)

end ScriptBindings.Traversal
