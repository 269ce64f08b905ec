import Mathlib.Data.List.DropRight
import ScriptBindings.Proofs.Code.Lines
import ScriptBindings.Proofs.Text.Tight

/-!
# Runs of steps on a buffer

Lines are added to a buffer, its level changes and it is cleared, in any order and any number of
times.  A step that is refused leaves the buffer as it is, and the run goes on.

* `Buffer.Step`, `Buffer.attempt`, `Buffer.run` — the steps, what becomes of one, and a run.
* `Buffer.Event`, `Buffer.events` — what a run has done, with the level at which it was done.
* `Buffer.Tallies` — a buffer with the level and the lines of some events; `Tallies.after` is what a
  step keeps of it, `tallies_run` what a run does.
* `Buffer.accounts_run` — all that is known of a buffer after a run.

### What is load-bearing

Clearing takes back all that was done before, so a buffer tells of the events since the last
clearing only (`sinceClear`).  The level at which a line was added is one of the events: nothing of
it can be told from the buffer afterwards.
-/

namespace ScriptBindings.Buffer

open ScriptBindings.Text

/-! ## Steps and events -/

/-- **A step on a buffer.** -/
inductive Step (τ : Type) where
  /-- One line at the present level. -/
  | push (line : τ)
  /-- Some lines at the present level. -/
  | append (lines : List τ)
  /-- One level in. -/
  | indent
  /-- One level out. -/
  | outdent
  /-- Back to an empty buffer. -/
  | clear
deriving DecidableEq, Repr

/-- **An event of a run**: a step, the level at which it came, and whether it was taken. -/
structure Event (τ : Type) where
  step : Step τ
  level : Nat
  taken : Bool
deriving DecidableEq, Repr

section

variable {τ : Type}

/-- The lines that an event adds, each with the level at which it does. -/
def Event.added (e : Event τ) : List (Nat × τ) :=
  match e.step with
  | .push line => [(e.level, line)]
  | .append lines => lines.map (e.level, ·)
  | _ => []

/-- How far an event leads in. -/
def Event.climb (e : Event τ) : Int :=
  match e.step with
  | .indent => 1
  | .outdent => if e.taken then -1 else 0
  | _ => 0

variable [DecidableEq τ]

/-- **The events since the last clearing**, all of them if there was none. -/
def sinceClear (events : List (Event τ)) : List (Event τ) :=
  events.rtakeWhile fun e => e.step ≠ .clear

theorem sinceClear_concat (events : List (Event τ)) (e : Event τ) :
    sinceClear (events ++ [e]) = if e.step = .clear then [] else sinceClear events ++ [e] := by
  rw [sinceClear, List.rtakeWhile_concat]
  simp [sinceClear]

/-- **The height of events**: the steps in, less the steps out that were taken. -/
def height (events : List (Event τ)) : Int :=
  (events.countP (·.step = .indent) : Int) - events.countP fun e => e.step = .outdent && e.taken

theorem height_concat (events : List (Event τ)) (e : Event τ) :
    height (events ++ [e]) = height events + e.climb := by
  obtain ⟨step, level, taken⟩ := e
  simp only [height, List.countP_append, List.countP_singleton, Event.climb]
  cases step <;> cases taken <;> simp <;> omega

end

variable {τ : Type} [Append τ] [Textual τ]

/-! ## Runs -/

/-- **What becomes of a step**: the next buffer, or the reason why the step is refused. -/
def attempt (b : Buffer τ) : Step τ → Except Error (Buffer τ)
  | .push line => .ok (b.push line)
  | .append lines => .ok (b.append lines)
  | .indent => .ok b.indent
  | .outdent => b.outdent
  | .clear => .ok b.clear

/-- **A buffer after a step**, the same one if the step is refused. -/
def after (b : Buffer τ) (step : Step τ) : Buffer τ :=
  match b.attempt step with
  | .ok b' => b'
  | .error _ => b

/-- **A buffer after a run of steps.** -/
def run (b : Buffer τ) (steps : List (Step τ)) : Buffer τ :=
  steps.foldl after b

theorem run_concat (b : Buffer τ) (steps : List (Step τ)) (step : Step τ) :
    b.run (steps ++ [step]) = (b.run steps).after step := by
  simp [run]

/-- **A step is refused** exactly if it leads out of level zero. -/
theorem attempt_eq_error_iff {b : Buffer τ} {step : Step τ} :
    b.attempt step = .error .notIndented ↔ step = .outdent ∧ b.level = 0 := by
  cases step with
  | outdent =>
      rw [attempt, outdent]
      cases b.level <;> simp
  | _ => simp [attempt]

/-- A step out leaves the lines as they are, taken or not. -/
theorem lines_after_outdent (b : Buffer τ) : (b.after .outdent).lines = b.lines := by
  rw [after, attempt, outdent]
  cases b.level <;> rfl

/-- The level after a step out, which is the same one if that is zero. -/
theorem level_after_outdent (b : Buffer τ) : (b.after .outdent).level = b.level - 1 := by
  rw [after, attempt, outdent]
  cases hlevel : b.level with
  | zero => exact hlevel
  | succ level => rfl

/-- The event that a step makes. -/
def event (b : Buffer τ) (step : Step τ) : Event τ :=
  ⟨step, b.level, (b.attempt step).isOk⟩

/-- **The events of a run.** -/
def events (b : Buffer τ) : List (Step τ) → List (Event τ)
  | [] => []
  | step :: steps => b.event step :: events (b.after step) steps

theorem events_concat (b : Buffer τ) (steps : List (Step τ)) (step : Step τ) :
    b.events (steps ++ [step]) = b.events steps ++ [(b.run steps).event step] := by
  induction steps generalizing b with
  | nil => rfl
  | cons first steps ih => exact congrArg (b.event first :: ·) (ih (b.after first))

theorem climb_outdent (b : Buffer τ) :
    (b.event .outdent).climb = if b.level = 0 then 0 else -1 := by
  rw [event, attempt, outdent]
  cases b.level <;> rfl

/-! ## The text of a buffer -/

/-- **A text is cut into its lines again** at the newlines, with an empty piece behind the last. -/
theorem pieces_ended {lines : List τ} (h : ∀ line ∈ lines, .char '\n' ∉ Textual.points line) :
    pieces (· == .char '\n') (Textual.points (ended lines)) =
      lines.map Textual.points ++ [[]] := by
  induction lines with
  | nil =>
      rw [ended_nil, Textual.points_ofString]
      rfl
  | cons line lines ih =>
      rw [List.forall_mem_cons] at h
      have hline : ∀ p ∈ Textual.points line, (p == .char '\n') = false := fun p hp => by
        simpa using ne_of_mem_of_not_mem hp h.1
      have htext : Textual.points (ended (line :: lines)) =
          Textual.points line ++ .char '\n' :: Textual.points (ended lines) := by
        simp [ended_cons]
      rw [htext, pieces_append_sep hline (by simp), ih h.2]
      rfl

/-! ## What a buffer tells of its run -/

variable [DecidableEq τ]

/-- **A line in a buffer**, as it was added at a level: after four spaces for each level, but
without them if it is empty. -/
def Stands (added : Nat × τ) (line : τ) : Prop :=
  line = if added.2 = Textual.ofString "" then Textual.ofString ""
    else Textual.ofString (String.join (List.replicate added.1 "    ")) ++ added.2

theorem margin_eq_join (level : Nat) :
    margin level = String.join (List.replicate level "    ") := by
  induction level with
  | zero => rfl
  | succ level ih =>
      rw [List.replicate_succ, String.join_cons, ← ih, margin, margin, Nat.mul_succ, Nat.add_comm,
        ← List.replicate_append_replicate, String.ofList_append]
      rfl

theorem stands_atLevel (level : Nat) (line : τ) : Stands (level, line) (atLevel level line) := by
  rw [Stands, atLevel, margin_eq_join]
  exact if_congr Textual.isEmpty_iff rfl rfl

theorem forall₂_stands (level : Nat) (lines : List τ) :
    List.Forall₂ Stands (lines.map (level, ·)) (lines.map (atLevel level)) := by
  rw [List.forall₂_map_left_iff, List.forall₂_map_right_iff]
  exact List.forall₂_same.2 fun line _ => stands_atLevel level line

/-- **A buffer tells of events**: its level is their height, and its lines are those that they have
added, in order. -/
structure Tallies (b : Buffer τ) (events : List (Event τ)) : Prop where
  level : height events = b.level
  lines : List.Forall₂ Stands (events.flatMap Event.added) b.lines

/-- One event more, with what it adds. -/
theorem Tallies.concat {b b' : Buffer τ} {events : List (Event τ)} {e : Event τ}
    (h : Tallies b events) {lines : List τ} (hlevel : (b'.level : Int) = b.level + e.climb)
    (hlines : b'.lines = b.lines ++ lines) (hadded : List.Forall₂ Stands e.added lines) :
    Tallies b' (events ++ [e]) where
  level := by rw [height_concat, h.level, hlevel]
  lines := by
    rw [hlines, List.flatMap_append, List.flatMap_singleton]
    exact List.rel_append h.lines hadded

/-- **What a step keeps.**  Clearing starts anew, any other step is one event more. -/
theorem Tallies.after {b : Buffer τ} {events : List (Event τ)} (h : Tallies b events)
    (step : Step τ) :
    Tallies (b.after step) (if step = .clear then [] else events ++ [b.event step]) := by
  cases step with
  | push line => exact h.concat (Int.add_zero _).symm rfl (forall₂_stands b.level [line])
  | append lines => exact h.concat (Int.add_zero _).symm rfl (forall₂_stands b.level lines)
  | indent => exact h.concat rfl (List.append_nil _).symm .nil
  | outdent =>
      refine h.concat ?_ ((lines_after_outdent b).trans (List.append_nil _).symm) .nil
      rw [level_after_outdent, climb_outdent]
      split <;> omega
  | clear => exact ⟨rfl, .nil⟩

/-- **What a run keeps**, from a new buffer on. -/
theorem tallies_run (fileName : String) (steps : List (Step τ)) :
    Tallies (run { fileName } steps) (sinceClear (events { fileName } steps)) := by
  induction steps using List.reverseRecOn with
  | nil => exact ⟨rfl, .nil⟩
  | append_singleton steps step ih =>
      rw [run_concat, events_concat, sinceClear_concat]
      exact ih.after step

/-! ## Accounts -/

/-- **What is known of a buffer** after the events of a run. -/
structure Accounts (b : Buffer τ) (events : List (Event τ)) : Prop where
  /-- The level is never less than zero. -/
  nonneg : 0 ≤ height (sinceClear events)
  /-- It is the number of steps in, less that of steps out taken, since the last clearing. -/
  level : b.level = height (sinceClear events)
  /-- The lines are those added since then, in order, each after the spaces of its level. -/
  lines : List.Forall₂ Stands ((sinceClear events).flatMap Event.added) b.lines
  /-- A step out is refused exactly at level zero. -/
  refused : b.attempt .outdent = .error .notIndented ↔ b.level = 0
  /-- It then leaves the lines and the level as they are. -/
  kept : b.attempt .outdent = .error .notIndented →
    (b.after .outdent).lines = b.lines ∧ (b.after .outdent).level = b.level
  /-- The text is cut into the lines again, unless there is none or one has a newline in it. -/
  text : b.lines ≠ [] → (∀ line ∈ b.lines, .char '\n' ∉ Textual.points line) →
    pieces (· == .char '\n') (Textual.points b.text) = b.lines.map Textual.points ++ [[]]

/-- **A new buffer accounts for every run.** -/
theorem accounts_run (fileName : String) (steps : List (Step τ)) :
    Accounts (run { fileName } steps) (events { fileName } steps) := by
  have htallies := tallies_run fileName steps
  generalize run { fileName } steps = b at htallies
  refine ⟨?_, htallies.level.symm, htallies.lines, ?_, ?_, ?_⟩
  · rw [htallies.level]
    exact Int.natCast_nonneg _
  · simp [attempt_eq_error_iff]
  · intro hrefused
    have hzero : b.level = 0 := (attempt_eq_error_iff.1 hrefused).2
    rw [lines_after_outdent, level_after_outdent, hzero]
    exact ⟨rfl, rfl⟩
  · intro hlines hnewline
    rw [text_eq_ended hlines]
    exact pieces_ended hnewline

/-- What was before a clearing is gone, a step out of level zero counts for nothing, and an empty
line stays empty. -/
example : run { fileName := "f" } [.push "a", .indent, .clear, .outdent, .indent, .append ["b", ""]]
    = ⟨"f", ["    b", ""], 1⟩ := by decide

end ScriptBindings.Buffer
