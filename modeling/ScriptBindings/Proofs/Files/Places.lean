import Mathlib.Data.Set.Basic
import ScriptBindings.Files.Disk
import ScriptBindings.Proofs.Traversal

/-!
# Where paths lead

There are no links on a disk, so the place that a path leads to follows from its parts alone, and
only whether one gets there depends on what the disk holds.

* `Location.walk`, `Location.trail` — the place that parts lead to, and the places on the way.
* `Disk.enter_eq_ok_iff` — one gets there exactly if all places on the way are directories.
* `Path.NullFree` — a name that the system takes, as it must to lead anywhere.
* `Disk.at?` — what lies at the end of a path.
* `Disk.ChangesWithin` — two disks that differ at some places at most.  Directories outside of these
  can still be entered (`ChangesWithin.enter`), which is how everything below survives a change.
-/

namespace ScriptBindings

open Traversal

/-! ## Places -/

/-- **The place that parts lead to** from a directory. -/
def Location.walk (here : Location) : List String → Location
  | [] => here
  | part :: parts =>
      if part = ".." then walk here.dropLast parts else walk (here ++ [part]) parts

/-- **The places on the way**, those of the parts that lead down. -/
def Location.trail (here : Location) : List String → List Location
  | [] => []
  | part :: parts =>
      if part = ".." then trail here.dropLast parts
      else (here ++ [part]) :: trail (here ++ [part]) parts

namespace Location

theorem walk_append (here : Location) (parts rest : List String) :
    walk here (parts ++ rest) = walk (walk here parts) rest := by
  induction parts generalizing here with
  | nil => rfl
  | cons part parts ih =>
      rw [List.cons_append, walk, walk]
      split
      · exact ih here.dropLast
      · exact ih (here ++ [part])

theorem trail_append (here : Location) (parts rest : List String) :
    trail here (parts ++ rest) = trail here parts ++ trail (walk here parts) rest := by
  induction parts generalizing here with
  | nil => rfl
  | cons part parts ih =>
      rw [List.cons_append, trail, trail, walk]
      split
      · exact ih here.dropLast
      · rw [ih (here ++ [part])]
        rfl

end Location

namespace Disk

open Location

/-! ## Entries after a change -/

theorem get?_set (d : Disk) {l : Location} (h : l ≠ []) (entry : Entry) (l' : Location) :
    (d.set l entry).get? l' = if l' = l then some entry else d.get? l' := by
  split
  · rename_i heq
    rw [heq, get?_set_self d h]
  · rename_i hne
    exact get?_set_of_ne d hne entry

/-! ## Getting there -/

/-- **Parts can be followed** exactly if every place on the way is a directory. -/
theorem enter_eq_ok_iff {d : Disk} {here l : Location} {parts : List String} :
    d.enter here parts = .ok l ↔
      (∀ q ∈ trail here parts, d.get? q = some .directory) ∧ l = walk here parts := by
  induction parts generalizing here with
  | nil => simp [enter, trail, walk, eq_comm]
  | cons part parts ih =>
      rw [enter, trail, walk]
      split
      · exact ih
      · rw [List.forall_mem_cons]
        cases hplace : d.get? (here ++ [part]) with
        | none => simp
        | some entry =>
            cases entry with
            | file bytes => simp
            | directory => simpa using ih

theorem enter_append (d : Disk) (here : Location) (parts rest : List String) :
    d.enter here (parts ++ rest) = (do d.enter (← d.enter here parts) rest) := by
  induction parts generalizing here with
  | nil => rfl
  | cons part parts ih =>
      rw [List.cons_append, enter, enter]
      split
      · exact ih here.dropLast
      · cases hplace : d.get? (here ++ [part]) with
        | none => rfl
        | some entry =>
            cases entry with
            | file bytes => rfl
            | directory => exact ih (here ++ [part])

/-- **Parts that cannot be followed** lead over a plain file or over nothing, and the error says
which of them. -/
theorem enter_error {d : Disk} {here : Location} {parts : List String} {e : FileError}
    (h : d.enter here parts = .error e) :
    (e = .notDirectory ∧ ∃ q ∈ trail here parts, ∃ bytes, d.get? q = some (.file bytes)) ∨
      (e = .notFound ∧ ∃ q ∈ trail here parts, d.get? q = none) := by
  induction parts generalizing here with
  | nil => cases h
  | cons part parts ih =>
      rw [enter] at h
      rw [trail]
      split at h
      · rename_i hup
        rw [if_pos hup]
        exact ih h
      · rename_i hdown
        rw [if_neg hdown]
        cases hplace : d.get? (here ++ [part]) with
        | none =>
            rw [hplace] at h
            cases h
            exact .inr ⟨rfl, _, by simp, hplace⟩
        | some entry =>
            rw [hplace] at h
            cases entry with
            | file bytes =>
                cases h
                exact .inl ⟨rfl, _, by simp, bytes, hplace⟩
            | directory =>
                rcases ih h with ⟨he, q, hq, hfile⟩ | ⟨he, q, hq, hnone⟩
                · exact .inl ⟨he, q, List.mem_cons_of_mem _ hq, hfile⟩
                · exact .inr ⟨he, q, List.mem_cons_of_mem _ hq, hnone⟩

/-- The directory in which a path begins. -/
def start (d : Disk) (p : Path) : Location :=
  if p.root = "" then d.workingDirectory else []

/-- **Following a path to a directory.** -/
def enterPath (d : Disk) (p : Path) : Except FileError Location :=
  if p.hasNull then .error .nullCharacter else d.enter (d.start p) p.parts

/-- The places on the way of a path. -/
def way (d : Disk) (p : Path) : List Location :=
  trail (d.start p) p.parts

/-- The place that a path leads to as a directory. -/
def destination (d : Disk) (p : Path) : Location :=
  walk (d.start p) p.parts

/-- The place of a name in the directory that a path leads to. -/
def place (d : Disk) (p : Path) (name : String) : Location :=
  d.destination p ++ [name]

/-- **A directory can be entered** exactly if the system takes its path and every place on its way
is a directory. -/
theorem enterPath_eq_ok_iff {d : Disk} {p : Path} {l : Location} :
    d.enterPath p = .ok l ↔
      (p.hasNull = false ∧ ∀ q ∈ d.way p, d.get? q = some .directory) ∧ l = d.destination p := by
  rw [enterPath]
  cases p.hasNull with
  | true => simp
  | false =>
      rw [if_neg Bool.false_ne_true, enter_eq_ok_iff]
      exact and_congr_left' (and_iff_right rfl).symm

/-- **What lies at the end of a path**, if anything does. -/
def at? (d : Disk) (p : Path) : Option Entry :=
  match d.resolve p with
  | .ok (.through _) => some .directory
  | .ok (.name l) => d.get? l
  | .error _ => none

end Disk

/-! ## Names in a directory -/

/-- **A name that the system takes**: the null character is not in it. -/
def Path.NullFree (name : String) : Prop :=
  '\x00' ∉ name.toList

/-- **A single name**: one part that leads down. -/
structure Path.IsComponent (name : String) : Prop where
  ne_empty : name ≠ ""
  ne_point : name ≠ "."
  ne_up : name ≠ ".."
  slash_notMem : '/' ∉ name.toList

namespace Path

instance (name : String) : Decidable (NullFree name) :=
  inferInstanceAs (Decidable ('\x00' ∉ name.toList))

theorem hasNull_concat_iff {root : String} {parts : List String} {last : String} :
    hasNull ⟨root, parts ++ [last]⟩ = false ↔ hasNull ⟨root, parts⟩ = false ∧ NullFree last := by
  simp only [hasNull, List.any_append, Bool.or_eq_false_iff, NullFree]
  simp

/-- A last part that the system takes changes nothing about the path. -/
theorem hasNull_concat {last : String} (h : NullFree last) (root : String) (parts : List String) :
    hasNull ⟨root, parts ++ [last]⟩ = hasNull ⟨root, parts⟩ := by
  rw [Bool.eq_iff_iff, ← not_iff_not, Bool.not_eq_true, Bool.not_eq_true, hasNull_concat_iff]
  exact and_iff_left h

instance (name : String) : Decidable (IsComponent name) :=
  decidable_of_iff (name ≠ "" ∧ name ≠ "." ∧ name ≠ ".." ∧ '/' ∉ name.toList)
    ⟨fun ⟨hempty, hpoint, hup, hslash⟩ => ⟨hempty, hpoint, hup, hslash⟩,
      fun h => ⟨h.ne_empty, h.ne_point, h.ne_up, h.slash_notMem⟩⟩

/-- A single name is the only part of its path. -/
theorem IsComponent.ofString {name : String} (h : IsComponent name) :
    Path.ofString name = ⟨"", [name]⟩ := by
  have hslash : ∀ c ∈ name.toList, (c == '/') = false := by
    intro c mem
    have hne : c ≠ '/' := fun heq => h.slash_notMem (heq ▸ mem)
    simpa using hne
  have hroot : rootOf name.toList = "" := by
    have hnone : name.toList.takeWhile (· == '/') = [] := by
      cases hcs : name.toList with
      | nil => rfl
      | cons c cs => rw [List.takeWhile_cons_of_neg (by simp [hslash c (by simp [hcs])])]
    rw [rootOf, hnone]
    rfl
  have hparts : partsOf name.toList = [name] := by
    rw [partsOf_of_slash_notMem h.slash_notMem]
    simp [h.ne_empty, h.ne_point]
  rw [Path.ofString, hroot, hparts]

theorem IsComponent.child {name : String} (h : IsComponent name) (p : Path) :
    p.child name = ⟨p.root, p.parts ++ [name]⟩ := by
  rw [Path.child, h.ofString, Path.append]
  rfl

end Path

namespace Disk

open Location

/-- **A path with a last part** leads through a directory or to a name in one, as the part leads up
or down. -/
theorem resolve_concat (d : Disk) (root : String) (parts : List String) {last : String}
    (h : Path.NullFree last) :
    d.resolve ⟨root, parts ++ [last]⟩ =
      if last = ".." then (do return .through (← d.enterPath ⟨root, parts ++ [last]⟩))
      else (do return .name ((← d.enterPath ⟨root, parts⟩) ++ [last])) := by
  rw [resolve, enterPath, enterPath, Path.hasNull_concat h]
  cases Path.hasNull ⟨root, parts⟩ with
  | true => by_cases hup : last = ".." <;> simp [hup, Bind.bind, Except.bind]
  | false =>
      simp only [Bool.false_eq_true, if_false, List.getLast?_append, List.getLast?_singleton,
        Option.some_or, List.dropLast_concat]
      rfl

/-- A name that the system does not take leads nowhere. -/
theorem resolve_of_hasNull {p : Path} (h : p.hasNull = true) (d : Disk) :
    d.resolve p = .error .nullCharacter := by
  rw [resolve, if_pos h]

theorem enterPath_concat (d : Disk) (root : String) (parts : List String) {last : String}
    (h : Path.NullFree last) :
    d.enterPath ⟨root, parts ++ [last]⟩ = (do d.enter (← d.enterPath ⟨root, parts⟩) [last]) := by
  rw [enterPath, enterPath, Path.hasNull_concat h]
  cases Path.hasNull ⟨root, parts⟩ with
  | true => rfl
  | false => exact d.enter_append _ parts [last]

/-- **A directory that can be entered** is one that its path goes through, or a name at which it
lies. -/
theorem resolve_of_enterPath {d : Disk} {p : Path} {l : Location} (h : d.enterPath p = .ok l) :
    d.resolve p = .ok (.through l) ∨
      (d.resolve p = .ok (.name l) ∧ d.get? l = some .directory) := by
  obtain ⟨root, parts⟩ := p
  rcases List.eq_nil_or_concat parts with rfl | ⟨parts, last, rfl⟩
  · cases h
    exact .inl rfl
  · rw [List.concat_eq_append] at h ⊢
    have hlast : Path.NullFree last :=
      (Path.hasNull_concat_iff.1 (enterPath_eq_ok_iff.1 h).1.1).2
    rw [resolve_concat d root parts hlast]
    by_cases hup : last = ".."
    · rw [if_pos hup, h]
      exact .inl rfl
    · rw [if_neg hup]
      rw [enterPath_concat d root parts hlast] at h
      obtain ⟨here, hhere, hlast⟩ := bind_eq_ok_iff.1 h
      obtain ⟨hdirectory, rfl⟩ := enter_eq_ok_iff.1 hlast
      rw [trail, trail, if_neg hup] at hdirectory
      rw [hhere, walk, walk, if_neg hup]
      exact .inr ⟨rfl, hdirectory _ List.mem_cons_self⟩

theorem resolve_concat_of_error {d : Disk} {root : String} {parts : List String} {e : FileError}
    (h : d.enterPath ⟨root, parts⟩ = .error e) {last : String} (hlast : Path.NullFree last) :
    d.resolve ⟨root, parts ++ [last]⟩ = .error e := by
  rw [resolve_concat d root parts hlast, enterPath_concat d root parts hlast, h]
  split <;> rfl

/-- **A name in a directory** resolves to a name at the place of the directory, or fails as the
directory does. -/
theorem resolve_child (d : Disk) (p : Path) {name : String} (h : Path.IsComponent name)
    (hnull : Path.NullFree name) :
    d.resolve (p.child name) = (do return .name ((← d.enterPath p) ++ [name])) := by
  rw [h.child, d.resolve_concat p.root p.parts hnull, if_neg h.ne_up]

/-- A name that the system does not take resolves to nothing. -/
theorem resolve_child_of_not_nullFree (d : Disk) (p : Path) {name : String}
    (h : Path.IsComponent name) (hnull : ¬ Path.NullFree name) :
    d.resolve (p.child name) = .error .nullCharacter := by
  rw [h.child]
  refine resolve_of_hasNull ?_ d
  rw [← Bool.not_eq_false, Path.hasNull_concat_iff]
  exact fun hfree => hnull hfree.2

theorem at?_child_of_enterPath {d : Disk} {p : Path} {here : Location} {name : String}
    (h : Path.IsComponent name) (hnull : Path.NullFree name) (hhere : d.enterPath p = .ok here) :
    d.at? (p.child name) = d.get? (here ++ [name]) := by
  rw [at?, d.resolve_child p h hnull, hhere]
  rfl

theorem at?_child_of_enterPath_error {d : Disk} {p : Path} {e : FileError} {name : String}
    (h : Path.IsComponent name) (herror : d.enterPath p = .error e) :
    d.at? (p.child name) = none := by
  by_cases hnull : Path.NullFree name
  · rw [at?, d.resolve_child p h hnull, herror]
    rfl
  · rw [at?, d.resolve_child_of_not_nullFree p h hnull]

/-! ## Changes within some places -/

/-- **Two disks that differ within some places** at most, and the second keeps the directories of
the first.

Every step of a publication is such a change, and its places are what a later claim about the whole
has to look at. -/
structure ChangesWithin (places : Set Location) (d d' : Disk) : Prop where
  /-- Relative paths begin in the same directory. -/
  workingDirectory : d'.workingDirectory = d.workingDirectory
  /-- Everything else is as it was. -/
  get? : ∀ l ∉ places, d'.get? l = d.get? l
  /-- No directory is lost. -/
  directory : ∀ l, d.get? l = some .directory → d'.get? l = some .directory

namespace ChangesWithin

variable {places places' : Set Location} {d d' d'' : Disk}

theorem refl (places : Set Location) (d : Disk) : ChangesWithin places d d :=
  ⟨rfl, fun _ _ => rfl, fun _ h => h⟩

theorem mono (sub : places ⊆ places') (h : ChangesWithin places d d') :
    ChangesWithin places' d d' :=
  ⟨h.workingDirectory, fun l notMem => h.get? l fun mem => notMem (sub mem), h.directory⟩

/-- Changes in a row are changes within the places of both. -/
theorem trans (h : ChangesWithin places d d') (h' : ChangesWithin places' d' d'') :
    ChangesWithin (places ∪ places') d d'' := by
  refine ⟨h'.workingDirectory.trans h.workingDirectory, fun l notMem => ?_, fun l hl => ?_⟩
  · have hnew : l ∉ places' := fun mem => notMem (.inr mem)
    have hold : l ∉ places := fun mem => notMem (.inl mem)
    rw [h'.get? l hnew, h.get? l hold]
  · exact h'.directory l (h.directory l hl)

theorem trans_same (h : ChangesWithin places d d') (h' : ChangesWithin places d' d'') :
    ChangesWithin places d d'' := by
  simpa using h.trans h'

/-- What is gone after a change was a plain file. -/
theorem exists_file_of_none (h : ChangesWithin places d d') {l : Location}
    (hnone : d'.get? l = none) (hl : d'.get? l ≠ d.get? l) :
    ∃ bytes, d.get? l = some (.file bytes) := by
  cases hold : d.get? l with
  | none => exact absurd (hnone.trans hold.symm) hl
  | some entry =>
      cases entry with
      | file bytes => exact ⟨bytes, rfl⟩
      | directory => cases hnone.symm.trans (h.directory l hold)

theorem start (h : ChangesWithin places d d') (p : Path) : d'.start p = d.start p := by
  rw [Disk.start, Disk.start, h.workingDirectory]

theorem way (h : ChangesWithin places d d') (p : Path) : d'.way p = d.way p := by
  rw [Disk.way, Disk.way, h.start p]

theorem destination (h : ChangesWithin places d d') (p : Path) :
    d'.destination p = d.destination p := by
  rw [Disk.destination, Disk.destination, h.start p]

/-- **Directories can still be entered** after a change. -/
theorem enter (h : ChangesWithin places d d') {p : Path} {here : Location}
    (hhere : d.enterPath p = .ok here) : d'.enterPath p = .ok here := by
  obtain ⟨⟨hnull, hway⟩, hplace⟩ := enterPath_eq_ok_iff.1 hhere
  rw [enterPath_eq_ok_iff, h.way p, h.destination p]
  exact ⟨⟨hnull, fun q mem => h.directory q (hway q mem)⟩, hplace⟩

end ChangesWithin

theorem changesWithin_set {d : Disk} {l : Location} (hl : d.get? l ≠ some .directory)
    (entry : Entry) : ChangesWithin {l} d (d.set l entry) := by
  refine ⟨rfl, fun l' notMem => get?_set_of_ne d notMem entry, fun l' hl' => ?_⟩
  have hne : l' ≠ l := by
    rintro rfl
    exact hl hl'
  rw [get?_set_of_ne d hne entry, hl']

theorem changesWithin_erase {d : Disk} {l : Location} (hl : d.get? l ≠ some .directory) :
    ChangesWithin {l} d (d.erase l) := by
  refine ⟨rfl, fun l' notMem => get?_erase_of_ne d notMem, fun l' hl' => ?_⟩
  have hne : l' ≠ l := by
    rintro rfl
    exact hl hl'
  rw [get?_erase_of_ne d hne, hl']

end Disk

end ScriptBindings
