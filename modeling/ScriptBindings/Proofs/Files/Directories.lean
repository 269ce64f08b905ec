import ScriptBindings.Files.Publish
import ScriptBindings.Proofs.Files.Places

/-!
# Making directories

A directory is made with all that are missing above it.  Parts that lead up make the order matter:
`a/../b` makes `a` before `b`, although the path ends beside it.

* `Disk.Makeable`, `Disk.BecomesDirectory` — what the disk tells beforehand: whether the directory
  can be made, and what is a directory then.
* `Disk.MadeWay` — what making a directory does: only missing places on the way change, they become
  directories, and it succeeds exactly if the directory can be made.
* `madeWay_makeDirectories` — it does that from every disk.

The algorithm tries the last directory first and goes back one part whenever something is missing,
so the induction is on the parts from the last to the first.
-/

namespace ScriptBindings

open Traversal

namespace Disk

open Location

/-! ## Programs on a disk -/

/-- **A program in a row** runs its second part on the disk that the first one leaves. -/
theorem bind_run {α β : Type} (x : StateM Disk α) (f : α → StateM Disk β) (d : Disk) :
    (x >>= f) d = f (x d).1 (x d).2 := rfl

theorem pure_run {α : Type} (a : α) (d : Disk) : (pure a : StateM Disk α) d = (a, d) := rfl

/-- An operation that succeeds leaves its disk. -/
theorem act_of_ok {f : Disk → Except FileError Disk} {d d' : Disk} (h : f d = .ok d') :
    act f d = (.ok (), d') := by
  rw [act, h]

/-- An operation that fails leaves the disk as it is. -/
theorem act_of_error {f : Disk → Except FileError Disk} {d : Disk} {e : FileError}
    (h : f d = .error e) : act f d = (.error e, d) := by
  rw [act, h]

/-! ## One directory -/

section One

variable {d d' : Disk} {p : Path}

theorem makeOne_of_ok (h : d.makeDirectory p = .ok d') :
    (makeOne p : StateM Disk _) d = (.ok (), d') := by
  have hrun : (FileSystem.makeDirectory p : StateM Disk _) d = (.ok (), d') := act_of_ok h
  unfold makeOne
  rw [bind_run, hrun]
  rfl

theorem makeOne_of_notFound (h : d.makeDirectory p = .error .notFound) :
    (makeOne p : StateM Disk _) d = (.error .notFound, d) := by
  have hrun : (FileSystem.makeDirectory p : StateM Disk _) d = (.error .notFound, d) :=
    act_of_error h
  unfold makeOne
  rw [bind_run, hrun]
  rfl

theorem makeOne_of_error {e : FileError} (h : d.makeDirectory p = .error e) (hne : e ≠ .notFound) :
    (makeOne p : StateM Disk _) d =
      (if d.isDirectory p then .ok () else .error e, d) := by
  have hrun : (FileSystem.makeDirectory p : StateM Disk _) d = (.error e, d) := act_of_error h
  unfold makeOne
  rw [bind_run, hrun]
  cases e with
  | notFound => exact absurd rfl hne
  | _ =>
      dsimp only
      rw [bind_run]
      show (if d.isDirectory p = true then _ else _ : StateM Disk _) d = _
      split <;> rfl

/-- A directory that can be entered need not be made. -/
theorem makeOne_of_enterPath {l : Location} (h : d.enterPath p = .ok l) :
    (makeOne p : StateM Disk _) d = (.ok (), d) := by
  rcases resolve_of_enterPath h with hresolve | ⟨hresolve, hdirectory⟩
  · have hexists : d.makeDirectory p = .error .alreadyExists := by
      rw [makeDirectory, hresolve]
      rfl
    have hthere : d.isDirectory p = true := by rw [isDirectory, hresolve]
    rw [makeOne_of_error hexists (by simp), if_pos hthere]
  · have hexists : d.makeDirectory p = .error .alreadyExists := by
      rw [makeDirectory, hresolve]
      simp [hdirectory]
    have hthere : d.isDirectory p = true := by
      rw [isDirectory, hresolve]
      simp [hdirectory]
    rw [makeOne_of_error hexists (by simp), if_pos hthere]

end One

/-! ## All directories on the way -/

/-- **The directory of a path can be made**: the system takes the path, and no plain file stands on
the way. -/
def Makeable (d : Disk) (p : Path) : Prop :=
  p.hasNull = false ∧ ∀ q ∈ d.way p, ∀ bytes, d.get? q ≠ some (.file bytes)

/-- **Whether a place is a directory** once the directory of a path is made. -/
def BecomesDirectory (d : Disk) (p : Path) (l : Location) : Prop :=
  l ∈ d.way p ∨ d.get? l = some .directory

instance (d : Disk) (p : Path) (l : Location) : Decidable (d.BecomesDirectory p l) :=
  inferInstanceAs (Decidable (l ∈ d.way p ∨ d.get? l = some .directory))

/-- Without anything missing on a makeable way, the directory is there. -/
theorem Makeable.enterPath {d : Disk} {p : Path} (h : d.Makeable p)
    (hpresent : ¬ ∃ q ∈ d.way p, d.get? q = none) :
    d.enterPath p = .ok (d.destination p) := by
  rw [enterPath_eq_ok_iff]
  refine ⟨⟨h.1, fun q mem => ?_⟩, rfl⟩
  cases hq : d.get? q with
  | none => exact absurd ⟨q, mem, hq⟩ hpresent
  | some entry =>
      cases entry with
      | file bytes => exact absurd hq (h.2 q mem bytes)
      | directory => rfl

/-- **What making a directory does**, with its outcome. -/
structure MadeWay (d : Disk) (p : Path) (outcome : Except FileError Unit) (d' : Disk) : Prop where
  /-- Only places on the way change at which nothing was. -/
  changes : ChangesWithin {l | l ∈ d.way p ∧ d.get? l = none} d d'
  /-- What changes becomes a directory. -/
  made : ∀ l, d'.get? l ≠ d.get? l → d'.get? l = some .directory
  /-- It succeeds exactly if that can be foreseen. -/
  succeeds : outcome = .ok () ↔ d.Makeable p
  /-- After a success, one can follow the path. -/
  enters : outcome = .ok () → d'.enterPath p = .ok (d.destination p)
  /-- It is the system that fails, if it takes the path. -/
  fails : ∀ e, outcome = .error e → e.ofSystem = !p.hasNull

/-- **A new directory on the way** to a path: nothing was there, and a directory is. -/
structure NewDirectory (d : Disk) (p : Path) (d' : Disk) (l : Location) : Prop where
  onWay : l ∈ d.way p
  missing : d.get? l = none
  made : d'.get? l = some .directory

namespace MadeWay

variable {d d' d'' : Disk} {p q : Path} {outcome outcome' : Except FileError Unit}

/-- A place was missing if it is missing afterwards, as making never removes anything. -/
theorem get?_eq_none (h : MadeWay d p outcome d') {l : Location} (hl : d'.get? l = none) :
    d.get? l = none := by
  by_contra hne
  have heq : d'.get? l = d.get? l := h.changes.get? l fun mem => hne mem.2
  exact hne (heq ▸ hl)

/-- Plain files stay, and no others come. -/
theorem get?_eq_file_iff (h : MadeWay d p outcome d') {l : Location} {bytes : List UInt8} :
    d'.get? l = some (.file bytes) ↔ d.get? l = some (.file bytes) := by
  constructor
  · intro hfile
    by_contra hne
    have hdirectory : d'.get? l = some .directory := h.made l (by rw [hfile]; exact Ne.symm hne)
    rw [hfile] at hdirectory
    cases hdirectory
  · intro hfile
    have hpresent : l ∉ {l | l ∈ d.way p ∧ d.get? l = none} := by
      rintro ⟨-, hnone⟩
      rw [hfile] at hnone
      cases hnone
    rw [h.changes.get? l hpresent, hfile]

/-- After a success all places on the way are directories. -/
theorem get?_of_mem_way (h : MadeWay d p (.ok ()) d') {l : Location} (mem : l ∈ d.way p) :
    d'.get? l = some .directory := by
  have hway := (enterPath_eq_ok_iff.1 (h.enters rfl)).1.2
  rw [h.changes.way p] at hway
  exact hway l mem

theorem get?_of_notMem_way (h : MadeWay d p outcome d') {l : Location} (notMem : l ∉ d.way p) :
    d'.get? l = d.get? l :=
  h.changes.get? l fun mem => notMem mem.1

theorem get?_eq_directory_iff (h : MadeWay d p (.ok ()) d') {l : Location} :
    d'.get? l = some .directory ↔ l ∈ d.way p ∨ d.get? l = some .directory := by
  by_cases mem : l ∈ d.way p
  · simp [mem, h.get?_of_mem_way mem]
  · simp [mem, h.get?_of_notMem_way mem]

/-- **What making left at a place** was there before, or is a new directory. -/
theorem eq_or_newDirectory (h : MadeWay d p outcome d') {l : Location}
    (hl : d''.get? l = d'.get? l) : d''.get? l = d.get? l ∨ NewDirectory d p d'' l := by
  by_cases hsame : d'.get? l = d.get? l
  · exact .inl (hl.trans hsame)
  · have hmissing : l ∈ d.way p ∧ d.get? l = none := by
      by_contra notMem
      exact hsame (h.changes.get? l notMem)
    exact .inr ⟨hmissing.1, hmissing.2, hl.trans (h.made l hsame)⟩

/-- Making a directory when those above it are made. -/
theorem trans (h : MadeWay d q outcome d') (h' : MadeWay d' p outcome' d'')
    (sub : ∀ l ∈ d.way q, l ∈ d.way p) : MadeWay d p outcome' d'' := by
  have hway : d'.way p = d.way p := h.changes.way p
  refine ⟨?_, fun l hl => ?_, ?_, ?_, h'.fails⟩
  · refine (h.changes.trans h'.changes).mono ?_
    rintro l (⟨mem, hnone⟩ | ⟨mem, hnone⟩)
    · exact ⟨sub l mem, hnone⟩
    · exact ⟨hway ▸ mem, h.get?_eq_none hnone⟩
  · by_cases hlater : d''.get? l = d'.get? l
    · rw [hlater] at hl ⊢
      exact h.made l hl
    · exact h'.made l hlater
  · rw [h'.succeeds, Makeable, hway]
    simp only [ne_eq, h.get?_eq_file_iff]
    rfl
  · intro hok
    rw [h'.enters hok, h.changes.destination p]

/-- Nothing is made on a way that can be followed. -/
theorem of_enterPath {l : Location} (h : d.enterPath p = .ok l) : MadeWay d p (.ok ()) d := by
  obtain ⟨⟨hnull, hway⟩, rfl⟩ := enterPath_eq_ok_iff.1 h
  refine ⟨.refl _ d, fun l hl => absurd rfl hl, iff_of_true rfl ⟨hnull, ?_⟩, fun _ => h, nofun⟩
  intro q mem bytes hfile
  rw [hway q mem] at hfile
  cases hfile

/-- Nothing is made on a way over a plain file. -/
theorem of_file {e : FileError} {l : Location} {bytes : List UInt8} (hsystem : e.ofSystem = true)
    (hnull : p.hasNull = false) (mem : l ∈ d.way p) (hfile : d.get? l = some (.file bytes)) :
    MadeWay d p (.error e) d := by
  refine ⟨.refl _ d, fun l hl => absurd rfl hl, iff_of_false (by simp) ?_, nofun, ?_⟩
  · intro hmakeable
    exact hmakeable.2 l mem bytes hfile
  · rintro _ ⟨⟩
    rw [hsystem, hnull, Bool.not_false]

/-- Nothing is made under a path that the system does not take. -/
theorem of_hasNull (h : p.hasNull = true) : MadeWay d p (.error .nullCharacter) d := by
  refine ⟨.refl _ d, fun l hl => absurd rfl hl, iff_of_false (by simp) ?_, nofun, ?_⟩
  · intro hmakeable
    rw [hmakeable.1] at h
    cases h
  · rintro _ ⟨⟩
    rw [h]
    rfl

/-- Nothing more is made when the directories above cannot be. -/
theorem of_error {e : FileError} (h : MadeWay d q (.error e) d') (hq : q.hasNull = false)
    (hp : p.hasNull = false) (sub : ∀ l ∈ d.way q, l ∈ d.way p) : MadeWay d p (.error e) d' := by
  refine ⟨h.changes.mono fun l hl => ⟨sub l hl.1, hl.2⟩, h.made, iff_of_false (by simp) ?_, nofun,
    ?_⟩
  · intro hmakeable
    have hok : (Except.error e : Except FileError Unit) = .ok () :=
      h.succeeds.2 ⟨hq, fun q mem => hmakeable.2 q (sub q mem)⟩
    cases hok
  · intro e' heq
    rw [hp, ← hq]
    exact h.fails e' heq

end MadeWay

/-! ## The last part -/

section Last

variable {d : Disk} {root : String} {parts : List String} {last : String}

/-- The way of a path with a last part that leads down ends at that part. -/
theorem way_concat_down (hdown : last ≠ "..") :
    d.way ⟨root, parts ++ [last]⟩ =
      d.way ⟨root, parts⟩ ++ [d.destination ⟨root, parts⟩ ++ [last]] := by
  show trail _ (parts ++ [last]) = _
  rw [trail_append, trail, if_neg hdown]
  rfl

theorem destination_concat_down (hdown : last ≠ "..") :
    d.destination ⟨root, parts ++ [last]⟩ = d.destination ⟨root, parts⟩ ++ [last] := by
  show walk _ (parts ++ [last]) = _
  rw [walk_append, walk, if_neg hdown]
  rfl

theorem mem_way_concat {l : Location} (mem : l ∈ d.way ⟨root, parts⟩) :
    l ∈ d.way ⟨root, parts ++ [last]⟩ := by
  show l ∈ trail _ (parts ++ [last])
  rw [trail_append]
  exact List.mem_append_left _ mem

/-- A directory at the last part is all that is missing on the way. -/
theorem madeWay_set {here : Location} (hhere : d.enterPath ⟨root, parts⟩ = .ok here)
    (hnull : Path.NullFree last) (hdown : last ≠ "..") (hplace : d.get? (here ++ [last]) = none) :
    MadeWay d ⟨root, parts ++ [last]⟩ (.ok ()) (d.set (here ++ [last]) .directory) := by
  obtain ⟨⟨hroot, hway⟩, hwalk⟩ := enterPath_eq_ok_iff.1 hhere
  have hlast : d.way ⟨root, parts ++ [last]⟩ = d.way ⟨root, parts⟩ ++ [here ++ [last]] := by
    rw [hwalk]
    exact way_concat_down hdown
  have hchange : ChangesWithin {here ++ [last]} d (d.set (here ++ [last]) .directory) :=
    changesWithin_set (by simp [hplace]) .directory
  refine ⟨?_, fun l hl => ?_, ?_, fun _ => ?_, nofun⟩
  · refine hchange.mono ?_
    rintro l rfl
    exact ⟨by simp [hlast], hplace⟩
  · by_cases heq : l = here ++ [last]
    · rw [heq, get?_set_self d (by simp)]
    · exact absurd (get?_set_of_ne d heq _) hl
  · refine iff_of_true rfl ⟨Path.hasNull_concat_iff.2 ⟨hroot, hnull⟩, fun q mem bytes hfile => ?_⟩
    rw [hlast] at mem
    rcases List.mem_append.1 mem with mem | mem
    · rw [hway q mem] at hfile
      cases hfile
    · obtain rfl := List.mem_singleton.1 mem
      rw [hplace] at hfile
      cases hfile
  · rw [enterPath_concat _ _ _ hnull, hchange.enter hhere, ok_bind, enter, if_neg hdown,
      get?_set_self d (by simp), destination_concat_down hdown, ← hwalk]
    rfl

/-- **Making the last directory** when those above it are there. -/
theorem madeWay_makeOne {here : Location} (hhere : d.enterPath ⟨root, parts⟩ = .ok here)
    (hnull : Path.NullFree last) :
    ∃ outcome d', (makeOne ⟨root, parts ++ [last]⟩ : StateM Disk _) d = (outcome, d') ∧
      outcome ≠ .error .notFound ∧ MadeWay d ⟨root, parts ++ [last]⟩ outcome d' := by
  obtain ⟨⟨hroot, -⟩, hwalk⟩ := enterPath_eq_ok_iff.1 hhere
  have hwhole := Path.hasNull_concat_iff.2 ⟨hroot, hnull⟩
  have hconcat := d.enterPath_concat root parts hnull
  rw [hhere, ok_bind, enter] at hconcat
  by_cases hup : last = ".."
  · rw [if_pos hup] at hconcat
    exact ⟨_, _, makeOne_of_enterPath hconcat, by simp, .of_enterPath hconcat⟩
  rw [if_neg hup] at hconcat
  have hresolve : d.resolve ⟨root, parts ++ [last]⟩ = .ok (.name (here ++ [last])) := by
    rw [d.resolve_concat root parts hnull, if_neg hup, hhere]
    rfl
  have hlast : d.way ⟨root, parts ++ [last]⟩ = d.way ⟨root, parts⟩ ++ [here ++ [last]] := by
    rw [hwalk]
    exact way_concat_down hup
  cases hplace : d.get? (here ++ [last]) with
  | none =>
      have hmake : d.makeDirectory ⟨root, parts ++ [last]⟩ =
          .ok (d.set (here ++ [last]) .directory) := by
        rw [makeDirectory, hresolve]
        simp [hplace]
      exact ⟨_, _, makeOne_of_ok hmake, by simp, madeWay_set hhere hnull hup hplace⟩
  | some entry =>
      rw [hplace] at hconcat
      cases entry with
      | directory => exact ⟨_, _, makeOne_of_enterPath hconcat, by simp, .of_enterPath hconcat⟩
      | file bytes =>
          have hexists : d.makeDirectory ⟨root, parts ++ [last]⟩ = .error .alreadyExists := by
            rw [makeDirectory, hresolve]
            simp [hplace]
          have hthere : d.isDirectory ⟨root, parts ++ [last]⟩ = false := by
            rw [isDirectory, hresolve]
            simp [hplace]
          refine ⟨.error .alreadyExists, d, ?_, by simp,
            .of_file rfl hwhole (by simp [hlast]) hplace⟩
          rw [makeOne_of_error hexists (by simp), hthere]
          rfl

end Last

/-! ## From the last part to the first -/

section Above

variable {d d' : Disk} {root : String} {last : String} {above : List String}
  {outcome : Except FileError Unit}

/-- What is not missing anything, is settled at the first try. -/
theorem makeAbove_of_found
    (hrun : (makeOne ⟨root, above.reverse ++ [last]⟩ : StateM Disk _) d = (outcome, d'))
    (hfound : outcome ≠ .error .notFound) :
    (makeAbove root (last :: above) : StateM Disk _) d = (outcome, d') := by
  unfold makeAbove
  rw [bind_run, List.reverse_cons, hrun]
  cases outcome with
  | ok => rfl
  | error e =>
      cases e with
      | notFound => exact absurd rfl hfound
      | _ => rfl

/-- Otherwise the directories above come first, and then a second try. -/
theorem makeAbove_of_notFound {d'' : Disk}
    (hrun : (makeOne ⟨root, above.reverse ++ [last]⟩ : StateM Disk _) d = (.error .notFound, d'))
    (habove : (makeAbove root above : StateM Disk _) d' = (.ok (), d'')) :
    (makeAbove root (last :: above) : StateM Disk _) d =
      (makeOne ⟨root, above.reverse ++ [last]⟩ : StateM Disk _) d'' := by
  unfold makeAbove
  rw [bind_run, List.reverse_cons, hrun]
  dsimp only
  rw [bind_run, habove]

/-- There is no second try if those above cannot be made. -/
theorem makeAbove_of_error {d'' : Disk} {e : FileError}
    (hrun : (makeOne ⟨root, above.reverse ++ [last]⟩ : StateM Disk _) d = (.error .notFound, d'))
    (habove : (makeAbove root above : StateM Disk _) d' = (.error e, d'')) :
    (makeAbove root (last :: above) : StateM Disk _) d = (.error e, d'') := by
  unfold makeAbove
  rw [bind_run, List.reverse_cons, hrun]
  dsimp only
  rw [bind_run, habove]
  rfl

end Above

/-- A directory below a way that cannot be followed fails as that does. -/
theorem makeOne_of_enterPath_error {d : Disk} {root : String} {parts : List String} {e : FileError}
    (h : d.enterPath ⟨root, parts⟩ = .error e) {last : String} (hnull : Path.NullFree last) :
    (makeOne ⟨root, parts ++ [last]⟩ : StateM Disk _) d = (.error e, d) := by
  have hresolve := resolve_concat_of_error h hnull
  have hmake : d.makeDirectory ⟨root, parts ++ [last]⟩ = .error e := by
    rw [makeDirectory, hresolve]
    rfl
  by_cases hnotFound : e = .notFound
  · subst hnotFound
    exact makeOne_of_notFound hmake
  · have hthere : d.isDirectory ⟨root, parts ++ [last]⟩ = false := by rw [isDirectory, hresolve]
    rw [makeOne_of_error hmake hnotFound, hthere]
    rfl

/-- **Making a directory** with all that are missing above it, from every disk. -/
theorem madeWay_makeAbove (root : String) (reversed : List String)
    (hnull : Path.hasNull ⟨root, reversed.reverse⟩ = false) (d : Disk) :
    ∃ outcome d', (makeAbove root reversed : StateM Disk _) d = (outcome, d') ∧
      MadeWay d ⟨root, reversed.reverse⟩ outcome d' := by
  induction reversed generalizing d with
  | nil =>
      have hroot : d.enterPath ⟨root, []⟩ = .ok (d.start ⟨root, []⟩) := rfl
      exact ⟨_, _, makeOne_of_enterPath hroot, .of_enterPath hroot⟩
  | cons last above ih =>
      rw [List.reverse_cons] at hnull ⊢
      obtain ⟨habove, hlast⟩ := Path.hasNull_concat_iff.1 hnull
      cases hhere : d.enterPath ⟨root, above.reverse⟩ with
      | ok here =>
          obtain ⟨outcome, d', hrun, hfound, hmade⟩ := madeWay_makeOne hhere hlast
          exact ⟨outcome, d', makeAbove_of_found hrun hfound, hmade⟩
      | error e =>
          have hfirst := makeOne_of_enterPath_error hhere hlast
          rw [enterPath, if_neg (by simp [habove])] at hhere
          rcases enter_error hhere with ⟨rfl, q, mem, bytes, hfile⟩ | ⟨rfl, -⟩
          · exact ⟨_, d, makeAbove_of_found hfirst (by simp),
              .of_file rfl hnull (mem_way_concat mem) hfile⟩
          -- Something is missing: those above are made first, and then the last one.
          · obtain ⟨outcome, d', hrun, hmade⟩ := ih habove d
            cases outcome with
            | ok =>
                obtain ⟨outcome, d'', hrun', -, hmade'⟩ :=
                  madeWay_makeOne (hmade.enters rfl) hlast
                exact ⟨outcome, d'', (makeAbove_of_notFound hfirst hrun).trans hrun',
                  hmade.trans hmade' fun l => mem_way_concat⟩
            | error e =>
                exact ⟨_, d', makeAbove_of_error hfirst hrun,
                  hmade.of_error habove hnull fun l => mem_way_concat⟩

/-- A path that the system does not take is given up at once. -/
theorem makeDirectories_of_hasNull {p : Path} (h : p.hasNull = true) (d : Disk) :
    (makeDirectories p : StateM Disk _) d = (.error .nullCharacter, d) := by
  have hresolve := resolve_of_hasNull h d
  have hmake : d.makeDirectory p = .error .nullCharacter := by
    rw [makeDirectory, hresolve]
    rfl
  have hthere : d.isDirectory p = false := by rw [isDirectory, hresolve]
  have hone : (makeOne p : StateM Disk _) d = (.error .nullCharacter, d) := by
    rw [makeOne_of_error hmake (by simp), hthere]
    rfl
  obtain ⟨root, parts⟩ := p
  rcases List.eq_nil_or_concat parts with rfl | ⟨parts, last, rfl⟩
  · cases h
  · rw [List.concat_eq_append] at hone ⊢
    rw [makeDirectories]
    simp only [List.reverse_append, List.reverse_singleton, List.singleton_append]
    exact makeAbove_of_found (by rwa [List.reverse_reverse]) (by simp)

/-- **Making the directory of a path**, from every disk. -/
theorem madeWay_makeDirectories (p : Path) (d : Disk) :
    ∃ outcome d', (makeDirectories p : StateM Disk _) d = (outcome, d') ∧
      MadeWay d p outcome d' := by
  cases hnull : p.hasNull with
  | true => exact ⟨_, d, makeDirectories_of_hasNull hnull d, .of_hasNull hnull⟩
  | false =>
      obtain ⟨outcome, d', hrun, hmade⟩ :=
        madeWay_makeAbove p.root p.parts.reverse (by rwa [List.reverse_reverse]) d
      rw [List.reverse_reverse] at hmade
      exact ⟨outcome, d', hrun, hmade⟩

end Disk

end ScriptBindings
