import ScriptBindings.Proofs.Files.Directories

/-!
# What a publication does

Files with single, distinct names are published in a directory.  Once the directory is there, only a
directory at one of their places can stand in the way, or a file that cannot be written at all, and
this file says what is left in each case.

* `Publishable` — the lists of files that are considered.
* `Buffer.Writable` — a file with a name that the system takes and a text that can be encoded.
* `Disk.Publication` — how a publication ends in a directory: a staging place is taken, a file
  cannot be written, a final place is taken, or all files are published.
* `publication_publish` — it ends in one of these ways from every disk.

Staging, renaming and cleaning go through the files in order, and each of them handles the files up
to the first obstacle in the same way, whatever comes after (`exists_stage`, `exists_renameAll`,
`exists_cleanUp`).
-/

namespace ScriptBindings

open Traversal

variable {τ : Type}

/-! ## Files to publish -/

/-- The hidden name under which a file is staged. -/
def Buffer.stagingName (b : Buffer τ) : String :=
  "." ++ b.fileName ++ ".tmp"

/-- What a published file holds. -/
def Buffer.contents [Append τ] [Textual τ] (b : Buffer τ) : Entry :=
  .file (Textual.written b.text)

/-- **A file that can be written**: the system takes its name, and its text can be encoded. -/
structure Buffer.Writable [Append τ] [Textual τ] (b : Buffer τ) : Prop where
  nullFree : Path.NullFree b.fileName
  encodable : Textual.unencodable? b.text = none

instance [Append τ] [Textual τ] (b : Buffer τ) : Decidable b.Writable :=
  decidable_of_iff (Path.NullFree b.fileName ∧ Textual.unencodable? b.text = none)
    ⟨fun ⟨nullFree, encodable⟩ => ⟨nullFree, encodable⟩, fun h => ⟨h.nullFree, h.encodable⟩⟩

/-- **Files that can be published together**: their names are single and distinct, and none is the
hidden name of another. -/
structure Publishable (bs : List (Buffer τ)) : Prop where
  component : ∀ b ∈ bs, Path.IsComponent b.fileName
  distinct : bs.Pairwise fun a b => a.fileName ≠ b.fileName
  apart : ∀ a ∈ bs, ∀ b ∈ bs, a.fileName ≠ b.stagingName

instance (bs : List (Buffer τ)) : Decidable (Publishable bs) :=
  decidable_of_iff
    ((∀ b ∈ bs, Path.IsComponent b.fileName) ∧ (bs.Pairwise fun a b => a.fileName ≠ b.fileName) ∧
      ∀ a ∈ bs, ∀ b ∈ bs, a.fileName ≠ b.stagingName)
    ⟨fun ⟨component, distinct, apart⟩ => ⟨component, distinct, apart⟩,
      fun h => ⟨h.component, h.distinct, h.apart⟩⟩

namespace Publishable

variable {b : Buffer τ} {bs before after : List (Buffer τ)}

theorem sublist (h : Publishable bs) (sub : before.Sublist bs) : Publishable before where
  component a mem := h.component a (sub.subset mem)
  distinct := h.distinct.sublist sub
  apart a mem a' mem' := h.apart a (sub.subset mem) a' (sub.subset mem')

theorem tail (h : Publishable (b :: bs)) : Publishable bs :=
  h.sublist (List.sublist_cons_self b bs)

theorem ne_head (h : Publishable (b :: bs)) : ∀ a ∈ bs, b.fileName ≠ a.fileName :=
  (List.pairwise_cons.1 h.distinct).1

end Publishable

theorem stagingName_injective {a b : Buffer τ} (h : a.stagingName = b.stagingName) :
    a.fileName = b.fileName := by
  have hlist := congrArg String.toList h
  simp only [Buffer.stagingName, String.toList_append, List.append_cancel_right_eq,
    List.append_cancel_left_eq] at hlist
  exact String.toList_inj.1 hlist

/-- A hidden name is five characters longer. -/
theorem length_stagingName (b : Buffer τ) : b.stagingName.length = b.fileName.length + 5 := by
  have hfixed : ".".length + ".tmp".length = 5 := by decide
  rw [Buffer.stagingName, String.length_append, String.length_append]
  omega

/-- Hidden names are single names. -/
theorem Path.IsComponent.stagingName {b : Buffer τ} (h : IsComponent b.fileName) :
    IsComponent b.stagingName := by
  have hne (s : String) (hs : s.length < 5) : b.stagingName ≠ s := by
    rintro rfl
    rw [length_stagingName] at hs
    omega
  refine ⟨hne "" (by decide), hne "." (by decide), hne ".." (by decide), ?_⟩
  simp only [Buffer.stagingName, String.toList_append, List.mem_append]
  rintro ((mem | mem) | mem)
  · revert mem
    decide
  · exact h.slash_notMem mem
  · revert mem
    decide

/-- The system takes a hidden name exactly if it takes the name. -/
theorem nullFree_stagingName_iff {b : Buffer τ} :
    Path.NullFree b.stagingName ↔ Path.NullFree b.fileName := by
  have hfixed : '\x00' ∉ ".".toList ∧ '\x00' ∉ ".tmp".toList := by decide
  simp only [Path.NullFree, Buffer.stagingName, String.toList_append, List.mem_append, hfixed.1,
    hfixed.2, false_or, or_false]

/-! ## Operations on a name in a directory -/

namespace Disk

open Location

section Child

variable {d : Disk} {directory : Path} {here : Location} {name : String}

theorem writeFile_child (hname : Path.IsComponent name) (hnull : Path.NullFree name)
    (hhere : d.enterPath directory = .ok here)
    (hfree : d.get? (here ++ [name]) ≠ some .directory) (bytes : List UInt8) :
    d.writeFile (directory.child name) bytes = .ok (d.set (here ++ [name]) (.file bytes)) := by
  unfold writeFile
  rw [d.resolve_child directory hname hnull, hhere]
  cases hplace : d.get? (here ++ [name]) with
  | none => simp [hplace]
  | some entry =>
      cases entry with
      | file bytes => simp [hplace]
      | directory => exact absurd hplace hfree

theorem writeFile_child_of_directory (hname : Path.IsComponent name)
    (hnull : Path.NullFree name) (hhere : d.enterPath directory = .ok here)
    (htaken : d.get? (here ++ [name]) = some .directory) (bytes : List UInt8) :
    d.writeFile (directory.child name) bytes = .error .isDirectory := by
  unfold writeFile
  rw [d.resolve_child directory hname hnull, hhere]
  simp [htaken]

theorem removeFile_child (hname : Path.IsComponent name) (hnull : Path.NullFree name)
    (hhere : d.enterPath directory = .ok here)
    {bytes : List UInt8} (hfile : d.get? (here ++ [name]) = some (.file bytes)) :
    d.removeFile (directory.child name) = .ok (d.erase (here ++ [name])) := by
  unfold removeFile
  rw [d.resolve_child directory hname hnull, hhere]
  simp [hfile]

theorem removeFile_child_of_none (hname : Path.IsComponent name) (hnull : Path.NullFree name)
    (hhere : d.enterPath directory = .ok here) (hnone : d.get? (here ++ [name]) = none) :
    d.removeFile (directory.child name) = .error .notFound := by
  unfold removeFile
  rw [d.resolve_child directory hname hnull, hhere]
  simp [hnone]

theorem removeFile_child_of_directory (hname : Path.IsComponent name)
    (hnull : Path.NullFree name) (hhere : d.enterPath directory = .ok here)
    (htaken : d.get? (here ++ [name]) = some .directory) :
    d.removeFile (directory.child name) = .error .isDirectory := by
  unfold removeFile
  rw [d.resolve_child directory hname hnull, hhere]
  simp [htaken]

/-- **Renaming within a directory** fails only if the new name is that of a directory. -/
theorem renameFile_child {old new : String} (hold : Path.IsComponent old)
    (holdNull : Path.NullFree old) (hnew : Path.IsComponent new) (hnewNull : Path.NullFree new)
    (hhere : d.enterPath directory = .ok here)
    {bytes : List UInt8} (hfile : d.get? (here ++ [old]) = some (.file bytes)) :
    d.renameFile (directory.child old) (directory.child new) =
      if d.get? (here ++ [new]) = some .directory then .error .isDirectory
      else .ok ((d.erase (here ++ [old])).set (here ++ [new]) (.file bytes)) := by
  unfold renameFile
  rw [d.resolve_child directory hold holdNull, d.resolve_child directory hnew hnewNull, hhere]
  simp [hfile]

/-- **Removing** a name at which no directory is, leaves nothing there; that nothing was there is
the only failure. -/
theorem exists_removeFile (hname : Path.IsComponent name) (hnull : Path.NullFree name)
    (hhere : d.enterPath directory = .ok here)
    (hfree : d.get? (here ++ [name]) ≠ some .directory) :
    ∃ d' outcome, act (·.removeFile (directory.child name)) d = (outcome, d') ∧
      (outcome = .ok () ∨ outcome = .error .notFound) ∧ ChangesWithin {here ++ [name]} d d' ∧
      d'.get? (here ++ [name]) = none := by
  cases hplace : d.get? (here ++ [name]) with
  | none =>
      have hremove := removeFile_child_of_none hname hnull hhere hplace
      exact ⟨d, _, act_of_error hremove, .inr rfl, .refl _ d, hplace⟩
  | some entry =>
      cases entry with
      | file bytes =>
          have hremove := removeFile_child hname hnull hhere hplace
          exact ⟨_, _, act_of_ok hremove, .inl rfl, changesWithin_erase hfree,
            get?_erase_self d (by simp)⟩
      | directory => exact absurd hplace hfree

/-- A name that the system does not take cannot be written to. -/
theorem writeFile_child_of_not_nullFree (hname : Path.IsComponent name)
    (hnull : ¬ Path.NullFree name) (bytes : List UInt8) :
    d.writeFile (directory.child name) bytes = .error .nullCharacter := by
  unfold writeFile
  rw [d.resolve_child_of_not_nullFree directory hname hnull]
  rfl

end Child

/-- A renaming changes two places. -/
theorem changesWithin_rename {d : Disk} {source target : Location}
    (htarget : d.get? target ≠ some .directory) (hsource : d.get? source ≠ some .directory)
    (entry : Entry) :
    ChangesWithin ({source} ∪ {target}) d ((d.erase source).set target entry) := by
  have herase : ChangesWithin {source} d (d.erase source) := changesWithin_erase hsource
  refine herase.trans (changesWithin_set ?_ entry)
  by_cases heq : target = source
  · subst heq
    have hroot : target ≠ [] := by
      rintro rfl
      exact hsource rfl
    simp [get?_erase_self d hroot]
  · rwa [get?_erase_of_ne d heq]

/-- **Renaming** to a name at which no directory is, moves the file there. -/
theorem exists_renameFile {d : Disk} {directory : Path} {here : Location} {old new : String}
    (hold : Path.IsComponent old) (holdNull : Path.NullFree old) (hnew : Path.IsComponent new)
    (hnewNull : Path.NullFree new) (hne : old ≠ new)
    (hhere : d.enterPath directory = .ok here) {bytes : List UInt8}
    (hfile : d.get? (here ++ [old]) = some (.file bytes))
    (hfree : d.get? (here ++ [new]) ≠ some .directory) :
    ∃ d', act (·.renameFile (directory.child old) (directory.child new)) d = (.ok (), d') ∧
      ChangesWithin ({here ++ [old]} ∪ {here ++ [new]}) d d' ∧
      d'.get? (here ++ [new]) = some (.file bytes) ∧ d'.get? (here ++ [old]) = none := by
  have hrename := renameFile_child hold holdNull hnew hnewNull hhere hfile
  rw [if_neg hfree] at hrename
  have hsource : d.get? (here ++ [old]) ≠ some .directory := by simp [hfile]
  refine ⟨_, act_of_ok hrename, changesWithin_rename hfree hsource _, ?_, ?_⟩
  · exact get?_set_self _ (by simp) _
  · have hplace : here ++ [old] ≠ here ++ [new] := by simpa using hne
    rw [get?_set_of_ne _ hplace, get?_erase_self d (by simp)]

/-! ## The three loops -/

/-- The staging places of files. -/
def stagingPlaces (here : Location) (bs : List (Buffer τ)) : Set Location :=
  {l | ∃ b ∈ bs, l = here ++ [b.stagingName]}

/-- The final places of files. -/
def finalPlaces (here : Location) (bs : List (Buffer τ)) : Set Location :=
  {l | ∃ b ∈ bs, l = here ++ [b.fileName]}

theorem stagingPlaces_cons {here : Location} {b : Buffer τ} {bs : List (Buffer τ)} :
    {here ++ [b.stagingName]} ∪ stagingPlaces here bs ⊆ stagingPlaces here (b :: bs) := by
  rintro l (rfl | ⟨a, mem, rfl⟩)
  · exact ⟨b, by simp, rfl⟩
  · exact ⟨a, by simp [mem], rfl⟩

/-- A staging place is no place of other files. -/
theorem staging_notMem_of_ne {b : Buffer τ} {bs : List (Buffer τ)} (here : Location)
    (hne : ∀ a ∈ bs, a.fileName ≠ b.fileName) (hapart : ∀ a ∈ bs, a.fileName ≠ b.stagingName) :
    here ++ [b.stagingName] ∉ stagingPlaces here bs ∪ finalPlaces here bs := by
  rintro (⟨a, mem, heq⟩ | ⟨a, mem, heq⟩)
  · exact hne a mem (stagingName_injective (by simpa using heq.symm))
  · exact hapart a mem (by simpa using heq.symm)

theorem staging_notMem {b : Buffer τ} {bs : List (Buffer τ)} (h : Publishable (b :: bs))
    (here : Location) : here ++ [b.stagingName] ∉ stagingPlaces here bs ∪ finalPlaces here bs :=
  staging_notMem_of_ne here (fun a mem => (h.ne_head a mem).symm)
    fun a mem => h.apart a (by simp [mem]) b (by simp)

/-- A final place is no staging place. -/
theorem final_notMem_stagingPlaces {b : Buffer τ} {bs : List (Buffer τ)} (h : Publishable bs)
    (mem : b ∈ bs) (here : Location) : here ++ [b.fileName] ∉ stagingPlaces here bs := by
  rintro ⟨a, mem', heq⟩
  exact h.apart b mem a mem' (by simpa using heq)

theorem final_notMem {b : Buffer τ} {bs : List (Buffer τ)} (h : Publishable (b :: bs))
    (here : Location) :
    here ++ [b.fileName] ∉ stagingPlaces here bs ∪ finalPlaces here bs := by
  rintro (⟨a, mem, heq⟩ | ⟨a, mem, heq⟩)
  · exact h.apart b (by simp) a (by simp [mem]) (by simpa using heq)
  · exact h.ne_head a mem (by simpa using heq)

/-- In a directory that is there, a final path leads to its place. -/
theorem at?_finalPath_of_enterPath {bs : List (Buffer τ)} (hbs : Publishable bs) {b : Buffer τ}
    (mem : b ∈ bs) (hnull : Path.NullFree b.fileName) {d : Disk} {directory : Path}
    {here : Location} (hhere : d.enterPath directory = .ok here) :
    d.at? (finalPath directory b) = d.get? (here ++ [b.fileName]) :=
  at?_child_of_enterPath (hbs.component b mem) hnull hhere

/-- A staging path leads to its place too. -/
theorem at?_stagingPath_of_enterPath {bs : List (Buffer τ)} (hbs : Publishable bs) {b : Buffer τ}
    (mem : b ∈ bs) (hnull : Path.NullFree b.fileName) {d : Disk} {directory : Path}
    {here : Location} (hhere : d.enterPath directory = .ok here) :
    d.at? (stagingPath directory b) = d.get? (here ++ [b.stagingName]) :=
  at?_child_of_enterPath (hbs.component b mem).stagingName (nullFree_stagingName_iff.2 hnull) hhere

section Loops

variable {directory : Path} {here : Location}

/-- **Removing up to an obstacle.**  Staged files, and those that are missing already, are gone
afterwards, and removing goes on with the paths after theirs. -/
theorem exists_cleanUp {bs : List (Buffer τ)} (hbs : Publishable bs) {d : Disk}
    (hhere : d.enterPath directory = .ok here) (hnull : ∀ b ∈ bs, Path.NullFree b.fileName)
    (hfree : ∀ b ∈ bs, d.get? (here ++ [b.stagingName]) ≠ some .directory) :
    ∃ d', ChangesWithin (stagingPlaces here bs) d d' ∧
      (∀ b ∈ bs, d'.get? (here ++ [b.stagingName]) = none) ∧
      ∀ rest, (cleanUp (bs.map (stagingPath directory) ++ rest) : StateM Disk _) d =
        (cleanUp rest : StateM Disk _) d' := by
  induction bs generalizing d with
  | nil => exact ⟨d, .refl _ d, by simp, fun _ => rfl⟩
  | cons b bs ih =>
      have hb : Path.IsComponent b.fileName := hbs.component b (by simp)
      obtain ⟨d₁, outcome, hrun, hok, hchange, hnone⟩ :=
        exists_removeFile hb.stagingName (nullFree_stagingName_iff.2 (hnull b (by simp))) hhere
          (hfree b (by simp))
      have hfree' : ∀ a ∈ bs, d₁.get? (here ++ [a.stagingName]) ≠ some .directory := by
        intro a mem
        have notMem : here ++ [a.stagingName] ∉ ({here ++ [b.stagingName]} : Set Location) := by
          intro heq
          exact staging_notMem hbs here (.inl ⟨a, mem, heq.symm⟩)
        rw [hchange.get? _ notMem]
        exact hfree a (by simp [mem])
      obtain ⟨d', hchanges, hgone, hrest⟩ := ih hbs.tail (hchange.enter hhere)
        (fun a mem => hnull a (by simp [mem])) hfree'
      refine ⟨d', (hchange.trans hchanges).mono stagingPlaces_cons, ?_, fun rest => ?_⟩
      · intro a mem
        rcases List.mem_cons.1 mem with rfl | mem
        · have notMem : here ++ [a.stagingName] ∉ stagingPlaces here bs :=
            fun mem => staging_notMem hbs here (.inl mem)
          rw [hchanges.get? _ notMem, hnone]
        · exact hgone a mem
      · have hstep : (FileSystem.removeFile (stagingPath directory b) : StateM Disk _) d =
            (outcome, d₁) := hrun
        rw [List.map_cons, List.cons_append, cleanUp, bind_run, hstep]
        rcases hok with rfl | rfl
        · exact hrest rest
        · exact hrest rest

variable [Append τ] [Textual τ]

/-- A text whose file cannot be written is not looked at. -/
theorem writeText_of_error {p : Path} {text : τ} {d : Disk} {e : FileError}
    (h : d.writeFile p (Textual.written text) = .error e) :
    (writeText p text : StateM Disk _) d = (.error e, d) := by
  have hrun : (FileSystem.writeFile p (Textual.written text) : StateM Disk _) d = (.error e, d) :=
    act_of_error h
  unfold writeText
  rw [bind_run, hrun]
  rfl

/-- What is wrong with a text comes out once its file is there. -/
theorem writeText_of_ok {p : Path} {text : τ} {d d' : Disk}
    (h : d.writeFile p (Textual.written text) = .ok d') :
    (writeText p text : StateM Disk _) d =
      ((Textual.unencodable? text).elim (.ok ()) (.error <| .unencodable ·), d') := by
  have hrun : (FileSystem.writeFile p (Textual.written text) : StateM Disk _) d = (.ok (), d') :=
    act_of_ok h
  unfold writeText
  rw [bind_run, hrun]
  cases Textual.unencodable? text <;> rfl

/-- **A file that can be written** gets to a staging place that is free. -/
theorem writeText_stagingPath {b : Buffer τ} (hb : Path.IsComponent b.fileName)
    (hwritable : b.Writable) {d : Disk} (hhere : d.enterPath directory = .ok here)
    (hfree : d.get? (here ++ [b.stagingName]) ≠ some .directory) :
    (writeText (stagingPath directory b) b.text : StateM Disk _) d =
      (.ok (), d.set (here ++ [b.stagingName]) b.contents) := by
  rw [stagingPath, ← Buffer.stagingName, writeText_of_ok (writeFile_child hb.stagingName
    (nullFree_stagingName_iff.2 hwritable.nullFree) hhere hfree _), hwritable.encodable]
  rfl

/-- **Staging up to an obstacle.**  Files that can be written and whose staging places are free get
there, and staging goes on with the files after them. -/
theorem exists_stage {bs : List (Buffer τ)} (hbs : Publishable bs) {d : Disk}
    (hhere : d.enterPath directory = .ok here) (hwritable : ∀ b ∈ bs, b.Writable)
    (hfree : ∀ b ∈ bs, d.get? (here ++ [b.stagingName]) ≠ some .directory) :
    ∃ d', ChangesWithin (stagingPlaces here bs) d d' ∧
      (∀ b ∈ bs, d'.get? (here ++ [b.stagingName]) = some b.contents) ∧
      ∀ rest tried outcome d'',
        (stage directory rest : StateM Disk _) d' = ((tried, outcome), d'') →
        (stage directory (bs ++ rest) : StateM Disk _) d =
          ((bs.map (stagingPath directory) ++ tried, outcome), d'') := by
  induction bs generalizing d with
  | nil => exact ⟨d, .refl _ d, by simp, fun _ _ _ _ h => h⟩
  | cons b bs ih =>
      have hb : Path.IsComponent b.fileName := hbs.component b (by simp)
      have hbfree : d.get? (here ++ [b.stagingName]) ≠ some .directory := hfree b (by simp)
      have hwrite := writeText_stagingPath hb (hwritable b (by simp)) hhere hbfree
      have hchange : ChangesWithin {here ++ [b.stagingName]} d
          (d.set (here ++ [b.stagingName]) b.contents) := changesWithin_set hbfree b.contents
      -- The place of another file stays free: at most it gets a plain file.
      have hfree' : ∀ a ∈ bs, (d.set (here ++ [b.stagingName]) b.contents).get?
          (here ++ [a.stagingName]) ≠ some .directory := by
        intro a mem
        rw [get?_set d (by simp)]
        split
        · simp [Buffer.contents]
        · exact hfree a (by simp [mem])
      obtain ⟨d', hchanges, hstaged, hrest⟩ := ih hbs.tail (hchange.enter hhere)
        (fun a mem => hwritable a (by simp [mem])) hfree'
      refine ⟨d', (hchange.trans hchanges).mono stagingPlaces_cons, ?_, ?_⟩
      · intro a mem
        rcases List.mem_cons.1 mem with rfl | mem
        · have notMem : here ++ [a.stagingName] ∉ stagingPlaces here bs :=
            fun mem => staging_notMem hbs here (.inl mem)
          rw [hchanges.get? _ notMem, get?_set_self d (by simp)]
        · exact hstaged a mem
      · intro rest tried outcome d'' h
        rw [List.cons_append, stage, bind_run, hwrite]
        dsimp only
        rw [bind_run, hrest rest tried outcome d'' h]
        rfl

/-- **Staging fails at the first file that does not get to its place**, with the files before it
staged. -/
theorem exists_stage_until {bs : List (Buffer τ)} (hbs : Publishable bs) {d : Disk}
    (hhere : d.enterPath directory = .ok here) {before after : List (Buffer τ)} {b : Buffer τ}
    (split : bs = before ++ b :: after) (writable : ∀ a ∈ before, a.Writable)
    (free : ∀ a ∈ before, d.get? (here ++ [a.stagingName]) ≠ some .directory) :
    ∃ d', ChangesWithin (stagingPlaces here before) d d' ∧
      (∀ a ∈ before, d'.get? (here ++ [a.stagingName]) = some a.contents) ∧
      ∀ e d'', (writeText (stagingPath directory b) b.text : StateM Disk _) d' = (.error e, d'') →
        (stage directory bs : StateM Disk _) d =
          (((before ++ [b]).map (stagingPath directory), .error e), d'') := by
  have hbefore : Publishable before :=
    hbs.sublist (split ▸ List.sublist_append_left before (b :: after))
  obtain ⟨d', hchanges, hstaged, hstage⟩ := exists_stage hbefore hhere writable free
  refine ⟨d', hchanges, hstaged, fun e d'' hwrite => ?_⟩
  have hrest : (stage directory (b :: after) : StateM Disk _) d' =
      (([stagingPath directory b], .error e), d'') := by
    rw [stage, bind_run, hwrite]
    rfl
  have hall := hstage (b :: after) _ _ _ hrest
  rw [← split] at hall
  rw [List.map_append]
  exact hall

/-- **Staging fails at a place that is taken.** -/
theorem exists_stage_of_taken {bs : List (Buffer τ)} (hbs : Publishable bs) {d : Disk}
    (hhere : d.enterPath directory = .ok here) {before after : List (Buffer τ)} {b : Buffer τ}
    (split : bs = before ++ b :: after) (writable : ∀ a ∈ before, a.Writable)
    (free : ∀ a ∈ before, d.get? (here ++ [a.stagingName]) ≠ some .directory)
    (hnull : Path.NullFree b.fileName)
    (taken : d.get? (here ++ [b.stagingName]) = some .directory) :
    ∃ d', ChangesWithin (stagingPlaces here before) d d' ∧
      (∀ a ∈ before, d'.get? (here ++ [a.stagingName]) = some a.contents) ∧
      (stage directory bs : StateM Disk _) d =
        (((before ++ [b]).map (stagingPath directory), .error .isDirectory), d') := by
  have hb : Path.IsComponent b.fileName := hbs.component b (by simp [split])
  obtain ⟨d', hchanges, hstaged, hstage⟩ := exists_stage_until hbs hhere split writable free
  refine ⟨d', hchanges, hstaged, hstage _ _ (writeText_of_error ?_)⟩
  rw [stagingPath, ← Buffer.stagingName, writeFile_child_of_directory hb.stagingName
    (nullFree_stagingName_iff.2 hnull) (hchanges.enter hhere) (hchanges.directory _ taken)]

/-- **Staging breaks off at a file that cannot be written.**  If its name is taken by the system,
the file is there all the same, but it is empty. -/
theorem exists_stage_of_not_writable {bs : List (Buffer τ)} (hbs : Publishable bs) {d : Disk}
    (hhere : d.enterPath directory = .ok here) {before after : List (Buffer τ)} {b : Buffer τ}
    (split : bs = before ++ b :: after) (writable : ∀ a ∈ before, a.Writable)
    (free : ∀ a ∈ before, d.get? (here ++ [a.stagingName]) ≠ some .directory)
    (hfree : Path.NullFree b.fileName → d.get? (here ++ [b.stagingName]) ≠ some .directory)
    (hfails : ¬ b.Writable) :
    ∃ e d', e.ofSystem = false ∧ ChangesWithin (stagingPlaces here (before ++ [b])) d d' ∧
      (∀ a ∈ before, d'.get? (here ++ [a.stagingName]) = some a.contents) ∧
      (Path.NullFree b.fileName → d'.get? (here ++ [b.stagingName]) = some (.file [])) ∧
      (stage directory bs : StateM Disk _) d =
        (((before ++ [b]).map (stagingPath directory), .error e), d') := by
  have hb : Path.IsComponent b.fileName := hbs.component b (by simp [split])
  obtain ⟨d₁, hchanges, hstaged, hstage⟩ := exists_stage_until hbs hhere split writable free
  have hsub : stagingPlaces here before ⊆ stagingPlaces here (before ++ [b]) := by
    rintro l ⟨a, mem, rfl⟩
    exact ⟨a, by simp [mem], rfl⟩
  by_cases hnull : Path.NullFree b.fileName
  -- The name is one, so it is the text that is none.
  · obtain ⟨why, hwhy⟩ : ∃ why, Textual.unencodable? b.text = some why :=
      Option.ne_none_iff_exists'.1 fun hnone => hfails ⟨hnull, hnone⟩
    have hempty : Textual.written b.text = [] := by rw [Textual.written, hwhy]
    have notMem : here ++ [b.stagingName] ∉ stagingPlaces here before := by
      rintro ⟨a, mem, heq⟩
      have hne : a.fileName ≠ b.fileName :=
        (List.pairwise_append.1 (split ▸ hbs.distinct)).2.2 a mem b (by simp)
      exact hne (stagingName_injective (by simpa using heq.symm))
    have hfree₁ : d₁.get? (here ++ [b.stagingName]) ≠ some .directory := by
      rw [hchanges.get? _ notMem]
      exact hfree hnull
    have hchange := changesWithin_set hfree₁ (.file [])
    refine ⟨.unencodable why, _, rfl, (hchanges.trans hchange).mono ?_, fun a mem => ?_,
      fun _ => get?_set_self _ (by simp) _, hstage _ _ ?_⟩
    · rintro l (hl | rfl)
      · exact hsub hl
      · exact ⟨b, by simp, rfl⟩
    · rw [hchange.get?, hstaged a mem]
      intro heq
      exact notMem ⟨a, mem, heq.symm⟩
    · rw [stagingPath, ← Buffer.stagingName, writeText_of_ok (writeFile_child hb.stagingName
        (nullFree_stagingName_iff.2 hnull) (hchanges.enter hhere) hfree₁ _), hwhy, hempty]
      rfl
  · refine ⟨.nullCharacter, d₁, rfl, hchanges.mono hsub, hstaged, fun h => absurd h hnull,
      hstage _ _ (writeText_of_error ?_)⟩
    rw [stagingPath, ← Buffer.stagingName,
      writeFile_child_of_not_nullFree hb.stagingName (by rwa [nullFree_stagingName_iff])]

/-- **Renaming up to an obstacle.**  Staged files whose final places are free get there, and
renaming goes on with the files after them. -/
theorem exists_renameAll {bs : List (Buffer τ)} (hbs : Publishable bs) {d : Disk}
    (hhere : d.enterPath directory = .ok here)
    (hnull : ∀ b ∈ bs, Path.NullFree b.fileName)
    (hstaged : ∀ b ∈ bs, d.get? (here ++ [b.stagingName]) = some b.contents)
    (hfree : ∀ b ∈ bs, d.get? (here ++ [b.fileName]) ≠ some .directory) :
    ∃ d', ChangesWithin (stagingPlaces here bs ∪ finalPlaces here bs) d d' ∧
      (∀ b ∈ bs, d'.get? (here ++ [b.fileName]) = some b.contents) ∧
      (∀ b ∈ bs, d'.get? (here ++ [b.stagingName]) = none) ∧
      ∀ rest, (renameAll directory (bs ++ rest) : StateM Disk _) d =
        (renameAll directory rest : StateM Disk _) d' := by
  induction bs generalizing d with
  | nil => exact ⟨d, .refl _ d, by simp, by simp, fun _ => rfl⟩
  | cons b bs ih =>
      have hb : Path.IsComponent b.fileName := hbs.component b (by simp)
      have hbnull : Path.NullFree b.fileName := hnull b (by simp)
      obtain ⟨d₁, hrun, hchange, hfinal, hstaging⟩ := exists_renameFile hb.stagingName
        (nullFree_stagingName_iff.2 hbnull) hb hbnull (hbs.apart b (by simp) b (by simp)).symm
        hhere (hstaged b (by simp)) (hfree b (by simp))
      -- Renaming this file touches none of the places of the others.
      have hstaged' : ∀ a ∈ bs, d₁.get? (here ++ [a.stagingName]) = some a.contents := by
        intro a mem
        rw [hchange.get?]
        · exact hstaged a (by simp [mem])
        · rintro (heq | heq)
          · exact staging_notMem hbs here (.inl ⟨a, mem, heq.symm⟩)
          · exact final_notMem hbs here (.inl ⟨a, mem, heq.symm⟩)
      have hfree' : ∀ a ∈ bs, d₁.get? (here ++ [a.fileName]) ≠ some .directory := by
        intro a mem
        rw [hchange.get?]
        · exact hfree a (by simp [mem])
        · rintro (heq | heq)
          · exact staging_notMem hbs here (.inr ⟨a, mem, heq.symm⟩)
          · exact final_notMem hbs here (.inr ⟨a, mem, heq.symm⟩)
      obtain ⟨d', hchanges, hpublished, hgone, hrest⟩ :=
        ih hbs.tail (hchange.enter hhere) (fun a mem => hnull a (by simp [mem])) hstaged' hfree'
      refine ⟨d', (hchange.trans hchanges).mono ?_, ?_, ?_, fun rest => ?_⟩
      · rintro l ((rfl | rfl) | ⟨a, mem, rfl⟩ | ⟨a, mem, rfl⟩)
        · exact .inl ⟨b, by simp, rfl⟩
        · exact .inr ⟨b, by simp, rfl⟩
        · exact .inl ⟨a, by simp [mem], rfl⟩
        · exact .inr ⟨a, by simp [mem], rfl⟩
      · intro a mem
        rcases List.mem_cons.1 mem with rfl | mem
        · rw [hchanges.get? _ (final_notMem hbs here), hfinal]
          rfl
        · exact hpublished a mem
      · intro a mem
        rcases List.mem_cons.1 mem with rfl | mem
        · rw [hchanges.get? _ (staging_notMem hbs here), hstaging]
        · exact hgone a mem
      · have hstep : (FileSystem.renameFile (stagingPath directory b) (finalPath directory b) :
            StateM Disk _) d = (.ok (), d₁) := hrun
        rw [List.cons_append, renameAll, bind_run, hstep]
        exact hrest rest

end Loops

/-! ## The whole -/

/-- **How a publication ends** in a directory that is there. -/
inductive Publication [Append τ] [Textual τ] (here : Location) (bs : List (Buffer τ)) (d : Disk) :
    Except FileError Unit → Disk → Prop
  /-- A directory is at a staging place, and what was staged before is removed. -/
  | unstaged {before after : List (Buffer τ)} {b : Buffer τ} {d' : Disk}
      (split : bs = before ++ b :: after)
      (writable : ∀ a ∈ before, a.Writable)
      (free : ∀ a ∈ before, d.get? (here ++ [a.stagingName]) ≠ some .directory)
      (nullFree : Path.NullFree b.fileName)
      (taken : d.get? (here ++ [b.stagingName]) = some .directory)
      (changes : ChangesWithin (stagingPlaces here before) d d')
      (gone : ∀ a ∈ before, d'.get? (here ++ [a.stagingName]) = none) :
      Publication here bs d (.error .isDirectory) d'
  /-- A file cannot be written, and what was staged before stays.  If the system takes its name, the
  file is staged too, but empty. -/
  | broken {before after : List (Buffer τ)} {b : Buffer τ} {e : FileError} {d' : Disk}
      (split : bs = before ++ b :: after)
      (writable : ∀ a ∈ before, a.Writable)
      (fails : ¬ b.Writable)
      (other : e.ofSystem = false)
      (changes : ChangesWithin (stagingPlaces here (before ++ [b])) d d')
      (staged : ∀ a ∈ before, d'.get? (here ++ [a.stagingName]) = some a.contents)
      (opened : Path.NullFree b.fileName → d'.get? (here ++ [b.stagingName]) = some (.file [])) :
      Publication here bs d (.error e) d'
  /-- A directory is at a final place, and the files before it have been renamed already. -/
  | unfinished {before after : List (Buffer τ)} {b : Buffer τ} {d' : Disk}
      (split : bs = before ++ b :: after)
      (writable : ∀ a ∈ bs, a.Writable)
      (stageable : ∀ a ∈ bs, d.get? (here ++ [a.stagingName]) ≠ some .directory)
      (free : ∀ a ∈ before, d.get? (here ++ [a.fileName]) ≠ some .directory)
      (taken : d.get? (here ++ [b.fileName]) = some .directory)
      (changes : ChangesWithin (stagingPlaces here bs ∪ finalPlaces here before) d d')
      (renamed : ∀ a ∈ before, d'.get? (here ++ [a.fileName]) = some a.contents)
      (gone : ∀ a ∈ bs, d'.get? (here ++ [a.stagingName]) = none) :
      Publication here bs d (.error .isDirectory) d'
  /-- All files can be written, and no directory is in the way. -/
  | published {d' : Disk}
      (writable : ∀ a ∈ bs, a.Writable)
      (stageable : ∀ a ∈ bs, d.get? (here ++ [a.stagingName]) ≠ some .directory)
      (free : ∀ a ∈ bs, d.get? (here ++ [a.fileName]) ≠ some .directory)
      (changes : ChangesWithin (stagingPlaces here bs ∪ finalPlaces here bs) d d')
      (renamed : ∀ a ∈ bs, d'.get? (here ++ [a.fileName]) = some a.contents)
      (gone : ∀ a ∈ bs, d'.get? (here ++ [a.stagingName]) = none) :
      Publication here bs d (.ok ()) d'

/-- A list up to the first thing with a property. -/
theorem exists_first {α : Type} (P : α → Prop) [DecidablePred P] (xs : List α) :
    (∀ x ∈ xs, ¬ P x) ∨
      ∃ before x after, xs = before ++ x :: after ∧ (∀ y ∈ before, ¬ P y) ∧ P x := by
  cases hfind : xs.find? (fun x => decide (P x)) with
  | none => exact .inl (by simpa using hfind)
  | some x =>
      obtain ⟨hx, before, after, rfl, hbefore⟩ := List.find?_eq_some_iff_append.1 hfind
      exact .inr ⟨before, x, after, rfl, by simpa using hbefore, by simpa using hx⟩

section Whole

variable [Append τ] [Textual τ] {directory : Path} {here : Location} {bs : List (Buffer τ)}
  {tried : List Path} {d d₁ d₂ d₃ d₄ : Disk} {e e' : FileError}

/-- Without a directory nothing is published. -/
theorem publish_of_make_error
    (hmake : (makeDirectories directory : StateM Disk _) d = (.error e, d₁)) :
    (publish directory bs : StateM Disk _) d = (.error e, d₁) := by
  unfold publish
  rw [bind_run, hmake]
  rfl

/-- When cleaning up after a failed staging fails too, its failure is reported. -/
theorem publish_of_stage_error
    (hmake : (makeDirectories directory : StateM Disk _) d = (.ok (), d₁))
    (hstage : (stage directory bs : StateM Disk _) d₁ = ((tried, .error e), d₂))
    (hsystem : e.ofSystem = true) (hclean : (cleanUp tried : StateM Disk _) d₂ = (.error e', d₃)) :
    (publish directory bs : StateM Disk _) d = (.error e', d₃) := by
  unfold publish
  rw [bind_run, hmake]
  dsimp only
  rw [bind_run, hstage]
  dsimp only
  rw [bind_run, pure_run]
  dsimp only
  rw [if_pos hsystem, bind_run, hclean]
  rfl

/-- There is no cleaning up if staging breaks off, but not for the system. -/
theorem publish_of_stage_broken
    (hmake : (makeDirectories directory : StateM Disk _) d = (.ok (), d₁))
    (hstage : (stage directory bs : StateM Disk _) d₁ = ((tried, .error e), d₂))
    (hother : e.ofSystem = false) :
    (publish directory bs : StateM Disk _) d = (.error e, d₂) := by
  unfold publish
  rw [bind_run, hmake]
  dsimp only
  rw [bind_run, hstage]
  dsimp only
  rw [bind_run, pure_run]
  dsimp only
  rw [if_neg (by simp [hother])]
  rfl

/-- A failed renaming is reported if cleaning up succeeds. -/
theorem publish_of_rename_error
    (hmake : (makeDirectories directory : StateM Disk _) d = (.ok (), d₁))
    (hstage : (stage directory bs : StateM Disk _) d₁ = ((tried, .ok ()), d₂))
    (hrename : (renameAll directory bs : StateM Disk _) d₂ = (.error e, d₃))
    (hsystem : e.ofSystem = true) (hclean : (cleanUp tried : StateM Disk _) d₃ = (.ok (), d₄)) :
    (publish directory bs : StateM Disk _) d = (.error e, d₄) := by
  unfold publish
  rw [bind_run, hmake]
  dsimp only
  rw [bind_run, hstage]
  dsimp only
  rw [bind_run, hrename]
  dsimp only
  rw [if_pos hsystem, bind_run, hclean]
  rfl

theorem publish_of_rename_ok
    (hmake : (makeDirectories directory : StateM Disk _) d = (.ok (), d₁))
    (hstage : (stage directory bs : StateM Disk _) d₁ = ((tried, .ok ()), d₂))
    (hrename : (renameAll directory bs : StateM Disk _) d₂ = (.ok (), d₃)) :
    (publish directory bs : StateM Disk _) d = (.ok (bs.map (finalPath directory)), d₃) := by
  unfold publish
  rw [bind_run, hmake]
  dsimp only
  rw [bind_run, hstage]
  dsimp only
  rw [bind_run, hrename]
  rfl

/-- A staging place that is taken. -/
theorem publication_of_staging_taken (hbs : Publishable bs)
    (hmake : (makeDirectories directory : StateM Disk _) d = (.ok (), d₁))
    (hhere : d₁.enterPath directory = .ok here) {before after : List (Buffer τ)} {b : Buffer τ}
    (split : bs = before ++ b :: after) (writable : ∀ a ∈ before, a.Writable)
    (free : ∀ a ∈ before, d₁.get? (here ++ [a.stagingName]) ≠ some .directory)
    (hnull : Path.NullFree b.fileName)
    (taken : d₁.get? (here ++ [b.stagingName]) = some .directory) :
    ∃ d', (publish directory bs : StateM Disk _) d = (.error .isDirectory, d') ∧
      Publication here bs d₁ (.error .isDirectory) d' := by
  have hbefore : Publishable before :=
    hbs.sublist (split ▸ List.sublist_append_left before (b :: after))
  have hb : Path.IsComponent b.fileName := hbs.component b (by simp [split])
  obtain ⟨d₂, hstageChanges, hstaged, hstage⟩ :=
    exists_stage_of_taken hbs hhere split writable free hnull taken
  -- The directory in the way is still there after staging, and again after cleaning up.
  have htaken₂ := hstageChanges.directory _ taken
  have hhere₂ := hstageChanges.enter hhere
  have hstagedFree : ∀ a ∈ before, d₂.get? (here ++ [a.stagingName]) ≠ some .directory := by
    intro a mem
    simp [hstaged a mem, Buffer.contents]
  obtain ⟨d₃, hcleanChanges, hgone, hclean⟩ := exists_cleanUp hbefore hhere₂
    (fun a mem => (writable a mem).nullFree) hstagedFree
  have hcleanRest : (cleanUp [stagingPath directory b] : StateM Disk _) d₃ =
      (.error .isDirectory, d₃) := by
    have hremove : (FileSystem.removeFile (stagingPath directory b) : StateM Disk _) d₃ =
        (.error .isDirectory, d₃) :=
      act_of_error (removeFile_child_of_directory hb.stagingName
        (nullFree_stagingName_iff.2 hnull) (hcleanChanges.enter hhere₂)
        (hcleanChanges.directory _ htaken₂))
    rw [cleanUp, bind_run, hremove]
    rfl
  have hcleanAll := (hclean [stagingPath directory b]).trans hcleanRest
  rw [List.map_append] at hstage
  exact ⟨d₃, publish_of_stage_error hmake hstage rfl hcleanAll,
    .unstaged split writable free hnull taken (hstageChanges.trans_same hcleanChanges) hgone⟩

/-- A file that cannot be written. -/
theorem publication_of_not_writable (hbs : Publishable bs)
    (hmake : (makeDirectories directory : StateM Disk _) d = (.ok (), d₁))
    (hhere : d₁.enterPath directory = .ok here) {before after : List (Buffer τ)} {b : Buffer τ}
    (split : bs = before ++ b :: after) (writable : ∀ a ∈ before, a.Writable)
    (free : ∀ a ∈ before, d₁.get? (here ++ [a.stagingName]) ≠ some .directory)
    (hfree : Path.NullFree b.fileName → d₁.get? (here ++ [b.stagingName]) ≠ some .directory)
    (fails : ¬ b.Writable) :
    ∃ e d', (publish directory bs : StateM Disk _) d = (.error e, d') ∧
      Publication here bs d₁ (.error e) d' := by
  obtain ⟨e, d', hother, hchanges, hstaged, hopened, hstage⟩ :=
    exists_stage_of_not_writable hbs hhere split writable free hfree fails
  exact ⟨e, d', publish_of_stage_broken hmake hstage hother,
    .broken split writable fails hother hchanges hstaged hopened⟩

/-- A final place that is taken. -/
theorem publication_of_final_taken (hbs : Publishable bs)
    (hmake : (makeDirectories directory : StateM Disk _) d = (.ok (), d₁))
    (hhere : d₁.enterPath directory = .ok here) (writable : ∀ a ∈ bs, a.Writable)
    (stageable : ∀ a ∈ bs, d₁.get? (here ++ [a.stagingName]) ≠ some .directory)
    {before after : List (Buffer τ)} {b : Buffer τ} (split : bs = before ++ b :: after)
    (free : ∀ a ∈ before, d₁.get? (here ++ [a.fileName]) ≠ some .directory)
    (taken : d₁.get? (here ++ [b.fileName]) = some .directory) :
    ∃ d', (publish directory bs : StateM Disk _) d = (.error .isDirectory, d') ∧
      Publication here bs d₁ (.error .isDirectory) d' := by
  have hbefore : Publishable before :=
    hbs.sublist (split ▸ List.sublist_append_left before (b :: after))
  have hsub : ∀ a ∈ before, a ∈ bs := fun a mem => by simp [split, mem]
  have hb : Path.IsComponent b.fileName := hbs.component b (by simp [split])
  have hnull : Path.NullFree b.fileName := (writable b (by simp [split])).nullFree
  obtain ⟨d₂, hstageChanges, hstaged, hstage⟩ := exists_stage hbs hhere writable stageable
  have hhere₂ := hstageChanges.enter hhere
  have free₂ : ∀ a ∈ before, d₂.get? (here ++ [a.fileName]) ≠ some .directory := by
    intro a mem
    rw [hstageChanges.get? _ (final_notMem_stagingPlaces hbs (hsub a mem) here)]
    exact free a mem
  obtain ⟨d₃, hrenameChanges, hrenamed, hgone, hrename⟩ :=
    exists_renameAll hbefore hhere₂ (fun a mem => (writable a (hsub a mem)).nullFree)
      (fun a mem => hstaged a (hsub a mem)) free₂
  have hhere₃ := hrenameChanges.enter hhere₂
  -- The files from the obstacle on are still staged, those before it are not.
  have hlater : ∀ a ∈ b :: after, d₃.get? (here ++ [a.stagingName]) = some a.contents := by
    intro a mem
    have hmem : a ∈ bs := split ▸ List.mem_append_right before mem
    have hne : ∀ c ∈ before, c.fileName ≠ a.fileName := fun c hc =>
      (List.pairwise_append.1 (split ▸ hbs.distinct)).2.2 c hc a mem
    rw [hrenameChanges.get? _ (staging_notMem_of_ne here hne fun c hc =>
      hbs.apart c (hsub c hc) a hmem)]
    exact hstaged a hmem
  have hfree₃ : ∀ a ∈ bs, d₃.get? (here ++ [a.stagingName]) ≠ some .directory := by
    intro a mem
    rw [split] at mem
    rcases List.mem_append.1 mem with mem | mem
    · simp [hgone a mem]
    · simp [hlater a mem, Buffer.contents]
  have hrenameRest : (renameAll directory (b :: after) : StateM Disk _) d₃ =
      (.error .isDirectory, d₃) := by
    have htaken₃ : d₃.get? (here ++ [b.fileName]) = some .directory :=
      hrenameChanges.directory _ (hstageChanges.directory _ taken)
    have hblocked : (FileSystem.renameFile (stagingPath directory b) (finalPath directory b) :
        StateM Disk _) d₃ = (.error .isDirectory, d₃) :=
      act_of_error ((renameFile_child hb.stagingName (nullFree_stagingName_iff.2 hnull) hb hnull
        hhere₃ (hlater b (by simp))).trans (if_pos htaken₃))
    rw [renameAll, bind_run, hblocked]
    rfl
  obtain ⟨d₄, hcleanChanges, hcleaned, hclean⟩ := exists_cleanUp hbs hhere₃
    (fun a mem => (writable a mem).nullFree) hfree₃
  have hstageAll := hstage [] [] (.ok ()) d₂ rfl
  rw [List.append_nil] at hstageAll
  have hrenameAll := (hrename (b :: after)).trans hrenameRest
  rw [← split] at hrenameAll
  have hcleanAll : (cleanUp (bs.map (stagingPath directory) ++ []) : StateM Disk _) d₃ =
      (.ok (), d₄) := hclean []
  have hchanges : ChangesWithin (stagingPlaces here bs ∪ finalPlaces here before) d₁ d₄ := by
    have hstaging : stagingPlaces here before ⊆ stagingPlaces here bs := by
      rintro l ⟨a, mem, rfl⟩
      exact ⟨a, hsub a mem, rfl⟩
    have hrename' := hrenameChanges.mono (Set.union_subset_union_left _ hstaging)
    exact ((hstageChanges.mono Set.subset_union_left).trans_same hrename').trans_same
      (hcleanChanges.mono Set.subset_union_left)
  refine ⟨d₄, publish_of_rename_error hmake hstageAll hrenameAll rfl hcleanAll,
    .unfinished split writable stageable free taken hchanges ?_ hcleaned⟩
  intro a mem
  rw [hcleanChanges.get? _ (final_notMem_stagingPlaces hbs (hsub a mem) here)]
  exact hrenamed a mem

/-- Nothing is in the way. -/
theorem publication_of_free (hbs : Publishable bs)
    (hmake : (makeDirectories directory : StateM Disk _) d = (.ok (), d₁))
    (hhere : d₁.enterPath directory = .ok here) (writable : ∀ a ∈ bs, a.Writable)
    (stageable : ∀ a ∈ bs, d₁.get? (here ++ [a.stagingName]) ≠ some .directory)
    (free : ∀ a ∈ bs, d₁.get? (here ++ [a.fileName]) ≠ some .directory) :
    ∃ d', (publish directory bs : StateM Disk _) d = (.ok (bs.map (finalPath directory)), d') ∧
      Publication here bs d₁ (.ok ()) d' := by
  obtain ⟨d₂, hstageChanges, hstaged, hstage⟩ := exists_stage hbs hhere writable stageable
  have free₂ : ∀ a ∈ bs, d₂.get? (here ++ [a.fileName]) ≠ some .directory := by
    intro a mem
    rw [hstageChanges.get? _ (final_notMem_stagingPlaces hbs mem here)]
    exact free a mem
  obtain ⟨d₃, hrenameChanges, hrenamed, hgone, hrename⟩ :=
    exists_renameAll hbs (hstageChanges.enter hhere) (fun a mem => (writable a mem).nullFree)
      hstaged free₂
  have hstageAll := hstage [] [] (.ok ()) d₂ rfl
  have hrenameAll := hrename []
  rw [List.append_nil] at hstageAll hrenameAll
  have hchanges : ChangesWithin (stagingPlaces here bs ∪ finalPlaces here bs) d₁ d₃ :=
    (hstageChanges.mono Set.subset_union_left).trans_same hrenameChanges
  exact ⟨d₃, publish_of_rename_ok hmake hstageAll hrenameAll,
    .published writable stageable free hchanges hrenamed hgone⟩

/-- **Publishing** ends in one of these ways in the directory that is made. -/
theorem publication_publish (hbs : Publishable bs)
    (hmake : (makeDirectories directory : StateM Disk _) d = (.ok (), d₁))
    (hhere : d₁.enterPath directory = .ok here) :
    ∃ outcome d', (publish directory bs : StateM Disk _) d =
        (outcome.map fun _ => bs.map (finalPath directory), d') ∧
      Publication here bs d₁ outcome d' := by
  have hstaging := exists_first (fun b : Buffer τ => ¬ b.Writable ∨
    d₁.get? (here ++ [b.stagingName]) = some .directory) bs
  have hfinal := exists_first
    (fun b : Buffer τ => d₁.get? (here ++ [b.fileName]) = some .directory) bs
  simp only [not_or, not_not] at hstaging
  rcases hstaging with hgood | ⟨before, b, after, split, hgood, hbad⟩
  · have writable : ∀ a ∈ bs, a.Writable := fun a mem => (hgood a mem).1
    have stageable := fun a mem => (hgood a mem).2
    rcases hfinal with free | ⟨before, b, after, split, free, taken⟩
    · obtain ⟨d', hrun, h⟩ := publication_of_free hbs hmake hhere writable stageable free
      exact ⟨.ok (), d', hrun, h⟩
    · obtain ⟨d', hrun, h⟩ :=
        publication_of_final_taken hbs hmake hhere writable stageable split free taken
      exact ⟨.error .isDirectory, d', hrun, h⟩
  · have writable : ∀ a ∈ before, a.Writable := fun a mem => (hgood a mem).1
    have free := fun a mem => (hgood a mem).2
    by_cases htaken : Path.NullFree b.fileName ∧
        d₁.get? (here ++ [b.stagingName]) = some .directory
    · obtain ⟨d', hrun, h⟩ := publication_of_staging_taken hbs hmake hhere split writable free
        htaken.1 htaken.2
      exact ⟨.error .isDirectory, d', hrun, h⟩
    · have hfree : Path.NullFree b.fileName →
          d₁.get? (here ++ [b.stagingName]) ≠ some .directory :=
        fun hnull taken => htaken ⟨hnull, taken⟩
      have fails : ¬ b.Writable := fun h =>
        hbad.elim (fun hnot => hnot h) (hfree h.nullFree)
      obtain ⟨e, d', hrun, h⟩ :=
        publication_of_not_writable hbs hmake hhere split writable free hfree fails
      exact ⟨.error e, d', hrun, h⟩

end Whole

end Disk

end ScriptBindings
