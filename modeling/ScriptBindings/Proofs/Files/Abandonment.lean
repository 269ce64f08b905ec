import ScriptBindings.Proofs.Files.Effect

/-!
# Publications that fail

A publication that the system makes fail breaks off at some file.  The files before it are whole,
those from it on are not published, and nothing is left of what was staged.

* `Disk.tried` — the paths under which a publication stages files.
* `Disk.Abandoned` — what a publication that fails leaves, some first files being in place.
* `exists_abandoned` — every publication that fails for the system leaves that.

### What is load-bearing

Cleaning up can fail too, and then it breaks off.  But it fails only at a directory, where nothing
could be staged either, so this is the last path that was tried and everything staged before it is
gone already.
-/

namespace ScriptBindings

variable {τ : Type} [Append τ] [Textual τ]

namespace Disk

open Location

/-- **The paths under which a publication stages files**, up to the first that fails. -/
def tried (d : Disk) (output : Path) (bs : List (Buffer τ)) : List Path :=
  match (makeDirectories output : StateM Disk _) d with
  | (.error _, _) => []
  | (.ok (), d₁) => ((stage output bs : StateM Disk _) d₁).1.1

/-- **What a publication that fails leaves** of the disk it found, its first `k` files being in
place. -/
structure Abandoned (d : Disk) (output : Path) (bs : List (Buffer τ)) (k : Nat) (d' : Disk) :
    Prop where
  /-- Not all files are in place. -/
  short : k < bs.length
  /-- The first files are whole. -/
  whole : ∀ b ∈ bs.take k, b.Writable ∧ d'.at? (finalPath output b) = some b.contents
  /-- The final place of another file is as it was, or a new directory on the way to the output
  directory. -/
  kept : ∀ b ∈ bs.drop k,
    d'.get? (d.place output b.fileName) = d.get? (d.place output b.fileName) ∨
      NewDirectory d output d' (d.place output b.fileName)
  /-- No plain file is left where one was staged. -/
  removed : ∀ p ∈ d.tried output bs, ∀ bytes, d'.at? p ≠ some (.file bytes)
  /-- What changed is the place of one of the first files, or the staging place of an old file that
  is gone, or a new directory on the way to the output directory. -/
  changed : ∀ l, d'.get? l ≠ d.get? l →
    l ∈ finalPlaces (d.destination output) (bs.take k) ∨
      (l ∈ stagingPlaces (d.destination output) bs ∧ (∃ bytes, d.get? l = some (.file bytes)) ∧
        d'.get? l = none) ∨
      NewDirectory d output d' l
  workingDirectory : d'.workingDirectory = d.workingDirectory

section Failed

variable {d d₁ d' : Disk} {output : Path} {bs before after : List (Buffer τ)} {e : FileError}

theorem tried_of_make_error
    (hmake : (makeDirectories output : StateM Disk _) d = (.error e, d₁)) :
    d.tried output bs = [] := by
  rw [tried, hmake]

theorem tried_of_make_ok (hmake : (makeDirectories output : StateM Disk _) d = (.ok (), d₁)) :
    d.tried output bs = ((stage output bs : StateM Disk _) d₁).1.1 := by
  rw [tried, hmake]

/-- **A publication that breaks off** after the first files, when nothing but old staged files is
lost at the staging places. -/
theorem MadeWay.abandoned {made : Except FileError Unit} (hmade : MadeWay d output made d₁)
    (hbs : Publishable bs) (split : bs = before ++ after) (nonempty : after ≠ [])
    (changes : ChangesWithin (stagingPlaces (d.destination output) bs ∪
      finalPlaces (d.destination output) before) d₁ d')
    (whole : ∀ a ∈ before, a.Writable ∧ d'.at? (finalPath output a) = some a.contents)
    (staging : ∀ a ∈ bs,
      d'.get? (d.place output a.stagingName) = d₁.get? (d.place output a.stagingName) ∨
        d'.get? (d.place output a.stagingName) = none)
    (removed : ∀ p ∈ d.tried output bs, ∀ bytes, d'.at? p ≠ some (.file bytes)) :
    Abandoned d output bs before.length d' := by
  have htake : bs.take before.length = before := by rw [split, List.take_left]
  have hdrop : bs.drop before.length = after := by rw [split, List.drop_left]
  refine ⟨?_, by rwa [htake], ?_, removed, ?_,
    changes.workingDirectory.trans hmade.changes.workingDirectory⟩
  · have hlength : 0 < after.length := List.length_pos_iff.2 nonempty
    rw [split, List.length_append]
    omega
  · intro b mem
    rw [hdrop] at mem
    have hb : b ∈ bs := by simp [split, mem]
    refine hmade.eq_or_newDirectory (changes.get? _ ?_)
    rintro (hstaging | ⟨a, ha, heq⟩)
    · exact final_notMem_stagingPlaces hbs hb _ hstaging
    · have hne : a.fileName ≠ b.fileName :=
        (List.pairwise_append.1 (split ▸ hbs.distinct)).2.2 a ha b mem
      exact hne (by simpa [place] using heq.symm)
  · intro l hl
    rw [htake]
    by_cases hfinal : l ∈ finalPlaces (d.destination output) before
    · exact .inl hfinal
    by_cases hstaging : l ∈ stagingPlaces (d.destination output) bs
    · obtain ⟨a, mem, rfl⟩ := hstaging
      rcases staging a mem with hsame | hnone
      · exact .inr (.inr ((hmade.eq_or_newDirectory hsame).resolve_left hl))
      · have hold := (hmade.changes.trans changes).exists_file_of_none hnone hl
        exact .inr (.inl ⟨⟨a, mem, rfl⟩, hold, hnone⟩)
    · have hsame : d'.get? l = d₁.get? l := changes.get? l fun mem =>
        mem.elim hstaging hfinal
      exact .inr (.inr ((hmade.eq_or_newDirectory hsame).resolve_left hl))

/-- The directory cannot be made. -/
theorem abandoned_of_make_error (hbs : Publishable bs) (nonempty : bs ≠ [])
    (hmake : (makeDirectories output : StateM Disk _) d = (.error e, d'))
    (hmade : MadeWay d output (.error e) d') : Abandoned d output bs 0 d' := by
  refine hmade.abandoned hbs (List.nil_append bs).symm nonempty (.refl _ d') (by simp)
    (fun _ _ => .inl rfl) ?_
  simp [tried_of_make_error hmake]

/-- A file cannot be staged. -/
theorem abandoned_of_unstaged (hbs : Publishable bs)
    (hmake : (makeDirectories output : StateM Disk _) d = (.ok (), d₁))
    (hmade : MadeWay d output (.ok ()) d₁) {b : Buffer τ} (split : bs = before ++ b :: after)
    (writable : ∀ a ∈ before, a.Writable) (hnull : Path.NullFree b.fileName)
    (free : ∀ a ∈ before, d₁.get? (d.place output a.stagingName) ≠ some .directory)
    (taken : d₁.get? (d.place output b.stagingName) = some .directory)
    (changes : ChangesWithin (stagingPlaces (d.destination output) before) d₁ d')
    (gone : ∀ a ∈ before, d'.get? (d.place output a.stagingName) = none) :
    Abandoned d output bs 0 d' := by
  have hhere : d'.enterPath output = .ok (d.destination output) :=
    changes.enter (hmade.enters rfl)
  have hsub : ∀ a ∈ before, a ∈ bs := fun a mem => by simp [split, mem]
  refine hmade.abandoned hbs (List.nil_append bs).symm (by simp [split]) ?_ (by simp) ?_ ?_
  · refine changes.mono ?_
    rintro l ⟨a, mem, rfl⟩
    exact .inl ⟨a, hsub a mem, rfl⟩
  · intro a mem
    by_cases hplace : d.place output a.stagingName ∈ stagingPlaces (d.destination output) before
    · obtain ⟨c, hc, heq⟩ := hplace
      rw [heq]
      exact .inr (gone c hc)
    · exact .inl (changes.get? _ hplace)
  · obtain ⟨d₂, -, -, hstage⟩ := exists_stage_of_taken hbs (hmade.enters rfl) split writable free
      hnull taken
    have htried : d.tried output bs = (before ++ [b]).map (stagingPath output) := by
      rw [tried_of_make_ok hmake, hstage]
    intro p mem bytes hfile
    rw [htried] at mem
    obtain ⟨a, ha, rfl⟩ := List.mem_map.1 mem
    rcases List.mem_append.1 ha with ha | ha
    · rw [at?_stagingPath_of_enterPath hbs (hsub a ha) (writable a ha).nullFree hhere] at hfile
      cases (gone a ha).symm.trans hfile
    -- The last path that was tried is still that of a directory.
    · obtain rfl := List.mem_singleton.1 ha
      rw [at?_stagingPath_of_enterPath hbs (by simp [split]) hnull hhere] at hfile
      cases (changes.directory _ taken).symm.trans hfile

/-- A staged file cannot be renamed. -/
theorem abandoned_of_unfinished (hbs : Publishable bs)
    (hmake : (makeDirectories output : StateM Disk _) d = (.ok (), d₁))
    (hmade : MadeWay d output (.ok ()) d₁) (split : bs = before ++ after) (nonempty : after ≠ [])
    (writable : ∀ a ∈ bs, a.Writable)
    (stageable : ∀ a ∈ bs, d₁.get? (d.place output a.stagingName) ≠ some .directory)
    (changes : ChangesWithin (stagingPlaces (d.destination output) bs ∪
      finalPlaces (d.destination output) before) d₁ d')
    (renamed : ∀ a ∈ before, d'.get? (d.place output a.fileName) = some a.contents)
    (gone : ∀ a ∈ bs, d'.get? (d.place output a.stagingName) = none) :
    Abandoned d output bs before.length d' := by
  have hhere : d'.enterPath output = .ok (d.destination output) :=
    changes.enter (hmade.enters rfl)
  refine hmade.abandoned hbs split nonempty changes ?_ (fun a mem => .inr (gone a mem)) ?_
  · intro a mem
    have hwritable : a.Writable := writable a (by simp [split, mem])
    rw [at?_finalPath_of_enterPath hbs (by simp [split, mem]) hwritable.nullFree hhere]
    exact ⟨hwritable, renamed a mem⟩
  · obtain ⟨d₂, -, -, hstage⟩ := exists_stage hbs (hmade.enters rfl) writable stageable
    have hall := hstage [] [] (.ok ()) d₂ rfl
    rw [List.append_nil, List.append_nil] at hall
    have htried : d.tried output bs = bs.map (stagingPath output) := by
      rw [tried_of_make_ok hmake, hall]
    intro p mem bytes hfile
    rw [htried] at mem
    obtain ⟨a, ha, rfl⟩ := List.mem_map.1 mem
    rw [at?_stagingPath_of_enterPath hbs ha (writable a ha).nullFree hhere] at hfile
    cases (gone a ha).symm.trans hfile

/-- **A publication that fails for the system** leaves whole files only: some first ones are in
place, the final places of the others are as they were or have become directories on the way to
the output directory, and nothing that was staged is left. -/
theorem exists_abandoned (hbs : Publishable bs) (nonempty : bs ≠ []) (hsystem : e.ofSystem = true)
    (hrun : (publish output bs : StateM Disk _) d = (.error e, d')) :
    ∃ k, Abandoned d output bs k d' := by
  obtain ⟨made, d₁, hmake, hmade⟩ := madeWay_makeDirectories output d
  cases made with
  | error e' =>
      rw [publish_of_make_error hmake] at hrun
      cases hrun
      exact ⟨0, abandoned_of_make_error hbs nonempty hmake hmade⟩
  | ok =>
      obtain ⟨outcome, d'', hrun', hend⟩ := publication_publish hbs hmake (hmade.enters rfl)
      rw [hrun] at hrun'
      cases hend with
      | published => cases hrun'
      | unstaged split writable free hnull taken changes gone =>
          cases hrun'
          exact ⟨0, abandoned_of_unstaged hbs hmake hmade split writable hnull free taken changes
            gone⟩
      | broken _ _ _ other =>
          cases hrun'
          rw [other] at hsystem
          cases hsystem
      | unfinished split writable stageable _ _ changes renamed gone =>
          cases hrun'
          exact ⟨_, abandoned_of_unfinished hbs hmake hmade split (by simp) writable stageable
            changes renamed gone⟩

end Failed

/-- A disk on which the staging place of a file `c` is that of a directory, and an old staged file
is left from a file `a`. -/
def crowdedDisk : Disk where
  entries := [
    (["out"], .directory),
    (["out", ".c.tmp"], .directory),
    (["out", ".a.tmp"], .file [1])]

/-- Three files that are to be published there. -/
def crowdedFiles : List Buffer :=
  [⟨"a", ["1"], 0⟩, ⟨"b", ["2"], 0⟩, ⟨"c", ["3"], 0⟩]

/-- Their publication, which fails, and fails once more when it cleans up. -/
def crowdedRun : Except FileError (List Path) × Disk :=
  (publish ⟨"", ["out"]⟩ crowdedFiles : StateM Disk _) crowdedDisk

theorem exists_abandoned_crowded :
    Publishable crowdedFiles ∧ crowdedFiles ≠ [] ∧ crowdedRun.1 = .error .isDirectory ∧
      ∃ k, Abandoned crowdedDisk ⟨"", ["out"]⟩ crowdedFiles k crowdedRun.2 := by
  have hbs : Publishable crowdedFiles := by decide
  have nonempty : crowdedFiles ≠ [] := by decide
  have hrun : (publish ⟨"", ["out"]⟩ crowdedFiles : StateM Disk _) crowdedDisk =
      (.error .isDirectory, crowdedRun.2) := rfl
  exact ⟨hbs, nonempty, rfl, exists_abandoned hbs nonempty rfl hrun⟩

/-- **The final place of a file that is not published can change all the same.**  On the empty disk,
the path `a/..` to the output directory makes a directory `a` where the file `a` should go. -/
theorem not_exists_abandoned_turning :
    ¬ ∀ (bs : List Buffer) (output : Path) (d d' : Disk) (e : FileError), Publishable bs →
      bs ≠ [] → e.ofSystem = true → (publish output bs : StateM Disk _) d = (.error e, d') →
        ∃ k < bs.length, (∀ b ∈ bs.take k, d'.at? (finalPath output b) = some b.contents) ∧
          ∀ b ∈ bs.drop k,
            d'.get? (d.place output b.fileName) = d.get? (d.place output b.fileName) := by
  intro h
  obtain ⟨k, hk, -, hkept⟩ :=
    h [⟨"a", [], 0⟩] ⟨"", ["a", ".."]⟩ {} _ _ (by decide) (by decide) rfl rfl
  obtain rfl : k = 0 := by simpa using hk
  have hsame := hkept ⟨"a", [], 0⟩ (by simp)
  have hbefore : ({} : Disk).get? (({} : Disk).place ⟨"", ["a", ".."]⟩ "a") = none := rfl
  rw [hbefore] at hsame
  cases hsame

end Disk

end ScriptBindings
