import ScriptBindings.Proofs.Files.Publication

/-!
# The effect of a publication

What a publication leaves behind depends on the disk it finds only where it writes nothing.  This
file draws the consequences for publications that follow one another.

* `Disk.SameTree` — two disks with the same entry at every place.
* `ChangesWithin.readFile` — a file can still be read after changes elsewhere.
* `exists_changesWithin_publish` — the changes of a publication, whatever its outcome.
* `Publication.sameTree` — a publication that succeeds determines the tree it leaves.
* `Publication.exists_again` — what has been published can be published again, and nothing changes.
* `Publication.exists_after` — publications that succeed alone succeed in a row, as one publication
  of all files.

### What is load-bearing

A publication that succeeds is described place by place, and the description mentions its files only
as members of the list.  Neither their order nor a repetition can matter then.
-/

namespace ScriptBindings

open Traversal

variable {τ : Type}

/-- The order of the files does not matter. -/
theorem Publishable.perm {bs bs' : List (Buffer τ)} (h : Publishable bs) (hperm : bs.Perm bs') :
    Publishable bs' where
  component a mem := h.component a (hperm.mem_iff.2 mem)
  distinct := h.distinct.perm hperm fun hne => hne.symm
  apart a mem b mem' := h.apart a (hperm.mem_iff.2 mem) b (hperm.mem_iff.2 mem')

namespace Disk

open Location

/-- The places of files that can be published together with others are none of the others'. -/
theorem Publication.notMem_places {here : Location} {bs bs' : List (Buffer τ)}
    (hbs : Publishable (bs ++ bs')) {a : Buffer τ} (mem : a ∈ bs) :
    here ++ [a.stagingName] ∉ stagingPlaces here bs' ∪ finalPlaces here bs' ∧
      here ++ [a.fileName] ∉ stagingPlaces here bs' ∪ finalPlaces here bs' := by
  have hne : ∀ b ∈ bs', a.fileName ≠ b.fileName := fun b hb =>
    (List.pairwise_append.1 hbs.distinct).2.2 a mem b hb
  have hsub : Publishable (a :: bs') := by
    refine hbs.sublist ?_
    exact (List.singleton_sublist.2 mem).append (List.Sublist.refl bs')
  exact ⟨staging_notMem hsub here, final_notMem hsub here⟩

variable [Append τ] [Textual τ]

/-! ## The same tree -/

/-- **Two disks with the same tree**: the same entry at every place, and the same working
directory. -/
structure SameTree (d d' : Disk) : Prop where
  workingDirectory : d'.workingDirectory = d.workingDirectory
  get? : ∀ l, d'.get? l = d.get? l

theorem SameTree.refl (d : Disk) : SameTree d d :=
  ⟨rfl, fun _ => rfl⟩

theorem SameTree.symm {d d' : Disk} (h : SameTree d d') : SameTree d' d :=
  ⟨h.workingDirectory.symm, fun l => (h.get? l).symm⟩

theorem SameTree.changesWithin {d d' : Disk} (h : SameTree d d') : ChangesWithin ∅ d d' :=
  ⟨h.workingDirectory, fun l _ => h.get? l, fun l hl => (h.get? l).trans hl⟩

/-- Nothing is made where the directory is there. -/
theorem MadeWay.sameTree {d d' : Disk} {p : Path} {outcome : Except FileError Unit}
    {here : Location} (h : MadeWay d p outcome d') (hhere : d.enterPath p = .ok here) :
    SameTree d d' := by
  refine ⟨h.changes.workingDirectory, fun l => h.changes.get? l ?_⟩
  rintro ⟨mem, hnone⟩
  rw [(enterPath_eq_ok_iff.1 hhere).1.2 l mem] at hnone
  cases hnone

/-! ## Reading a file -/

/-- **A file is read** at the place that its path leads to. -/
theorem readFile_eq_ok_iff {d : Disk} {root : String} {parts : List String} {last : String}
    {bytes : List UInt8} :
    d.readFile ⟨root, parts ++ [last]⟩ = .ok bytes ↔
      (Path.NullFree last ∧ last ≠ "..") ∧ ∃ here, d.enterPath ⟨root, parts⟩ = .ok here ∧
        d.get? (here ++ [last]) = some (.file bytes) := by
  unfold readFile
  by_cases hnull : Path.NullFree last
  · rw [resolve_concat d root parts hnull]
    by_cases hup : last = ".."
    · rw [if_pos hup]
      cases d.enterPath ⟨root, parts ++ [last]⟩ <;> simp [hup]
    · rw [if_neg hup]
      cases d.enterPath ⟨root, parts⟩ with
      | error e => simp
      | ok here =>
          cases hplace : d.get? (here ++ [last]) with
          | none => simp [hplace]
          | some entry => cases entry <;> simp [hnull, hup, hplace]
  · have hpath : Path.hasNull ⟨root, parts ++ [last]⟩ = true := by
      rw [← Bool.not_eq_false, Path.hasNull_concat_iff]
      exact fun h => hnull h.2
    rw [resolve_of_hasNull hpath]
    simp [hnull]

/-- What can be read is a plain file at the place that the path leads to. -/
theorem get?_destination_of_readFile {d : Disk} {p : Path} {bytes : List UInt8}
    (h : d.readFile p = .ok bytes) : d.get? (d.destination p) = some (.file bytes) := by
  obtain ⟨root, parts⟩ := p
  rcases List.eq_nil_or_concat parts with rfl | ⟨parts, last, rfl⟩
  · cases h
  · rw [List.concat_eq_append] at h ⊢
    obtain ⟨⟨-, hdown⟩, here, hhere, hfile⟩ := readFile_eq_ok_iff.1 h
    rwa [destination_concat_down hdown, ← (enterPath_eq_ok_iff.1 hhere).2]

/-- **A file can still be read** after changes at other places. -/
theorem ChangesWithin.readFile {places : Set Location} {d d' : Disk} {p : Path}
    {bytes : List UInt8} (h : ChangesWithin places d d') (hread : d.readFile p = .ok bytes)
    (notMem : d.destination p ∉ places) : d'.readFile p = .ok bytes := by
  obtain ⟨root, parts⟩ := p
  rcases List.eq_nil_or_concat parts with rfl | ⟨parts, last, rfl⟩
  · cases hread
  · rw [List.concat_eq_append] at hread notMem ⊢
    obtain ⟨hlast, here, hhere, hfile⟩ := readFile_eq_ok_iff.1 hread
    rw [destination_concat_down hlast.2, ← (enterPath_eq_ok_iff.1 hhere).2] at notMem
    exact readFile_eq_ok_iff.2 ⟨hlast, here, h.enter hhere, (h.get? _ notMem).trans hfile⟩

/-! ## The changes of a publication -/

section Publish

variable {directory : Path} {here : Location} {bs : List (Buffer τ)} {d d' : Disk}

/-- In a directory, a publication changes nothing but staging and final places. -/
theorem Publication.changesWithin {outcome : Except FileError Unit}
    (h : Publication here bs d outcome d') :
    ChangesWithin (stagingPlaces here bs ∪ finalPlaces here bs) d d' := by
  cases h with
  | unstaged split _ _ _ _ changes _ =>
      refine changes.mono ?_
      rintro l ⟨a, mem, rfl⟩
      exact .inl ⟨a, by simp [split, mem], rfl⟩
  | @broken before after b _ _ split _ _ _ changes _ _ =>
      refine changes.mono ?_
      rintro l ⟨a, mem, rfl⟩
      have hsub : before ++ [b] ⊆ bs := by simp [split]
      exact .inl ⟨a, hsub mem, rfl⟩
  | unfinished split _ _ _ _ changes _ _ =>
      refine changes.mono (Set.union_subset_union_right _ ?_)
      rintro l ⟨a, mem, rfl⟩
      exact ⟨a, by simp [split, mem], rfl⟩
  | published _ _ _ changes _ _ => exact changes

/-- **A publication that succeeds** has made its directory, and published its files there. -/
theorem exists_publication_of_publish (hbs : Publishable bs) {paths : List Path}
    (hrun : (publish directory bs : StateM Disk _) d = (.ok paths, d')) :
    ∃ d₁, MadeWay d directory (.ok ()) d₁ ∧
      Publication (d.destination directory) bs d₁ (.ok ()) d' ∧
        paths = bs.map (finalPath directory) := by
  obtain ⟨made, d₁, hmake, hmade⟩ := madeWay_makeDirectories directory d
  cases made with
  | error e =>
      rw [publish_of_make_error hmake] at hrun
      cases hrun
  | ok =>
      obtain ⟨outcome, d'', hrun', hend⟩ := publication_publish hbs hmake (hmade.enters rfl)
      rw [hrun] at hrun'
      cases outcome with
      | error e => cases hrun'
      | ok =>
          cases hrun'
          exact ⟨d₁, hmade, hend, rfl⟩

/-! ## In a directory that is there -/

/-- A publication on a disk is one on every disk with the same tree. -/
theorem Publication.congr_left {d₁ : Disk} (hsame : SameTree d d₁)
    (h : Publication here bs d₁ (.ok ()) d') : Publication here bs d (.ok ()) d' := by
  cases h with
  | published writable stageable free changes renamed gone =>
      refine .published writable (fun a mem => ?_) (fun a mem => ?_) ?_ renamed gone
      · rw [← hsame.get?]
        exact stageable a mem
      · rw [← hsame.get?]
        exact free a mem
      · simpa using hsame.changesWithin.trans changes

theorem publication_of_publish (hbs : Publishable bs) (hhere : d.enterPath directory = .ok here)
    {paths : List Path} (hrun : (publish directory bs : StateM Disk _) d = (.ok paths, d')) :
    Publication here bs d (.ok ()) d' := by
  obtain ⟨d₁, hmade, hpublished, -⟩ := exists_publication_of_publish hbs hrun
  rw [← (enterPath_eq_ok_iff.1 hhere).2] at hpublished
  exact hpublished.congr_left (hmade.sameTree hhere)

/-- **Without a directory in the way**, all files that can be written are published. -/
theorem exists_publish_of_enterPath (hbs : Publishable bs)
    (hhere : d.enterPath directory = .ok here) (writable : ∀ a ∈ bs, a.Writable)
    (stageable : ∀ a ∈ bs, d.get? (here ++ [a.stagingName]) ≠ some .directory)
    (free : ∀ a ∈ bs, d.get? (here ++ [a.fileName]) ≠ some .directory) :
    ∃ d', (publish directory bs : StateM Disk _) d = (.ok (bs.map (finalPath directory)), d') ∧
      Publication here bs d (.ok ()) d' := by
  obtain ⟨made, d₁, hmake, hmade⟩ := madeWay_makeDirectories directory d
  have hsame : SameTree d d₁ := hmade.sameTree hhere
  have hok : made = .ok () := by
    obtain ⟨⟨hnull, hway⟩, -⟩ := enterPath_eq_ok_iff.1 hhere
    refine hmade.succeeds.2 ⟨hnull, fun q mem bytes hfile => ?_⟩
    rw [hway q mem] at hfile
    cases hfile
  subst hok
  obtain ⟨d', hrun, hpublished⟩ := publication_of_free hbs hmake (hmade.changes.enter hhere)
    writable (fun a mem => by rw [hsame.get?]; exact stageable a mem)
    (fun a mem => by rw [hsame.get?]; exact free a mem)
  exact ⟨d', hrun, hpublished.congr_left hsame⟩

end Publish

/-! ## Repeating and joining publications -/

namespace Publication

variable {here : Location} {bs bs' : List (Buffer τ)} {d d₁ d₂ d' : Disk}

/-- **A publication determines the tree it leaves.** -/
theorem sameTree (h₁ : Publication here bs d (.ok ()) d₁) (h₂ : Publication here bs d (.ok ()) d₂) :
    SameTree d₁ d₂ := by
  cases h₁ with
  | published _ _ _ changes₁ renamed₁ gone₁ =>
    cases h₂ with
    | published _ _ _ changes₂ renamed₂ gone₂ =>
        refine ⟨changes₂.workingDirectory.trans changes₁.workingDirectory.symm, fun l => ?_⟩
        by_cases mem : l ∈ stagingPlaces here bs ∪ finalPlaces here bs
        · rcases mem with ⟨a, mem, rfl⟩ | ⟨a, mem, rfl⟩
          · rw [gone₂ a mem, gone₁ a mem]
          · rw [renamed₂ a mem, renamed₁ a mem]
        · rw [changes₂.get? l mem, changes₁.get? l mem]

/-- **All files can be written** in a publication that succeeds. -/
theorem writable (h : Publication here bs d (.ok ()) d') : ∀ a ∈ bs, a.Writable := by
  cases h with
  | published writable _ _ _ _ _ => exact writable

/-- **Nothing is in the way** of a publication that succeeds. -/
theorem unobstructed (h : Publication here bs d (.ok ()) d') :
    (∀ a ∈ bs, d.get? (here ++ [a.stagingName]) ≠ some .directory) ∧
      ∀ a ∈ bs, d.get? (here ++ [a.fileName]) ≠ some .directory := by
  cases h with
  | published _ stageable free _ _ _ => exact ⟨stageable, free⟩

/-- What has been published could be published again, and it is there already. -/
theorem again (h : Publication here bs d (.ok ()) d') : Publication here bs d' (.ok ()) d' := by
  cases h with
  | published writable _ _ _ renamed gone =>
      refine .published writable (fun a mem => ?_) (fun a mem => ?_) (.refl _ d') renamed gone
      · simp [gone a mem]
      · simp [renamed a mem, Buffer.contents]

/-- Only the members of the list matter. -/
theorem of_mem_iff (hmem : ∀ a, a ∈ bs' ↔ a ∈ bs) (h : Publication here bs d (.ok ()) d') :
    Publication here bs' d (.ok ()) d' := by
  have hstaging : stagingPlaces here bs' = stagingPlaces here bs := by
    simp only [stagingPlaces, hmem]
  have hfinal : finalPlaces here bs' = finalPlaces here bs := by
    simp only [finalPlaces, hmem]
  cases h with
  | published writable stageable free changes renamed gone =>
      refine .published (fun a mem => writable a ((hmem a).1 mem))
        (fun a mem => stageable a ((hmem a).1 mem)) (fun a mem => free a ((hmem a).1 mem)) ?_
        (fun a mem => renamed a ((hmem a).1 mem)) (fun a mem => gone a ((hmem a).1 mem))
      rwa [hstaging, hfinal]

/-- **Two publications in a row** are one publication of all files, if these can be published
together. -/
theorem append (hbs : Publishable (bs ++ bs')) (h : Publication here bs d (.ok ()) d₁)
    (h' : Publication here bs' d₁ (.ok ()) d₂) : Publication here (bs ++ bs') d (.ok ()) d₂ := by
  cases h with
  | published writable stageable free changes renamed gone =>
    cases h' with
    | published writable' stageable' free' changes' renamed' gone' =>
        -- The first publication loses no directory, so what the second one met was free before.
        refine .published (List.forall_mem_append.2 ⟨writable, writable'⟩) (fun a mem => ?_)
          (fun a mem => ?_) ?_ (fun a mem => ?_) (fun a mem => ?_)
        · rcases List.mem_append.1 mem with mem | mem
          · exact stageable a mem
          · exact fun hdirectory => stageable' a mem (changes.directory _ hdirectory)
        · rcases List.mem_append.1 mem with mem | mem
          · exact free a mem
          · exact fun hdirectory => free' a mem (changes.directory _ hdirectory)
        · refine (changes.trans changes').mono ?_
          rintro l ((⟨a, mem, rfl⟩ | ⟨a, mem, rfl⟩) | ⟨a, mem, rfl⟩ | ⟨a, mem, rfl⟩)
          · exact .inl ⟨a, by simp [mem], rfl⟩
          · exact .inr ⟨a, by simp [mem], rfl⟩
          · exact .inl ⟨a, by simp [mem], rfl⟩
          · exact .inr ⟨a, by simp [mem], rfl⟩
        · rcases List.mem_append.1 mem with mem | mem
          · rw [changes'.get? _ (notMem_places hbs mem).2, renamed a mem]
          · exact renamed' a mem
        · rcases List.mem_append.1 mem with mem | mem
          · rw [changes'.get? _ (notMem_places hbs mem).1, gone a mem]
          · exact gone' a mem

variable {directory : Path}

/-- **Publishing again** succeeds, and changes nothing. -/
theorem exists_again (hbs : Publishable bs) (h : Publication here bs d (.ok ()) d')
    (hhere : d.enterPath directory = .ok here) :
    ∃ d'', (publish directory bs : StateM Disk _) d' = (.ok (bs.map (finalPath directory)), d'') ∧
      SameTree d' d'' := by
  obtain ⟨stageable, free⟩ := h.again.unobstructed
  obtain ⟨d'', hrun, hagain⟩ :=
    exists_publish_of_enterPath hbs (h.changesWithin.enter hhere) h.writable stageable free
  exact ⟨d'', hrun, h.again.sameTree hagain⟩

/-- **Publishing other files afterwards** succeeds if it does without the first publication, and
both are one publication of all files then. -/
theorem exists_after (hbs : Publishable (bs ++ bs')) (h : Publication here bs d (.ok ()) d₁)
    (h' : Publication here bs' d (.ok ()) d₂) (hhere : d.enterPath directory = .ok here) :
    ∃ d', (publish directory bs' : StateM Disk _) d₁ =
        (.ok (bs'.map (finalPath directory)), d') ∧
      Publication here (bs ++ bs') d (.ok ()) d' := by
  have hswap : Publishable (bs' ++ bs) := hbs.perm List.perm_append_comm
  obtain ⟨stageable, free⟩ := h'.unobstructed
  obtain ⟨d', hrun, hsecond⟩ := exists_publish_of_enterPath
    (hbs.sublist (List.sublist_append_right bs bs')) (h.changesWithin.enter hhere) h'.writable
    (fun a mem => by
      rw [h.changesWithin.get? _ (notMem_places hswap mem).1]
      exact stageable a mem)
    (fun a mem => by
      rw [h.changesWithin.get? _ (notMem_places hswap mem).2]
      exact free a mem)
  exact ⟨d', hrun, append hbs h hsecond⟩

end Publication

end Disk

end ScriptBindings
