import ScriptBindings.Proofs.Generator.Run

/-!
# The pair of files after a failed run

A run publishes a header and an implementation, which are of use together only.  A run that fails
should leave both as they were.  This file says exactly when it does not.

* `Disk.Reveals` — making the output directory brings something into reach at a final path.  That
  takes a path like `missing/..`, which leads nowhere until `missing` is made.
* `Generator.HeaderAlone` — the implementation is a directory and nothing else is in the way: the
  new header is renamed into place, and the implementation cannot follow.
* `Generator.pair_kept_iff` — these are the only exceptions.

All conditions are about the disk before the run.
-/

namespace ScriptBindings

open Traversal

variable {τ : Type}

/-- The final path of the header of a source file. -/
def headerPath [Append τ] [Textual τ] (output : Path) (source : τ) : Path :=
  output.child (className source ++ ".h")

/-- The final path of the implementation of a source file. -/
def implementationPath [Append τ] [Textual τ] (output : Path) (source : τ) : Path :=
  output.child (className source ++ ".cpp")

namespace Disk

/-! ## Making the directory -/

/-- **Making the directory reveals a name**: the way to it is missing so far, and something is or
will be there. -/
structure Reveals (d : Disk) (p : Path) (name : String) : Prop where
  makeable : d.Makeable p
  missing : ∃ q ∈ d.way p, d.get? q = none
  occupied : d.place p name ∈ d.way p ∨ d.get? (d.place p name) ≠ none

/-- A way with something missing leads nowhere. -/
theorem at?_child_of_missing {d : Disk} {p : Path} {name : String} (hname : Path.IsComponent name)
    (hmissing : ∃ q ∈ d.way p, d.get? q ≠ some .directory) : d.at? (p.child name) = none := by
  cases henter : d.enterPath p with
  | error e => exact at?_child_of_enterPath_error hname henter
  | ok here =>
      obtain ⟨q, mem, hq⟩ := hmissing
      exact absurd ((enterPath_eq_ok_iff.1 henter).1.2 q mem) hq

/-- A path that the system does not take leads nowhere. -/
theorem at?_child_of_hasNull {p : Path} {name : String} (hname : Path.IsComponent name)
    (hnull : p.hasNull = true) (d : Disk) : d.at? (p.child name) = none := by
  cases henter : d.enterPath p with
  | error e => exact at?_child_of_enterPath_error hname henter
  | ok here =>
      rw [(enterPath_eq_ok_iff.1 henter).1.1] at hnull
      cases hnull

theorem at?_child {d : Disk} {p : Path} {name : String} (hname : Path.IsComponent name)
    (hnull : Path.NullFree name) (h : d.enterPath p = .ok (d.destination p)) :
    d.at? (p.child name) = d.get? (d.place p name) :=
  at?_child_of_enterPath hname hnull h

/-- **Making the directory changes what a path leads to** only by revealing it. -/
theorem MadeWay.at?_child_eq_iff {d d₁ : Disk} {p : Path} (h : MadeWay d p (.ok ()) d₁)
    {name : String} (hname : Path.IsComponent name) (hnull : Path.NullFree name) :
    d₁.get? (d.place p name) = d.at? (p.child name) ↔ ¬ d.Reveals p name := by
  have hmakeable : d.Makeable p := h.succeeds.1 rfl
  by_cases hmissing : ∃ q ∈ d.way p, d.get? q = none
  · have hnowhere : d.at? (p.child name) = none := by
      obtain ⟨q, mem, hq⟩ := hmissing
      exact at?_child_of_missing hname ⟨q, mem, by simp [hq]⟩
    rw [hnowhere]
    constructor
    · intro hnone hreveals
      rcases hreveals.occupied with mem | hsome
      · rw [h.get?_of_mem_way mem] at hnone
        cases hnone
      · exact hsome (h.get?_eq_none hnone)
    · intro hhidden
      by_contra hsome
      refine hhidden ⟨hmakeable, hmissing, ?_⟩
      by_cases mem : d.place p name ∈ d.way p
      · exact .inl mem
      · rw [h.get?_of_notMem_way mem] at hsome
        exact .inr hsome
  · have hthere := hmakeable.enterPath hmissing
    rw [at?_child hname hnull hthere]
    refine iff_of_true (h.changes.get? _ ?_) fun hreveals => hmissing hreveals.missing
    rintro ⟨mem, hnone⟩
    exact hmissing ⟨_, mem, hnone⟩

end Disk

namespace Generator

open Disk

/-! ## The exceptions -/

/-- **The header alone is published**: the implementation is a directory, the header and the two
staging paths are not, and the header is not the new one already. -/
structure HeaderAlone [Append τ] [Textual τ] (d : Disk) (output : Path)
    (header implementation : Buffer τ) : Prop where
  makeable : d.Makeable output
  blocked : d.BecomesDirectory output (d.place output implementation.fileName)
  free : ¬ d.BecomesDirectory output (d.place output header.fileName)
  headerStaged : ¬ d.BecomesDirectory output (d.place output header.stagingName)
  implementationStaged : ¬ d.BecomesDirectory output (d.place output implementation.stagingName)
  changed : d.get? (d.place output header.fileName) ≠ some header.contents

/-- **The pair is torn**: there is a pair to publish, and one of the exceptions applies to it. -/
def Torn [Append τ] [Textual τ] (g : Generator τ) (output : Path) (source : τ) (blob : Path)
    (d : Disk) : Prop :=
  ∃ header implementation, g.pair source (d.readFile blob) = .ok (some [header, implementation]) ∧
    (d.Reveals output header.fileName ∨ d.Reveals output implementation.fileName ∨
      HeaderAlone d output header implementation)

/-! ## A failed publication of the pair -/

section Failed

variable {output : Path} {header implementation : Buffer τ} {d d₁ d' : Disk}

/-- Both final paths lead to what they led to before. -/
def Kept (output : Path) (header implementation : Buffer τ) (d d' : Disk) : Prop :=
  d'.at? (finalPath output header) = d.at? (finalPath output header) ∧
    d'.at? (finalPath output implementation) = d.at? (finalPath output implementation)

/-- A plain file on the way keeps the whole directory out of reach, as does a path that the system
does not take. -/
theorem kept_of_make_error (hpair : Publishable [header, implementation]) {e : FileError}
    (hmade : MadeWay d output (.error e) d₁) : Kept output header implementation d d₁ := by
  have hnowhere : ∀ b ∈ [header, implementation],
      d₁.at? (finalPath output b) = d.at? (finalPath output b) := by
    intro b hb
    have hname := hpair.component b hb
    cases hnull : output.hasNull with
    | true => rw [finalPath, at?_child_of_hasNull hname hnull, at?_child_of_hasNull hname hnull]
    | false =>
        obtain ⟨q, mem, bytes, hq⟩ :
            ∃ q ∈ d.way output, ∃ bytes, d.get? q = some (.file bytes) := by
          by_contra hnone
          have hok : (Except.error e : Except FileError Unit) = .ok () :=
            hmade.succeeds.2 ⟨hnull, fun q mem bytes hq => hnone ⟨q, mem, bytes, hq⟩⟩
          cases hok
        have hbefore : ∃ q ∈ d.way output, d.get? q ≠ some .directory := ⟨q, mem, by simp [hq]⟩
        have hafter : ∃ q ∈ d₁.way output, d₁.get? q ≠ some .directory := by
          refine ⟨q, ?_, by simp [hmade.get?_eq_file_iff.2 hq]⟩
          rwa [hmade.changes.way output]
        rw [finalPath, at?_child_of_missing hname hafter, at?_child_of_missing hname hbefore]
  exact ⟨hnowhere header (by simp), hnowhere implementation (by simp)⟩

/-- After a change in the directory, a final path leads to its place. -/
theorem at?_finalPath {places : Set Location} (hmade : MadeWay d output (.ok ()) d₁)
    (hchanges : ChangesWithin places d₁ d') {b : Buffer τ} (hb : Path.IsComponent b.fileName)
    (hnull : Path.NullFree b.fileName) :
    d'.at? (finalPath output b) = d'.get? (d.place output b.fileName) :=
  at?_child_of_enterPath hb hnull (hchanges.enter (hmade.enters rfl))

/-- Final places that nobody touches keep what the making of the directory left there. -/
theorem kept_iff_of_changes {places : Set Location} (hpair : Publishable [header, implementation])
    (hnull : ∀ b ∈ [header, implementation], Path.NullFree b.fileName)
    (hmade : MadeWay d output (.ok ()) d₁) (hchanges : ChangesWithin places d₁ d')
    (hfree : ∀ b ∈ [header, implementation], d.place output b.fileName ∉ places) :
    Kept output header implementation d d' ↔
      ¬ d.Reveals output header.fileName ∧ ¬ d.Reveals output implementation.fileName := by
  have hkept : ∀ b ∈ [header, implementation],
      d'.at? (finalPath output b) = d.at? (finalPath output b) ↔ ¬ d.Reveals output b.fileName := by
    intro b mem
    have hb := hpair.component b mem
    rw [at?_finalPath hmade hchanges hb (hnull b mem), hchanges.get? _ (hfree b mem)]
    exact hmade.at?_child_eq_iff hb (hnull b mem)
  exact and_congr (hkept header (by simp)) (hkept implementation (by simp))

variable [Append τ] [Textual τ]

/-- **The header alone** when the implementation is in the way. -/
theorem kept_iff_of_header_renamed {places : Set Location}
    (hpair : Publishable [header, implementation])
    (hnull : ∀ b ∈ [header, implementation], Path.NullFree b.fileName)
    (hmade : MadeWay d output (.ok ()) d₁)
    (hchanges : ChangesWithin places d₁ d')
    (hfree : d.place output implementation.fileName ∉ places)
    (hrenamed : d'.get? (d.place output header.fileName) = some header.contents) :
    Kept output header implementation d d' ↔
      ¬ (d.Reveals output header.fileName ∨ d.Reveals output implementation.fileName ∨
        d.get? (d.place output header.fileName) ≠ some header.contents) := by
  have hmakeable : d.Makeable output := hmade.succeeds.1 rfl
  have hh := hpair.component header (by simp)
  have hi := hpair.component implementation (by simp)
  have hhNull := hnull header (by simp)
  have hiNull := hnull implementation (by simp)
  rw [Kept, at?_finalPath hmade hchanges hh hhNull, at?_finalPath hmade hchanges hi hiNull,
    hrenamed, hchanges.get? _ hfree]
  by_cases hmissing : ∃ q ∈ d.way output, d.get? q = none
  -- If the directory was missing, the new header stands where nothing could be found.
  · have hnowhere : d.at? (finalPath output header) = none := by
      obtain ⟨q, mem, hq⟩ := hmissing
      exact at?_child_of_missing hh ⟨q, mem, by simp [hq]⟩
    rw [hnowhere]
    refine iff_of_false (by simp) fun hnot => hnot ?_
    by_cases hsame : d.get? (d.place output header.fileName) = some header.contents
    · exact .inl ⟨hmakeable, hmissing, .inr (by simp [hsame])⟩
    · exact .inr (.inr hsame)
  · have hthere : d.at? (finalPath output header) = d.get? (d.place output header.fileName) :=
      at?_child hh hhNull (hmakeable.enterPath hmissing)
    have hhidden (name : String) : ¬ d.Reveals output name := fun h => hmissing h.missing
    rw [hthere]
    have himplementation := (hmade.at?_child_eq_iff hi hiNull).2 (hhidden _)
    simp only [hhidden, false_or, ne_eq, not_not]
    rw [eq_comm]
    exact and_iff_left himplementation

/-- A directory at a staging place stops the publication before anything is renamed. -/
theorem kept_iff_of_staging_taken (hpair : Publishable [header, implementation])
    (hnull : ∀ b ∈ [header, implementation], Path.NullFree b.fileName)
    (hmade : MadeWay d output (.ok ()) d₁) {before after : List (Buffer τ)} {b : Buffer τ}
    (split : [header, implementation] = before ++ b :: after)
    (taken : d₁.get? (d.place output b.stagingName) = some .directory)
    (changes : ChangesWithin
      (stagingPlaces (d.destination output) before) d₁ d') :
    Kept output header implementation d d' ↔
      ¬ (d.Reveals output header.fileName ∨ d.Reveals output implementation.fileName ∨
        HeaderAlone d output header implementation) := by
  have hnotAlone : ¬ HeaderAlone d output header implementation := by
    intro halone
    have hb : b ∈ [header, implementation] := by simp [split]
    have hdirectory := hmade.get?_eq_directory_iff.1 taken
    rcases List.mem_pair.1 hb with rfl | rfl
    · exact halone.headerStaged hdirectory
    · exact halone.implementationStaged hdirectory
  have hfree : ∀ b ∈ [header, implementation], d.place output b.fileName ∉
      stagingPlaces (d.destination output) before := by
    rintro b mem ⟨a, ha, heq⟩
    exact final_notMem_stagingPlaces hpair mem _ ⟨a, by simp [split, ha], heq⟩
  rw [kept_iff_of_changes hpair hnull hmade changes hfree]
  simp [hnotAlone, not_or]

/-- A directory at the final place of the header stops the publication with nothing renamed. -/
theorem kept_iff_of_header_taken (hpair : Publishable [header, implementation])
    (hnull : ∀ b ∈ [header, implementation], Path.NullFree b.fileName)
    (hmade : MadeWay d output (.ok ()) d₁)
    (taken : d₁.get? (d.place output header.fileName) = some .directory)
    (changes : ChangesWithin
      (stagingPlaces (d.destination output) [header, implementation] ∪
        finalPlaces (d.destination output) ([] : List (Buffer τ))) d₁ d') :
    Kept output header implementation d d' ↔
      ¬ (d.Reveals output header.fileName ∨ d.Reveals output implementation.fileName ∨
        HeaderAlone d output header implementation) := by
  have hnotAlone : ¬ HeaderAlone d output header implementation := fun halone =>
    halone.free (hmade.get?_eq_directory_iff.1 taken)
  have hfree : ∀ b ∈ [header, implementation], d.place output b.fileName ∉
      stagingPlaces (d.destination output) [header, implementation] ∪
        finalPlaces (d.destination output) ([] : List (Buffer τ)) := by
    rintro b mem (hstaging | ⟨_, hnil, -⟩)
    · exact final_notMem_stagingPlaces hpair mem _ hstaging
    · cases hnil
  rw [kept_iff_of_changes hpair hnull hmade changes hfree]
  simp [hnotAlone, not_or]

/-- A directory at the final place of the implementation stops the publication too late. -/
theorem kept_iff_of_implementation_taken (hpair : Publishable [header, implementation])
    (hnull : ∀ b ∈ [header, implementation], Path.NullFree b.fileName)
    (hmade : MadeWay d output (.ok ()) d₁)
    (stageable : ∀ a ∈ [header, implementation],
      d₁.get? (d.place output a.stagingName) ≠ some .directory)
    (free : d₁.get? (d.place output header.fileName) ≠ some .directory)
    (taken : d₁.get? (d.place output implementation.fileName) = some .directory)
    (changes : ChangesWithin
      (stagingPlaces (d.destination output) [header, implementation] ∪
        finalPlaces (d.destination output) [header]) d₁ d')
    (renamed : d'.get? (d.place output header.fileName) = some header.contents) :
    Kept output header implementation d d' ↔
      ¬ (d.Reveals output header.fileName ∨ d.Reveals output implementation.fileName ∨
        HeaderAlone d output header implementation) := by
  have hfree : d.place output implementation.fileName ∉
      stagingPlaces (d.destination output) [header, implementation] ∪
        finalPlaces (d.destination output) [header] := by
    rintro (hstaging | ⟨a, ha, heq⟩)
    · exact final_notMem_stagingPlaces hpair (by simp) _ hstaging
    · obtain rfl := List.mem_singleton.1 ha
      exact hpair.ne_head implementation (by simp) (by simpa [place] using heq.symm)
  have halone : HeaderAlone d output header implementation ↔
      d.get? (d.place output header.fileName) ≠ some header.contents := by
    constructor
    · intro h
      exact h.changed
    · intro hchanged
      exact {
        makeable := hmade.succeeds.1 rfl
        blocked := hmade.get?_eq_directory_iff.1 taken
        free := fun h => free (hmade.get?_eq_directory_iff.2 h)
        headerStaged := fun h => stageable header (by simp) (hmade.get?_eq_directory_iff.2 h)
        implementationStaged := fun h =>
          stageable implementation (by simp) (hmade.get?_eq_directory_iff.2 h)
        changed := hchanged }
  rw [halone]
  exact kept_iff_of_header_renamed hpair hnull hmade changes hfree renamed

/-- **A publication in which the system fails** keeps the pair unless one of the exceptions
applies. -/
theorem kept_iff_of_publish_error (hpair : Publishable [header, implementation])
    (hnull : ∀ b ∈ [header, implementation], Path.NullFree b.fileName) {e : FileError}
    (hsystem : e.ofSystem = true)
    (hpublish : (publish output [header, implementation] : StateM Disk _) d = (.error e, d')) :
    Kept output header implementation d d' ↔
      ¬ (d.Reveals output header.fileName ∨ d.Reveals output implementation.fileName ∨
        HeaderAlone d output header implementation) := by
  obtain ⟨made, d₁, hmake, hmade⟩ := madeWay_makeDirectories output d
  cases made with
  | error e' =>
      rw [publish_of_make_error hmake] at hpublish
      cases hpublish
      have hblocked : ¬ d.Makeable output := by
        intro h
        cases hmade.succeeds.2 h
      refine iff_of_true (kept_of_make_error hpair hmade) ?_
      rintro (h | h | h) <;> exact hblocked h.makeable
  | ok =>
      obtain ⟨outcome, d'', hrun, hend⟩ := publication_publish hpair hmake (hmade.enters rfl)
      rw [hpublish] at hrun
      cases hend with
      | published => cases hrun
      | unstaged split _ _ _ taken changes _ =>
          cases hrun
          exact kept_iff_of_staging_taken hpair hnull hmade split taken changes
      | broken _ _ _ other =>
          cases hrun
          rw [other] at hsystem
          cases hsystem
      | @unfinished before after b _ split _ stageable free taken changes renamed _ =>
          cases hrun
          -- What is in the way is the first file of the pair or the second one.
          cases before with
          | nil =>
              obtain ⟨rfl, -⟩ := List.cons.inj split
              exact kept_iff_of_header_taken hpair hnull hmade taken changes
          | cons first before =>
              obtain ⟨rfl, hrest⟩ := List.cons.inj split
              obtain ⟨rfl, rfl, rfl⟩ : before = [] ∧ b = implementation ∧ after = [] := by
                cases before with
                | nil => simpa [eq_comm] using hrest
                | cons second before => simp at hrest
              exact kept_iff_of_implementation_taken hpair hnull hmade stageable
                (free header (by simp)) taken changes (renamed header (by simp))

end Failed

variable [Append τ] [Textual τ]

/-- **When a failed run keeps the pair.**  A run in which the system cannot read the compiled script
or cannot write the files leaves at both final paths what was there, unless making the output
directory reveals something there or the header alone is published. -/
theorem pair_kept_iff {g : Generator τ} {output : Path} {source : τ} {blob : Path} {d : Disk}
    (failed : ((g.run output source blob : StateM Disk _) d).1.2 = .ok .unreadableBlob ∨
      ∃ e : FileError, e.ofSystem = true ∧
        ((g.run output source blob : StateM Disk _) d).1.2 = .error (.file e)) :
    (((g.run output source blob : StateM Disk _) d).2.at? (headerPath output source) =
        d.at? (headerPath output source) ∧
      ((g.run output source blob : StateM Disk _) d).2.at? (implementationPath output source) =
        d.at? (implementationPath output source)) ↔ ¬ g.Torn output source blob d := by
  have hran := g.ran_run output source blob d
  generalize ((g.run output source blob : StateM Disk _) d).1.2 = outcome at failed hran
  generalize ((g.run output source blob : StateM Disk _) d).2 = d' at hran
  cases hran with
  | faulty fault => simp at failed
  | published => simp at failed
  | unusable hblob hother => simp [hother] at failed
  | unreadable hblob hsystem =>
      refine iff_of_true ⟨rfl, rfl⟩ ?_
      rintro ⟨header, implementation, hpair, -⟩
      obtain ⟨_, _, _, hok, -⟩ := pair_eq_some_iff.1 hpair
      rw [hblob] at hok
      cases hok
  | @failed header implementation bytes e _ hblob hheader himplementation hpublish =>
      have hh : header.fileName = ScriptBindings.className source ++ ".h" :=
        Header.fileName_of_generate hheader
      have hi : implementation.fileName = ScriptBindings.className source ++ ".cpp" :=
        Implementation.fileName_of_generate himplementation
      have hpair : g.pair source (d.readFile blob) = .ok (some [header, implementation]) := by
        rw [pair_eq_ok_iff]
        exact ⟨header, hheader, .inr ⟨bytes, implementation, hblob, himplementation, rfl⟩⟩
      have hsystem : e.ofSystem = true := by simpa using failed
      have hnull : ∀ b ∈ [header, implementation], Path.NullFree b.fileName :=
        nullFree_pair hh hi
      have hkept := kept_iff_of_publish_error (publishable_pair hh hi) hnull hsystem hpublish
      rw [Kept, finalPath, finalPath, hh, hi] at hkept
      rw [headerPath, implementationPath, hkept, not_iff_not]
      constructor
      · intro h
        exact ⟨header, implementation, hpair, by rwa [hh, hi]⟩
      · rintro ⟨header', implementation', hpair', h⟩
        rw [hpair] at hpair'
        obtain ⟨rfl, rfl⟩ : header = header' ∧ implementation = implementation' := by
          simpa using hpair'
        rwa [hh, hi] at h

/-- A disk on which a directory is where the implementation of a script `s` goes. -/
def blockedDisk : Disk where
  entries := [(["out"], .directory), (["out", "ScriptC_s.cpp"], .directory), (["b"], .file [])]

/-- A run on this disk, for a script that exports nothing. -/
def blockedRun : (Generator × Except Failure Outcome) × Disk :=
  (Generator.run { surface := {} } ⟨"", ["out"]⟩ "s.rs" ⟨"", ["b"]⟩ : StateM Disk _) blockedDisk

theorem pair_kept_iff_blocked :
    blockedRun.1.2 = .error (.file .isDirectory) ∧
      ((blockedRun.2.at? (headerPath ⟨"", ["out"]⟩ "s.rs") =
            blockedDisk.at? (headerPath ⟨"", ["out"]⟩ "s.rs") ∧
          blockedRun.2.at? (implementationPath ⟨"", ["out"]⟩ "s.rs") =
            blockedDisk.at? (implementationPath ⟨"", ["out"]⟩ "s.rs")) ↔
        ¬ Torn { surface := {} } ⟨"", ["out"]⟩ "s.rs" ⟨"", ["b"]⟩ blockedDisk) := by
  have hrun : blockedRun.1.2 = .error (.file .isDirectory) := rfl
  exact ⟨hrun, pair_kept_iff (.inr ⟨.isDirectory, rfl, hrun⟩)⟩

/-- On this disk the run fails, and the header is published all the same. -/
theorem not_pair_kept_blocked :
    ¬ ∀ (g : Generator) (output : Path) (source : String) (blob : Path) (d : Disk),
      (((g.run output source blob : StateM Disk _) d).1.2 = .ok .unreadableBlob ∨
        ∃ e : FileError, e.ofSystem = true ∧
          ((g.run output source blob : StateM Disk _) d).1.2 = .error (.file e)) →
      ((g.run output source blob : StateM Disk _) d).2.at? (headerPath output source) =
          d.at? (headerPath output source) ∧
        ((g.run output source blob : StateM Disk _) d).2.at? (implementationPath output source) =
          d.at? (implementationPath output source) := by
  intro h
  have hrun : blockedRun.1.2 = .error (.file .isDirectory) := rfl
  have hafter : (blockedRun.2.at? (headerPath ⟨"", ["out"]⟩ "s.rs")).isSome = true := rfl
  have hbefore : (blockedDisk.at? (headerPath ⟨"", ["out"]⟩ "s.rs")).isSome = false := rfl
  have hkept : blockedRun.2.at? (headerPath ⟨"", ["out"]⟩ "s.rs") =
      blockedDisk.at? (headerPath ⟨"", ["out"]⟩ "s.rs") :=
    (h { surface := {} } ⟨"", ["out"]⟩ "s.rs" ⟨"", ["b"]⟩ blockedDisk
      (.inr ⟨.isDirectory, rfl, hrun⟩)).1
  rw [hkept, hbefore] at hafter
  cases hafter

end Generator

end ScriptBindings
