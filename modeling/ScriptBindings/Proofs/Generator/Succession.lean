import ScriptBindings.Proofs.Generator.Confinement

/-!
# Runs that follow one another

A run finds the files of the runs before it.  This file says when that makes no difference to what
it does.

* `Generator.run_eq_published_iff` — a run that publishes generates its pair and publishes it.
* `Generator.run_again` — the same run once more changes nothing.
* `Generator.Call.on_comm` — runs for different classes can be exchanged.

### What is load-bearing

A run reads the compiled script and writes the places of its source file, and nothing else of it
depends on the disk.  As long as the script is none of the places that are written, a run sees of
the runs before it whether a directory is in its way, and these make none there.
-/

namespace ScriptBindings

open Traversal

variable {τ : Type} [Append τ] [Textual τ]

/-! ## The files of different classes -/

/-- **Files of different classes** have different names. -/
theorem disjoint_generatedNames {source source' : τ}
    (hne : className source ≠ className source') :
    (generatedNames source).Disjoint (generatedNames source') := by
  -- A header and an implementation differ in the last character.
  have hsuffix (s s' : String) : s ++ ".h" ≠ s' ++ ".cpp" := by
    intro heq
    have hlast := congrArg (fun s => s.toList.getLast?) heq
    simp [String.toList_append] at hlast
  intro name mem mem'
  simp only [generatedNames, List.mem_cons, List.not_mem_nil, or_false] at mem mem'
  rcases mem with rfl | rfl <;> rcases mem' with heq | heq
  · exact hne ((String.append_left_inj _).1 heq)
  · exact hsuffix _ _ heq
  · exact hsuffix _ _ heq.symm
  · exact hne ((String.append_left_inj _).1 heq)

/-- No generated name is a hidden one: it does not begin with a dot. -/
theorem ne_stagingName_of_mem_generatedNames {source : τ} {name : String}
    (mem : name ∈ generatedNames source) (b : Buffer τ) : name ≠ b.stagingName := by
  rintro rfl
  simp only [generatedNames, List.mem_cons, List.not_mem_nil, or_false] at mem
  rcases mem with heq | heq
  all_goals
    have hfirst := congrArg (fun s => s.toList.head?) heq
    simp [Buffer.stagingName, className, String.toList_append] at hfirst

/-- **The pairs of different classes** can be published together. -/
theorem IsPair.publishable_append {source source' : τ} {bs bs' : List (Buffer τ)}
    (h : IsPair source bs) (h' : IsPair source' bs') (hne : className source ≠ className source') :
    Publishable (bs ++ bs') := by
  have hname : ∀ b ∈ bs, b.fileName ∈ generatedNames source := fun b mem =>
    h.map_fileName ▸ List.mem_map_of_mem mem
  have hname' : ∀ b ∈ bs', b.fileName ∈ generatedNames source' := fun b mem =>
    h'.map_fileName ▸ List.mem_map_of_mem mem
  refine ⟨?_, List.pairwise_append.2 ⟨h.publishable.distinct, h'.publishable.distinct, ?_⟩, ?_⟩
  · exact List.forall_mem_append.2 ⟨h.publishable.component, h'.publishable.component⟩
  · intro a mem b mem' heq
    exact disjoint_generatedNames hne (hname a mem) (heq ▸ hname' b mem')
  · intro a mem b _
    rcases List.mem_append.1 mem with mem | mem
    · exact ne_stagingName_of_mem_generatedNames (hname a mem) b
    · exact ne_stagingName_of_mem_generatedNames (hname' a mem) b

namespace Generator

open Disk

variable {g g' : Generator τ} {output : Path} {source : τ} {blob : Path} {d d' : Disk}

/-! ## Runs that publish -/

/-- **A run that publishes** generates the pair of its source file and publishes it. -/
theorem run_eq_published_iff :
    (g.run output source blob : StateM Disk _) d = ((g', .ok .published), d') ↔
      ∃ bs paths, g.pair source (d.readFile blob) = .ok (some bs) ∧
        (publish output bs : StateM Disk _) d = (.ok paths, d') ∧
          g' = { g.named source with outputs := paths } := by
  constructor
  · intro h
    rw [run_run] at h
    cases hpair : g.pair source (d.readFile blob) with
    | error fault =>
        rw [hpair] at h
        cases h
    | ok bs? =>
        rw [hpair] at h
        cases bs? with
        | none => cases h
        | some bs =>
            dsimp only at h
            cases hpublish : (publish output bs : StateM Disk _) d with
            | mk result d'' =>
                rw [hpublish] at h
                cases result with
                | error e => cases h
                | ok paths =>
                    cases h
                    exact ⟨bs, paths, rfl, hpublish, rfl⟩
  · rintro ⟨bs, paths, hpair, hpublish, rfl⟩
    rw [run_run, hpair]
    dsimp only
    rw [hpublish]

/-- A pair takes a compiled script that can be read. -/
theorem exists_bytes_of_pair {blob : Except FileError (List UInt8)} {bs : List (Buffer τ)}
    (h : g.pair source blob = .ok (some bs)) : ∃ bytes, blob = .ok bytes := by
  obtain ⟨bytes, _, _, hblob, -⟩ := pair_eq_some_iff.1 h
  exact ⟨bytes, hblob⟩

/-- **The pair is generated again** after changes that leave the compiled script alone. -/
theorem pair_of_changesWithin {places : Set Location} (hchanges : ChangesWithin places d d')
    {bs : List (Buffer τ)} (hpair : g.pair source (d.readFile blob) = .ok (some bs))
    (notMem : d.destination blob ∉ places) :
    g.pair source (d'.readFile blob) = .ok (some bs) := by
  obtain ⟨bytes, hread⟩ := exists_bytes_of_pair hpair
  rwa [hchanges.readFile hread notMem, ← hread]

/-! ## The same run once more -/

/-- **What a generator is made of**, without a trace of its runs. -/
def fresh (g : Generator τ) : Generator τ :=
  { surface := g.surface, base := g.base }

/-- The pair depends on what the generator is made of. -/
theorem pair_fresh (g : Generator τ) (source : τ) (blob : Except FileError (List UInt8)) :
    g.fresh.pair source blob = g.pair source blob :=
  rfl

/-- **The pair is generated again** after its publication, if it has not taken the place of the
compiled script. -/
theorem pair_of_publication {bs : List (Buffer τ)} {d₁ : Disk}
    (hmade : MadeWay d output (.ok ()) d₁)
    (hpublished : Publication (d.destination output) bs d₁ (.ok ()) d')
    (hpair : g.pair source (d.readFile blob) = .ok (some bs))
    (apart : d.destination blob ∉ generatedPlaces (d.destination output) source) :
    g.pair source (d'.readFile blob) = .ok (some bs) := by
  -- Making the directory keeps the compiled script, as that is there already.
  have hpair₁ : g.pair source (d₁.readFile blob) = .ok (some bs) := by
    refine pair_of_changesWithin hmade.changes hpair fun ⟨_, hnone⟩ => ?_
    obtain ⟨bytes, hread⟩ := exists_bytes_of_pair hpair
    rw [get?_destination_of_readFile hread] at hnone
    cases hnone
  refine pair_of_changesWithin hpublished.changesWithin hpair₁ fun mem => apart ?_
  rw [hmade.changes.destination] at mem
  exact (isPair_of_pair hpair).mem_places_iff.1 mem

/-- **The same run once more**, by the same generator or by one that is made of the same, publishes
again and changes nothing.  The output directory may have been made by the first run, and the path
to it may lead up and down; all that matters is that the compiled script is none of the files that
are written. -/
theorem run_again (first : (g.run output source blob : StateM Disk _) d =
      ((g', .ok .published), d'))
    (apart : d.destination blob ∉ generatedPlaces (d.destination output) source) :
    g'.fresh = g.fresh ∧ ∃ d'', SameTree d' d'' ∧
      (∀ name ∈ hiddenNames source, d''.get? (d.place output name) = none) ∧
        ∀ h : Generator τ, h.fresh = g.fresh →
          (h.run output source blob : StateM Disk _) d' = ((g', .ok .published), d'') := by
  obtain ⟨bs, paths, hpair, hpublish, rfl⟩ := run_eq_published_iff.1 first
  have hbs : IsPair source bs := isPair_of_pair hpair
  obtain ⟨d₁, hmade, hpublished, rfl⟩ := exists_publication_of_publish hbs.publishable hpublish
  have hpair' : g.pair source (d'.readFile blob) = .ok (some bs) :=
    pair_of_publication hmade hpublished hpair apart
  obtain ⟨d'', hrun, hsame⟩ := hpublished.exists_again hbs.publishable (hmade.enters rfl)
  refine ⟨rfl, d'', hsame, ?_, fun h hfresh => ?_⟩
  · intro name mem
    rw [← hbs.map_stagingName] at mem
    obtain ⟨b, hb, rfl⟩ := List.mem_map.1 mem
    rw [hsame.get?]
    cases hpublished with
    | published _ _ _ _ _ gone => exact gone b hb
  · obtain ⟨hsurface, hbase⟩ : h.surface = g.surface ∧ h.base = g.base := by
      simpa [fresh] using hfresh
    refine run_eq_published_iff.2 ⟨bs, _, ?_, hrun, ?_⟩
    · rw [← h.pair_fresh, hfresh, g.pair_fresh, hpair']
    · rw [named, named, hsurface, hbase]

/-- A disk with a compiled script, and no output directory yet. -/
def looseDisk : Disk where
  entries := [(["b"], .file [7, 8])]

/-- A run on this disk whose output path leads down, up and down again. -/
def looseRun : (Generator × Except Failure Outcome) × Disk :=
  (Generator.run { surface := {} } ⟨"", ["tmp", "..", "out"]⟩ "s.rs" ⟨"", ["b"]⟩ : StateM Disk _)
    looseDisk

theorem run_again_loose :
    looseRun.1.2 = .ok .published ∧ ∃ d'', SameTree looseRun.2 d'' ∧
      ((looseRun.1.1.run ⟨"", ["tmp", "..", "out"]⟩ "s.rs" ⟨"", ["b"]⟩ : StateM Disk _)
        looseRun.2) = ((looseRun.1.1, .ok .published), d'') := by
  have first : (Generator.run { surface := {} } ⟨"", ["tmp", "..", "out"]⟩ "s.rs" ⟨"", ["b"]⟩ :
      StateM Disk _) looseDisk = ((looseRun.1.1, .ok .published), looseRun.2) := rfl
  have apart : looseDisk.destination ⟨"", ["b"]⟩ ∉
      generatedPlaces (looseDisk.destination ⟨"", ["tmp", "..", "out"]⟩) "s.rs" := by decide
  obtain ⟨hfresh, d'', hsame, -, hagain⟩ := run_again first apart
  exact ⟨rfl, d'', hsame, hagain _ hfresh⟩

/-! ## Runs for different classes -/

/-- **A call of a generator**, with its arguments. -/
structure Call (τ : Type := String) [Append τ] [Textual τ] where
  generator : Generator τ
  output : Path
  source : τ
  blob : Path

namespace Call

/-- **A call on a disk**: how it ends, and the disk it leaves. -/
def on (c : Call τ) (d : Disk) : Except Failure Outcome × Disk :=
  let result := (c.generator.run c.output c.source c.blob : StateM Disk _) d
  (result.1.2, result.2)

variable {c c' : Call τ} {here : Location} {d d' d₁ d₂ : Disk}

theorem on_eq_published_iff :
    c.on d = (.ok .published, d') ↔
      ∃ bs paths, c.generator.pair c.source (d.readFile c.blob) = .ok (some bs) ∧
        (publish c.output bs : StateM Disk _) d = (.ok paths, d') := by
  constructor
  · intro h
    cases hrun : (c.generator.run c.output c.source c.blob : StateM Disk _) d with
    | mk result d'' =>
        obtain ⟨g', outcome⟩ := result
        rw [on, hrun] at h
        cases h
        obtain ⟨bs, paths, hpair, hpublish, -⟩ := run_eq_published_iff.1 hrun
        exact ⟨bs, paths, hpair, hpublish⟩
  · rintro ⟨bs, paths, hpair, hpublish⟩
    rw [on, run_eq_published_iff.2 ⟨bs, paths, hpair, hpublish, rfl⟩]

/-- **A call that publishes files** in a directory that is there. -/
structure Publishes (c : Call τ) (here : Location) (bs : List (Buffer τ)) (d d' : Disk) : Prop where
  enters : d.enterPath c.output = .ok here
  pair : c.generator.pair c.source (d.readFile c.blob) = .ok (some bs)
  publication : Publication here bs d (.ok ()) d'

namespace Publishes

variable {bs bs' : List (Buffer τ)}

theorem isPair (h : c.Publishes here bs d d') : IsPair c.source bs :=
  isPair_of_pair h.pair

theorem exists_of_on (hhere : d.enterPath c.output = .ok here)
    (h : c.on d = (.ok .published, d')) : ∃ bs, c.Publishes here bs d d' := by
  obtain ⟨bs, paths, hpair, hpublish⟩ := on_eq_published_iff.1 h
  exact ⟨bs, hhere, hpair, publication_of_publish (isPair_of_pair hpair).publishable hhere hpublish⟩

/-- **A call after one for another class** publishes what it would publish alone, and both together
are one publication of all files. -/
theorem exists_on_after (h : c.Publishes here bs d d₁) (h' : c'.Publishes here bs' d d₂)
    (hclass : ScriptBindings.className c.source ≠ ScriptBindings.className c'.source)
    (apart : d.destination c'.blob ∉ generatedPlaces here c.source) :
    ∃ d', c'.on d₁ = (.ok .published, d') ∧ Publication here (bs ++ bs') d (.ok ()) d' := by
  have hbs : Publishable (bs ++ bs') := h.isPair.publishable_append h'.isPair hclass
  obtain ⟨d', hrun, hboth⟩ := h.publication.exists_after hbs h'.publication h'.enters
  refine ⟨d', on_eq_published_iff.2 ⟨bs', _, ?_, hrun⟩, hboth⟩
  exact pair_of_changesWithin h.publication.changesWithin h'.pair fun mem =>
    apart (h.isPair.mem_places_iff.1 mem)

end Publishes

/-- **Calls for different classes can be exchanged.**  If each of them publishes alone, in a
directory that is there, and writes no file that the other reads, then both publish one after the
other, and the order makes no difference to the tree. -/
theorem on_comm (hhere : d.enterPath c.output = .ok here)
    (hhere' : d.enterPath c'.output = .ok here)
    (hclass : ScriptBindings.className c.source ≠ ScriptBindings.className c'.source)
    (apart : d.destination c.blob ∉ generatedPlaces here c'.source)
    (apart' : d.destination c'.blob ∉ generatedPlaces here c.source)
    (alone : c.on d = (.ok .published, d₁)) (alone' : c'.on d = (.ok .published, d₂)) :
    ∃ d₁₂ d₂₁, c'.on d₁ = (.ok .published, d₁₂) ∧ c.on d₂ = (.ok .published, d₂₁) ∧
      SameTree d₁₂ d₂₁ := by
  obtain ⟨bs, h⟩ := Publishes.exists_of_on hhere alone
  obtain ⟨bs', h'⟩ := Publishes.exists_of_on hhere' alone'
  obtain ⟨d₁₂, hrun, hboth⟩ := h.exists_on_after h' hclass apart'
  obtain ⟨d₂₁, hrun', hboth'⟩ := h'.exists_on_after h hclass.symm apart
  have hswap : Publication here (bs ++ bs') d (.ok ()) d₂₁ :=
    hboth'.of_mem_iff fun a => by simp [or_comm]
  exact ⟨d₁₂, d₂₁, hrun, hrun', hboth.sameTree hswap⟩

/-- A disk with two compiled scripts and an output directory. -/
def sharedDisk : Disk where
  entries := [(["out"], .directory), (["blur.bc"], .file [1]), (["fade.bc"], .file [])]

/-- A call for a script that exports nothing. -/
def blurCall : Call :=
  ⟨{ surface := {} }, ⟨"", ["out"]⟩, "blur.rs", ⟨"", ["blur.bc"]⟩⟩

/-- A call for a script with a variable, into the same directory. -/
def fadeCall : Call :=
  ⟨{ surface := { globals := [⟨"gain", .scalar (.known .float), none⟩] }, base := "" },
    ⟨"", ["out", "..", "out"]⟩, "lib/fade.rs", ⟨"", ["fade.bc"]⟩⟩

theorem on_comm_shared :
    ∃ d₁ d₂ d₁₂ d₂₁, blurCall.on sharedDisk = (.ok .published, d₁) ∧
      fadeCall.on sharedDisk = (.ok .published, d₂) ∧
      fadeCall.on d₁ = (.ok .published, d₁₂) ∧ blurCall.on d₂ = (.ok .published, d₂₁) ∧
      SameTree d₁₂ d₂₁ := by
  have hhere : sharedDisk.enterPath blurCall.output = .ok ["out"] := rfl
  have hhere' : sharedDisk.enterPath fadeCall.output = .ok ["out"] := rfl
  have alone : blurCall.on sharedDisk = (.ok .published, (blurCall.on sharedDisk).2) := rfl
  have alone' : fadeCall.on sharedDisk = (.ok .published, (fadeCall.on sharedDisk).2) := rfl
  obtain ⟨d₁₂, d₂₁, hrun, hrun', hsame⟩ :=
    on_comm hhere hhere' (by decide) (by decide) (by decide) alone alone'
  exact ⟨_, _, d₁₂, d₂₁, alone, alone', hrun, hrun', hsame⟩

end Call

end Generator

end ScriptBindings
