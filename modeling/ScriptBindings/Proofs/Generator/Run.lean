import ScriptBindings.Generator
import ScriptBindings.Proofs.Code.Lines
import ScriptBindings.Proofs.Files.Publication

/-!
# What a run of a generator does

A run generates a header and an implementation, named for the class, and publishes them as a pair.

* `publishable_pair` — whatever the source is called, the two files can be published together.
* `Generator.Ran` — how a run ends: with a fault of the surface, without the compiled script, or
  with the outcome of the publication.
* `Generator.pair` — the two files of a run, if there are any.
* `Generator.ran_run` — it ends in one of these ways on every disk.
-/

namespace ScriptBindings

open Traversal

variable {τ : Type} [Append τ] [Textual τ]

/-! ## The names of the two files -/

theorem isWordChar_of_mem_scriptName {source : τ} {c : Char}
    (mem : c ∈ (scriptName source).toList) : Text.isWordChar c = true := by
  simp only [scriptName, String.toList_ofList, List.mem_map] at mem
  obtain ⟨c, -, rfl⟩ := mem
  split
  · assumption
  · rfl

/-- No other character is in the name of a script. -/
theorem notMem_scriptName {c : Char} (h : Text.isWordChar c = false) (source : τ) :
    c ∉ (scriptName source).toList := by
  intro mem
  rw [isWordChar_of_mem_scriptName mem] at h
  cases h

/-- **A class is named with word characters only.** -/
theorem isWordChar_of_mem_className {source : τ} {c : Char}
    (mem : c ∈ (className source).toList) : Text.isWordChar c = true := by
  rw [className, String.toList_append, List.mem_append] at mem
  rcases mem with mem | mem
  · have hprefix : "ScriptC_".toList.all Text.isWordChar = true := by decide
    exact List.all_eq_true.1 hprefix c mem
  · exact isWordChar_of_mem_scriptName mem

/-- No other character is in the name of a class. -/
theorem notMem_className {c : Char} (h : Text.isWordChar c = false) (source : τ) :
    c ∉ (className source).toList := by
  intro mem
  rw [isWordChar_of_mem_className mem] at h
  cases h

theorem slash_notMem_className (source : τ) : '/' ∉ (className source).toList :=
  notMem_className (by decide) source

/-- **Names of generated files** are single names. -/
theorem isComponent_className (source : τ) {suffix : String} (hsuffix : '/' ∉ suffix.toList) :
    Path.IsComponent (className source ++ suffix) := by
  have hlength : 3 ≤ (className source ++ suffix).length := by
    have hprefix : "ScriptC_".length = 8 := by decide
    rw [className, String.length_append, String.length_append]
    omega
  have hne (s : String) (hs : s.length < 3) : className source ++ suffix ≠ s := by
    rintro rfl
    omega
  refine ⟨hne "" (by decide), hne "." (by decide), hne ".." (by decide), ?_⟩
  rw [String.toList_append, List.mem_append]
  rintro (mem | mem)
  · exact slash_notMem_className source mem
  · exact hsuffix mem

/-- The system takes the names of generated files. -/
theorem nullFree_className (source : τ) {suffix : String} (hsuffix : Path.NullFree suffix) :
    Path.NullFree (className source ++ suffix) := by
  rw [Path.NullFree, String.toList_append, List.mem_append]
  rintro (mem | mem)
  · exact notMem_className (by decide) source mem
  · exact hsuffix mem

/-- The system takes the names of a pair. -/
theorem nullFree_pair {source : τ} {header implementation : Buffer τ}
    (hheader : header.fileName = className source ++ ".h")
    (himplementation : implementation.fileName = className source ++ ".cpp") :
    ∀ b ∈ [header, implementation], Path.NullFree b.fileName := by
  simp only [List.forall_mem_cons, List.not_mem_nil, false_imp_iff, implies_true, and_true]
  rw [hheader, himplementation]
  exact ⟨nullFree_className source (by decide), nullFree_className source (by decide)⟩

/-- **The pair of a class can be published.** -/
theorem publishable_pair {source : τ} {header implementation : Buffer τ}
    (hheader : header.fileName = className source ++ ".h")
    (himplementation : implementation.fileName = className source ++ ".cpp") :
    Publishable [header, implementation] := by
  have hlengthHeader : header.fileName.length = (className source).length + 2 := by
    rw [hheader, String.length_append]
    rfl
  have hlengthImplementation :
      implementation.fileName.length = (className source).length + 4 := by
    rw [himplementation, String.length_append]
    rfl
  refine ⟨?_, ?_, ?_⟩
  · simp only [List.forall_mem_cons, List.not_mem_nil, false_imp_iff, implies_true, and_true]
    rw [hheader, himplementation]
    exact ⟨isComponent_className source (by decide), isComponent_className source (by decide)⟩
  · rw [List.pairwise_pair]
    intro heq
    have hlength := congrArg String.length heq
    omega
  · intro a ha b hb heq
    have hlength := congrArg String.length heq
    rw [length_stagingName] at hlength
    simp only [List.mem_cons, List.not_mem_nil, or_false] at ha hb
    rcases ha with rfl | rfl <;> rcases hb with rfl | rfl <;> omega

/-! ## The ends of a run -/

namespace Generator

/-- **How a run ends**, and the disk it leaves. -/
inductive Ran (g : Generator τ) (output : Path) (source : τ) (blob : Path) (d : Disk) :
    Except Failure Outcome → Disk → Prop
  /-- The surface has a fault, found before or after the compiled script is read. -/
  | faulty (fault : Fault) : Ran g output source blob d (.error (.model fault)) d
  /-- The system cannot read the compiled script. -/
  | unreadable {e : FileError} (hblob : d.readFile blob = .error e) (hsystem : e.ofSystem = true) :
      Ran g output source blob d (.ok .unreadableBlob) d
  /-- The compiled script cannot be read at all. -/
  | unusable {e : FileError} (hblob : d.readFile blob = .error e) (hother : e.ofSystem = false) :
      Ran g output source blob d (.error (.file e)) d
  /-- The pair cannot be published. -/
  | failed {header implementation : Buffer τ} {bytes : List UInt8} {e : FileError} {d' : Disk}
      (hblob : d.readFile blob = .ok bytes)
      (hheader : Header.generate (g.scriptClass source) g.surface.slots = .ok header)
      (himplementation : Implementation.generate (g.scriptClass source) g.surface.slots bytes =
        .ok implementation)
      (hpublish : (publish output [header, implementation] : StateM Disk _) d = (.error e, d')) :
      Ran g output source blob d (.error (.file e)) d'
  /-- The pair is published. -/
  | published {header implementation : Buffer τ} {bytes : List UInt8} {paths : List Path}
      {d' : Disk} (hblob : d.readFile blob = .ok bytes)
      (hheader : Header.generate (g.scriptClass source) g.surface.slots = .ok header)
      (himplementation : Implementation.generate (g.scriptClass source) g.surface.slots bytes =
        .ok implementation)
      (hpublish : (publish output [header, implementation] : StateM Disk _) d = (.ok paths, d')) :
      Ran g output source blob d (.ok .published) d'

/-- The generator after a run that publishes nothing: the class is named in any case. -/
def named (g : Generator τ) (source : τ) : Generator τ :=
  { g with className := ScriptBindings.className source }

/-- **The pair of a run**, from the compiled script as it was read. -/
def pair (g : Generator τ) (source : τ) (blob : Except FileError (List UInt8)) :
    Except Failure (Option (List (Buffer τ))) :=
  match Header.generate (g.scriptClass source) g.surface.slots with
  | .error fault => .error (.model fault)
  | .ok header =>
      match blob with
      | .error e => if e.ofSystem then .ok none else .error (.file e)
      | .ok bytes =>
          match Implementation.generate (g.scriptClass source) g.surface.slots bytes with
          | .error fault => .error (.model fault)
          | .ok implementation => .ok (some [header, implementation])

variable {g : Generator τ} {source : τ} {blob : Except FileError (List UInt8)}

/-- Both files come from the surface, unless the system cannot read the compiled script. -/
theorem pair_eq_ok_iff {buffers? : Option (List (Buffer τ))} :
    g.pair source blob = .ok buffers? ↔
      ∃ header, Header.generate (g.scriptClass source) g.surface.slots = .ok header ∧
        (((∃ e : FileError, blob = .error e ∧ e.ofSystem = true) ∧ buffers? = none) ∨
          ∃ bytes implementation, blob = .ok bytes ∧
            Implementation.generate (g.scriptClass source) g.surface.slots bytes =
              .ok implementation ∧ buffers? = some [header, implementation]) := by
  unfold pair
  cases Header.generate (g.scriptClass source) g.surface.slots with
  | error fault => simp
  | ok header =>
      cases blob with
      | error e => cases hsystem : e.ofSystem <;> simp [hsystem, eq_comm (a := buffers?)]
      | ok bytes =>
          dsimp only
          cases hgenerate :
              Implementation.generate (g.scriptClass source) g.surface.slots bytes with
          | error fault => simp [hgenerate]
          | ok implementation => simp [hgenerate, eq_comm (a := buffers?)]

/-- **The pair is there** if both files come from the surface and the compiled script is read. -/
theorem pair_eq_some_iff {bs : List (Buffer τ)} :
    g.pair source blob = .ok (some bs) ↔ ∃ bytes header implementation, blob = .ok bytes ∧
      Header.generate (g.scriptClass source) g.surface.slots = .ok header ∧
      Implementation.generate (g.scriptClass source) g.surface.slots bytes = .ok implementation ∧
      bs = [header, implementation] := by
  rw [pair_eq_ok_iff]
  constructor
  · rintro ⟨header, hheader, ⟨-, hnone⟩ | ⟨bytes, implementation, hblob, himplementation, heq⟩⟩
    · cases hnone
    · exact ⟨bytes, header, implementation, hblob, hheader, himplementation, Option.some.inj heq⟩
  · rintro ⟨bytes, header, implementation, hblob, hheader, himplementation, rfl⟩
    exact ⟨header, hheader, .inr ⟨bytes, implementation, hblob, himplementation, rfl⟩⟩

/-- Without a pair, the surface has a fault or the compiled script cannot be read at all. -/
theorem pair_eq_error {failure : Failure} (h : g.pair source blob = .error failure) :
    (∃ fault, failure = .model fault) ∨
      ∃ e : FileError, blob = .error e ∧ e.ofSystem = false ∧ failure = .file e := by
  unfold pair at h
  split at h
  · exact .inl ⟨_, (Except.error.inj h).symm⟩
  · split at h
    · rename_i e
      cases hsystem : e.ofSystem with
      | true => simp [hsystem] at h
      | false =>
          rw [if_neg (by simp [hsystem])] at h
          exact .inr ⟨e, rfl, hsystem, (Except.error.inj h).symm⟩
    · split at h
      · exact .inl ⟨_, (Except.error.inj h).symm⟩
      · cases h

/-- Generating the pair leaves the disk as it is. -/
theorem files_run (g : Generator τ) (source : τ) (blob : Path) (d : Disk) :
    (g.files source blob : StateM Disk _) d = (g.pair source (d.readFile blob), d) := by
  unfold files pair
  cases Header.generate (g.scriptClass source) g.surface.slots with
  | error fault => rfl
  | ok header =>
      dsimp only
      have hread : (FileSystem.readFile blob : StateM Disk _) d = (d.readFile blob, d) := rfl
      rw [Disk.bind_run, hread]
      cases d.readFile blob with
      | error e => rfl
      | ok bytes =>
          dsimp only
          cases Implementation.generate (g.scriptClass source) g.surface.slots bytes <;> rfl

/-- **A run** is the generation of the pair and, if there is one, its publication. -/
theorem run_run (g : Generator τ) (output : Path) (source : τ) (blob : Path) (d : Disk) :
    (g.run output source blob : StateM Disk _) d =
      match g.pair source (d.readFile blob) with
      | .error failure => ((g.named source, .error failure), d)
      | .ok none => ((g.named source, .ok .unreadableBlob), d)
      | .ok (some buffers) =>
          match (publish output buffers : StateM Disk _) d with
          | (.error e, d') => ((g.named source, .error (.file e)), d')
          | (.ok paths, d') =>
              (({ g.named source with outputs := paths }, .ok .published), d') := by
  have hfiles : ((g.named source).files source blob : StateM Disk _) d =
      (g.pair source (d.readFile blob), d) := (g.named source).files_run source blob d
  unfold run
  show (bind ((g.named source).files source blob) _ : StateM Disk _) d = _
  rw [Disk.bind_run, hfiles]
  cases g.pair source (d.readFile blob) with
  | error failure => rfl
  | ok pair =>
      cases pair with
      | none => rfl
      | some buffers =>
          dsimp only
          rw [Disk.bind_run]
          obtain ⟨result, d'⟩ := (publish output buffers : StateM Disk _) d
          cases result <;> rfl

/-- **Every run** ends in one of these ways. -/
theorem ran_run (g : Generator τ) (output : Path) (source : τ) (blob : Path) (d : Disk) :
    Ran g output source blob d ((g.run output source blob : StateM Disk _) d).1.2
      ((g.run output source blob : StateM Disk _) d).2 := by
  cases hpair : g.pair source (d.readFile blob) with
  | error failure =>
      rw [run_run, hpair]
      rcases pair_eq_error hpair with ⟨fault, rfl⟩ | ⟨e, hblob, hother, rfl⟩
      · exact .faulty fault
      · exact .unusable hblob hother
  | ok buffers? =>
      obtain ⟨header, hheader, hrest⟩ := pair_eq_ok_iff.1 hpair
      rcases hrest with ⟨⟨e, hblob, hsystem⟩, rfl⟩ |
        ⟨bytes, implementation, hblob, himplementation, rfl⟩
      · rw [run_run, hpair]
        exact .unreadable hblob hsystem
      · rw [run_run, hpair]
        dsimp only
        cases hpublish : (publish output [header, implementation] : StateM Disk _) d with
        | mk result d' =>
            cases result with
            | ok paths => exact .published hblob hheader himplementation hpublish
            | error e => exact .failed hblob hheader himplementation hpublish

end Generator

end ScriptBindings
