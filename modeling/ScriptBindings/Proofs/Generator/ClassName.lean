import ScriptBindings.CommandLine.Run
import ScriptBindings.Proofs.Files.PathNames
import ScriptBindings.Proofs.Generator.Confinement

/-!
# The names that a source file gives

The name of a source file comes from the command line and may be any text.  Whatever it is, the
class and its files are named safely, and the notice at the top of the files stays a comment.

* `Text.worded` — a text with an underscore for each character that cannot stand in a name.
* `scriptName_eq_of_name_eq` — the name of a script depends on the name of its source file alone;
  `scriptName_of_name_eq_append` says what it is for a file with the suffix.
* `OpensWithComment` — a text that begins with a comment, which ends where it is meant to.
* `SafelyNamed` — what holds of the names that a source file gives.
* `safelyNamed_and_className_source` — it holds of every source file, and without one the class is
  named for the description.

### What is load-bearing

The name of a path has no slash.  So a name made from it leads nowhere else, and in a comment it
cannot be the end: that takes a slash behind an asterisk.
-/

namespace ScriptBindings

/-! ## Texts made of word characters -/

namespace Text

/-- **A text made of word characters**: every other character gives way to an underscore. -/
def worded (s : String) : String :=
  String.ofList (s.toList.map fun c => if isWordChar c then c else '_')

/-- A text of word characters stays as it is. -/
theorem worded_eq_self {s : String} (h : ∀ c ∈ s.toList, isWordChar c = true) : worded s = s := by
  have hmap : (s.toList.map fun c => if isWordChar c then c else '_') = s.toList.map id :=
    List.map_congr_left fun c mem => if_pos (h c mem)
  rw [worded, hmap, List.map_id, String.ofList_toList]

end Text

/-! ## The name of a script -/

variable {τ : Type} [Append τ] [Textual τ]

/-- **The name of a script** depends on the name of its source file alone. -/
theorem scriptName_eq_of_name_eq {source source' : τ}
    (h : Textual.name source = Textual.name source') : scriptName source = scriptName source' := by
  rw [scriptName, scriptName, h]

/-- The suffix of a source file is left out. -/
theorem scriptName_of_name_eq_append {source : τ} {stem : String}
    (h : Textual.name source = Textual.ofString (stem ++ ".rs")) :
    scriptName source = Text.worded stem := by
  have hsuffix : ".rs".toList.isSuffixOf? (stem ++ ".rs").toList = some stem.toList :=
    List.isSuffixOf?_eq_some_iff_append_eq.2 String.toList_append.symm
  rw [scriptName, h, Textual.shown_ofString, hsuffix]
  rfl

/-- A name without a point has no suffix. -/
theorem scriptName_of_point_notMem {source : τ}
    (h : '.' ∉ (Textual.shown (Textual.name source)).toList) :
    scriptName source = Text.worded (Textual.shown (Textual.name source)) := by
  have hsuffix : ".rs".toList.isSuffixOf? (Textual.shown (Textual.name source)).toList = none := by
    rw [Option.eq_none_iff_forall_ne_some]
    intro stem hstem
    have heq := List.isSuffixOf?_eq_some_iff_append_eq.1 hstem
    exact h (heq ▸ List.mem_append_right stem (by decide))
  rw [scriptName, hsuffix]
  rfl

/-- **Naming a script a second time** changes nothing: its name is one already. -/
theorem scriptName_scriptName (source : τ) :
    scriptName (Textual.ofString (scriptName source) : τ) = scriptName source := by
  have hpoint : '.' ∉ (scriptName source).toList := notMem_scriptName (by decide) source
  have hslash : '/' ∉ (scriptName source).toList := notMem_scriptName (by decide) source
  have hname : Textual.name (Textual.ofString (scriptName source) : τ) =
      Textual.ofString (scriptName source) :=
    Textual.name_ofString_of_slash_notMem hslash fun heq => hpoint (by simp [heq])
  rw [scriptName_of_point_notMem (by rwa [hname, Textual.shown_ofString]), hname,
    Textual.shown_ofString, Text.worded_eq_self fun _ => isWordChar_of_mem_scriptName]

/-- Without a source file, the description gives its name. -/
theorem source_of_input_empty {a : CommandLine.Arguments τ} (h : a.input = Textual.ofString "") :
    a.source = Textual.ofString ((Path.ofString a.description).stem ++ ".rs") := by
  rw [CommandLine.Arguments.source, if_pos (Textual.isEmpty_iff.2 h)]

/-- **Without a source file** the class is named for the description. -/
theorem className_source {a : CommandLine.Arguments τ} (h : a.input = Textual.ofString "") :
    className a.source = "ScriptC_" ++ Text.worded (Path.ofString a.description).stem := by
  have hslash : '/' ∉ ((Path.ofString a.description).stem ++ ".rs").toList := by
    rw [String.toList_append, List.mem_append]
    rintro (mem | mem)
    · exact Path.slash_notMem_stem _ mem
    · exact absurd mem (by decide)
  have hpoint : (Path.ofString a.description).stem ++ ".rs" ≠ "." := by
    intro heq
    have hlength := congrArg String.length heq
    have hsuffix : ".rs".length = 3 ∧ ".".length = 1 := by decide
    rw [String.length_append] at hlength
    omega
  rw [className, source_of_input_empty h,
    scriptName_of_name_eq_append (Textual.name_ofString_of_slash_notMem hslash hpoint)]

/-! ## The notice as a comment -/

/-- **A text that opens with a comment**, which ends at the first closing mark. -/
structure OpensWithComment (text comment : τ) : Prop where
  delimited : ∃ rest, text = "/*" ++ comment ++ "*/" ++ rest
  first : ¬ Textual.points (Textual.ofString "*/" : τ) <:+: Textual.points (comment ++ "*")

/-- A comment without slashes does not end early. -/
theorem OpensWithComment.of_slash_notMem {comment rest : τ}
    (h : .char '/' ∉ Textual.points comment) :
    OpensWithComment ("/*" ++ comment ++ "*/" ++ rest) comment := by
  refine ⟨⟨rest, rfl⟩, fun hclose => ?_⟩
  have mem : .char '/' ∈ Textual.points (comment ++ "*") :=
    hclose.subset (by rw [Textual.points_ofString]; decide)
  rw [Textual.points_append, Textual.points_ofString, List.mem_append] at mem
  rcases mem with mem | mem
  · exact h mem
  · exact absurd mem (by decide)

namespace ScriptClass

/-- **The notice without its delimiters.** -/
def comment (source : τ) : τ :=
  "\n" ++ Buffer.ended [Textual.ofString " * This file is auto-generated. DO NOT MODIFY!",
    " * The source Renderscript file: " ++ source] ++ " "

theorem ended_notice (source : τ) :
    Buffer.ended (notice source) = "/*" ++ comment source ++ "*/" ++ "\n\n" := by
  have hclosing : (Textual.ofString " */" : τ) = Textual.ofString " " ++ Textual.ofString "*/" :=
    Textual.ofString_append " " "*/"
  have hblank : (Textual.ofString "\n\n" : τ) = Textual.ofString "\n" ++ Textual.ofString "\n" :=
    Textual.ofString_append "\n" "\n"
  simp only [notice, comment, Buffer.ended_cons, Buffer.ended_nil, Textual.append_assoc, hclosing,
    hblank, Textual.ofString_empty_append, Textual.append_ofString_empty]

/-- The comment has no slash, unless the source file has one in its name. -/
theorem slash_notMem_comment {source : τ} (h : .char '/' ∉ Textual.points source) :
    .char '/' ∉ Textual.points (comment source) := by
  simp [comment, Buffer.ended, h]

/-- **A file that begins with the notice** opens with a comment. -/
theorem opensWithComment {b : Buffer τ} {source : τ} (hsource : .char '/' ∉ Textual.points source)
    (h : notice source <+: b.lines) : OpensWithComment b.text (comment source) := by
  obtain ⟨rest, hlines⟩ := h
  have htext : b.text = "/*" ++ comment source ++ "*/" ++ ("\n\n" ++ Buffer.ended rest) := by
    rw [Buffer.text_eq_ended (by simp [← hlines, notice]), ← hlines, Buffer.ended_append,
      ended_notice, Textual.append_assoc]
  rw [htext]
  exact .of_slash_notMem (slash_notMem_comment hsource)

end ScriptClass

/-- The header begins with the notice. -/
theorem Header.notice_prefix {c : ScriptClass τ} {slots : SlotMap} {header : Buffer τ}
    (h : generate c slots = .ok header) : ScriptClass.notice c.source <+: header.lines := by
  obtain ⟨_, _, _, _, -, -, -, -, rfl⟩ := generate_eq_ok_iff.1 h
  simp only [lines, opening, List.append_assoc]
  exact List.prefix_append _ _

/-- The implementation begins with the notice. -/
theorem Implementation.notice_prefix {c : ScriptClass τ} {slots : SlotMap} {bytes : List UInt8}
    {implementation : Buffer τ} (h : generate c slots bytes = .ok implementation) :
    ScriptClass.notice c.source <+: implementation.lines := by
  obtain ⟨_, _, -, -, rfl⟩ := generate_eq_ok_iff.1 h
  simp only [lines, opening, List.append_assoc]
  exact List.prefix_append _ _

namespace Generator

/-- **Both files of a pair** open with the notice of the source file. -/
theorem opensWithComment_of_pair {g : Generator τ} {source : τ}
    {blob : Except FileError (List UInt8)} {bs : List (Buffer τ)}
    (h : g.pair source blob = .ok (some bs)) :
    ∀ b ∈ bs, OpensWithComment b.text (ScriptClass.comment (Textual.name source)) := by
  obtain ⟨_, _, _, -, hheader, himplementation, rfl⟩ := pair_eq_some_iff.1 h
  have hslash : .char '/' ∉ Textual.points (Textual.name source) := Textual.slash_notMem_name source
  intro b mem
  simp only [List.mem_cons, List.not_mem_nil, or_false] at mem
  rcases mem with rfl | rfl
  · exact ScriptClass.opensWithComment hslash (Header.notice_prefix hheader)
  · exact ScriptClass.opensWithComment hslash (Implementation.notice_prefix himplementation)

end Generator

/-! ## Safe names -/

/-- **The names that a source file gives are safe.** -/
structure SafelyNamed (source : τ) : Prop where
  /-- The class has its prefix and a name of word characters. -/
  words : ∃ name, className source = "ScriptC_" ++ name ∧
    ∀ c ∈ name.toList, Text.isWordChar c = true
  /-- The names of the files lead to no other directory. -/
  files : ∀ file ∈ generatedNames source, '/' ∉ file.toList
  /-- The name of the script gives itself. -/
  settled : scriptName (Textual.ofString (scriptName source) : τ) = scriptName source
  /-- The directory of the source file does not matter, nor what trails behind its path. -/
  placeless : Textual.name source ≠ Textual.ofString "" → ∀ front trail, Textual.Leads front →
    Textual.Trails trail → className (front ++ source ++ trail) = className source
  /-- The name of the source file has no slash. -/
  slashless : .char '/' ∉ Textual.points (Textual.name source)
  /-- The files bear these names, and open with a comment on the source file. -/
  noticed : ∀ (g : Generator τ) (blob : Path) (d : Disk) (bs : List (Buffer τ)),
    (g.files source blob : StateM Disk _) d = (.ok (some bs), d) →
      bs.map Buffer.fileName = generatedNames source ∧
        ∀ b ∈ bs, OpensWithComment b.text (ScriptClass.comment (Textual.name source))

theorem safelyNamed (source : τ) : SafelyNamed source where
  words := ⟨scriptName source, rfl, fun _ => isWordChar_of_mem_scriptName⟩
  files := by
    simp only [generatedNames, List.forall_mem_cons, List.not_mem_nil, false_imp_iff, implies_true,
      and_true]
    exact ⟨(isComponent_className source (by decide)).slash_notMem,
      (isComponent_className source (by decide)).slash_notMem⟩
  settled := scriptName_scriptName source
  placeless := fun h front trail hfront htrail => by
    rw [className, className, scriptName_eq_of_name_eq (Textual.name_around hfront htrail h)]
  slashless := Textual.slash_notMem_name source
  noticed := fun g blob d bs h => by
    rw [Generator.files_run] at h
    have hpair : g.pair source (d.readFile blob) = .ok (some bs) := congrArg Prod.fst h
    exact ⟨(Generator.isPair_of_pair hpair).map_fileName,
      Generator.opensWithComment_of_pair hpair⟩

/-- **Every source file gives safe names**, and without one the class is named for the
description. -/
theorem safelyNamed_and_className_source :
    (∀ source : τ, SafelyNamed source) ∧
      ∀ a : CommandLine.Arguments τ, a.input = Textual.ofString "" →
        a.source = Textual.ofString ((Path.ofString a.description).stem ++ ".rs") ∧
          className a.source = "ScriptC_" ++ Text.worded (Path.ofString a.description).stem :=
  ⟨safelyNamed, fun _ h => ⟨source_of_input_empty h, className_source h⟩⟩

/-- A source file with an asterisk before its suffix, below a directory, and a hidden
description. -/
theorem safelyNamed_asterisk :
    className ("../lib//" ++ "a b*.rs" ++ "/./") = "ScriptC_a_b_" ∧
      className (CommandLine.Arguments.source
        (⟨"d/..x.exports/.", "", "b", "out", ""⟩ : CommandLine.Arguments)) = "ScriptC___x" ∧
      ∃ (d : Disk) (bs : List Buffer),
        (Generator.files { surface := {} } "a b*.rs" ⟨"", ["b"]⟩ : StateM Disk _) d =
          (.ok (some bs), d) ∧
        ∀ b ∈ bs, OpensWithComment b.text (ScriptClass.comment "a b*.rs") := by
  obtain ⟨hsource, hdescription⟩ := @safelyNamed_and_className_source String _ _
  have hsafe := hsource "a b*.rs"
  refine ⟨?_, ?_, ?_⟩
  · rw [hsafe.placeless (by decide) "../lib//" "/./" (.directory "../lib/")
      (.slash (.point .nothing))]
    decide
  · rw [(hdescription _ rfl).2]
    decide
  · have hname : Textual.name "a b*.rs" = "a b*.rs" := by decide
    let d : Disk := { entries := [(["b"], .file [66])] }
    have hcomment := (hsafe.noticed { surface := {} } ⟨"", ["b"]⟩ d _ rfl).2
    rw [hname] at hcomment
    exact ⟨d, _, rfl, hcomment⟩

end ScriptBindings
