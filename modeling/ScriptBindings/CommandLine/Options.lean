import ScriptBindings.Code.Signature
import ScriptBindings.Text.Blank
import ScriptBindings.Text.Digit
import ScriptBindings.Text.Textual

/-!
# Command lines

A command line is a list of words: the path of the description, and options with their values.  A
long option may be shortened as long as only one fits, its value follows `=` or is the next word; a
short option may have its value attached.  After a lone `--` every word is plain.

A word is a wide text, as nothing keeps surrogates out of it.  The paths of files are strings
here, so a command line whose words would make other paths is set apart.

* `Word.ofWide` — what one word is.
* `Reading` — the arguments found so far; `readWords` goes through the words.
* `Request.read` — what a command line asks for, or a usage error.
-/

namespace ScriptBindings.CommandLine

/-- **What an option sets.** -/
inductive Setting where
  | input | blob | output | base
deriving DecidableEq, Repr

/-- **An option**, with its spellings; the one that sets nothing asks for help. -/
structure Switch where
  names : List String
  setting? : Option Setting
deriving DecidableEq, Repr

/-- All options. -/
def switches : List Switch :=
  [⟨["-h", "--help"], none⟩,
   ⟨["--input", "-i"], some .input⟩,
   ⟨["--bitcode", "-b"], some .blob⟩,
   ⟨["--output-dir", "-o"], some .output⟩,
   ⟨["--base-class"], some .base⟩]

/-- How diagnostics name an option: by all its spellings. -/
def Switch.title (s : Switch) : String :=
  "/".intercalate s.names

/-- Every spelling with its option, in order. -/
def spellings : List (String × Switch) :=
  switches.flatMap fun s => s.names.map fun name => (name, s)

/-- The spelling that a text is, with its option. -/
def spelled? (w : Wide) : Option (String × Switch) :=
  spellings.find? fun (name, _) => Wide.ofString name = w

/-- The name of the plain argument in diagnostics. -/
def descriptionTitle : String := "exports"

/-- **Why a command line cannot be understood.** -/
inductive UsageError where
  /-- Several options begin like the word. -/
  | ambiguous (word : Wide) (names : List String)
  /-- No value follows an option. -/
  | missingValue (title : String)
  /-- An option without value has one attached. -/
  | unexpectedValue (title : String) (value : Wide)
  /-- Arguments that must be given are not. -/
  | missing (titles : List String)
  /-- Words are left over. -/
  | unrecognized (words : List Wide)
deriving DecidableEq, Repr

/-- The wording of a usage error. -/
def UsageError.message : UsageError → String
  | ambiguous word names =>
      "ambiguous option: " ++ word.printed ++ " could match " ++ ", ".intercalate names
  | missingValue title => "argument " ++ title ++ ": expected one argument"
  | unexpectedValue title value =>
      "argument " ++ title ++ ": ignored explicit argument " ++ value.quoted
  | missing titles => "the following arguments are required: " ++ ", ".intercalate titles
  | unrecognized words => "unrecognized arguments: " ++ " ".intercalate (words.map Wide.printed)

/-! ## Words -/

/-- **A value attached to an option**, and whether `=` stands between them. -/
structure Attached where
  text : Wide
  afterEquals : Bool
deriving DecidableEq, Repr

/-- **What a word is**: plain text, an option in one of its spellings, something that looks like an
option, or the mark that makes all further words plain. -/
inductive Word where
  | plain (text : Wide)
  | switch (name : String) (s : Switch) (value? : Option Attached)
  | unknown (text : Wide)
  | mark
deriving DecidableEq, Repr

/-- What stands before the first `=`, and after it if there is one. -/
def splitEquals (w : Wide) : Wide × Option Wide :=
  match w.points.dropWhile (· != .char '=') with
  | [] => (w, none)
  | _ :: after => (⟨w.points.takeWhile (· != .char '=')⟩, some ⟨after⟩)

/-- **A negative number**: a minus and digits, perhaps with a point before the last of them; a
newline may follow. -/
def isNegativeNumber (w : Wide) : Bool :=
  let isDigit : CodePoint → Bool
    | .char c => (Text.digitValue? c).isSome
    | .surrogate _ => false
  let run (digits : List CodePoint) : Bool := !digits.isEmpty && digits.all isDigit
  match (if w.points.getLast? = some (.char '\n') then w.points.dropLast else w.points) with
  | .char '-' :: number => match Text.pieces (· == .char '.') number with
      | [whole] => run whole
      | [whole, fraction] => whole.all isDigit && run fraction
      | _ => false
  | _ => false

/-- The options that a word with a minus at its start may stand for: a long one by its beginning, a
short one by its first letter, with the rest of the word as its value. -/
def candidates (w : Wide) : List (String × Switch × Option Attached) :=
  if (Wide.ofString "--").points.isPrefixOf w.points then
    let (start, value?) := splitEquals w
    (spellings.filter fun (name, _) => start.points.isPrefixOf (Wide.ofString name).points).map
      fun (name, s) => (name, s, value?.map fun value => ⟨value, true⟩)
  else
    (spellings.filter fun (name, _) => (Wide.ofString name).points = w.points.take 2).map
      fun (name, s) => (name, s, some ⟨⟨w.points.drop 2⟩, false⟩)

/-- **What one word is**, unless it could be several options. -/
def Word.ofWide (word : Wide) : Except UsageError Word :=
  if word.points.head? ≠ some (.char '-') then .ok (.plain word)
  else match spelled? word with
    | some (name, s) => .ok (.switch name s none)
    | none =>
        let (start, value?) := splitEquals word
        if word.points.length = 1 then .ok (.plain word)
        else match value?, spelled? start with
          | some value, some (name, s) => .ok (.switch name s (some ⟨value, true⟩))
          | _, _ => match candidates word with
            | [(name, s, value?)] => .ok (.switch name s value?)
            | [] =>
                if isNegativeNumber word || word.points.contains (.char ' ') then .ok (.plain word)
                else .ok (.unknown word)
            | several => .error (.ambiguous word (several.map (·.1)))

/-- The words of a command line; after the mark all of them are plain. -/
def wordsOf : List Wide → Except UsageError (List Word)
  | [] => .ok []
  | word :: rest =>
      if word = .ofString "--" then .ok (.mark :: rest.map .plain)
      else return (← Word.ofWide word) :: (← wordsOf rest)

/-! ## Arguments -/

/-- **The arguments of a run**: the path of the description, the name of the source file, which is
empty if it follows from that path, the path of the compiled script, the directory of the output and
the base class. -/
structure Arguments (τ : Type := String) where
  description : String
  input : τ
  blob : String
  output : String
  base : τ
deriving DecidableEq, Repr

/-- **What has been found so far** on a command line, and the words that are left over. -/
structure Reading where
  description? : Option Wide := none
  input : Wide := .ofString ""
  blob? : Option Wide := none
  output : Wide := .ofString "generated"
  base : Wide := .ofString ScriptClass.defaultBase
  leftover : List Wide := []
deriving DecidableEq, Repr

/-- What is known once an option has its value. -/
def Reading.set (r : Reading) (value : Wide) : Setting → Reading
  | .input => { r with input := value }
  | .blob => { r with blob? := some value }
  | .output => { r with output := value }
  | .base => { r with base := value }

/-- What is known once one more word is left over. -/
def Reading.leave (r : Reading) (word : Wide) : Reading :=
  { r with leftover := r.leftover ++ [word] }

/-- **What a command line asks for.** -/
inductive Request where
  | help
  | generate (arguments : Arguments Wide)
  /-- One of the three paths has a surrogate in it and names no file of those considered here. -/
  | unnameable
deriving DecidableEq, Repr

/-- **A request for help with more letters attached** is granted if these are short options that the
rest of the command line suits. -/
def attachedToHelp (title : String) (next : List Word) : List CodePoint → Except UsageError Unit
  | [] => .ok ()
  | .char '-' :: points => .error (.unexpectedValue title ⟨.char '-' :: points⟩)
  | letter :: points =>
      match spelled? ⟨[.char '-', letter]⟩ with
      | none => .ok ()
      | some (_, s) => match s.setting? with
        | none => match points with
          | .char '=' :: value => .error (.unexpectedValue s.title ⟨value⟩)
          | _ => attachedToHelp s.title next points
        | some _ => match points, next with
          | [], .plain _ :: _ => .ok ()
          | [], _ => .error (.missingValue s.title)
          | _, _ => .ok ()

/-- Whether a request for help is well-formed. -/
def checkHelp (name : String) (s : Switch) (next : List Word) :
    Option Attached → Except UsageError Unit
  | none => .ok ()
  | some value =>
      if value.afterEquals || value.text.points.isEmpty || "--".isPrefixOf name then
        .error (.unexpectedValue s.title value.text)
      else attachedToHelp s.title next value.text.points

/-- **What may come next** on a command line: anything; anything or the mark that closes the
description; or the value of an option. -/
inductive Expected where
  | anything
  | mark
  | value (title : String) (setting : Setting)
deriving DecidableEq, Repr

/-- **Going through the words.**  The first plain word that is no value is the description; a mark
before it or right after it means nothing more.  The result is `none` if help is asked for. -/
def readWords (r : Reading) : Expected → List Word → Except UsageError (Option Reading)
  | .value title _, [] => .error (.missingValue title)
  | _, [] => .ok (some r)
  | .value title setting, word :: rest => match word with
    | .plain text => readWords (r.set text setting) .anything rest
    | _ => .error (.missingValue title)
  | _, .plain text :: rest =>
      if r.description?.isNone then readWords { r with description? := some text } .mark rest
      else readWords (r.leave text) .anything rest
  | expected, .mark :: rest =>
      if r.description?.isNone || expected = .mark then readWords r .anything rest
      else readWords (r.leave (.ofString "--")) .anything rest
  | _, .unknown text :: rest => readWords (r.leave text) .anything rest
  | _, .switch name s value? :: rest => match s.setting?, value? with
    | none, _ => do
        checkHelp name s rest value?
        return none
    | some setting, some value => readWords (r.set value.text setting) .anything rest
    | some setting, none => readWords r (.value s.title setting) rest

/-- **What is asked for** with the arguments that were found, if all that must be given are and no
word is left over. -/
def Reading.finish (r : Reading) : Except UsageError Request :=
  match r.description?, r.blob? with
  | some description, some blob =>
      if !r.leftover.isEmpty then .error (.unrecognized r.leftover)
      else match description.string?, blob.string?, r.output.string? with
        | some description, some blob, some output =>
            .ok (.generate ⟨description, r.input, blob, output, r.base⟩)
        | _, _, _ => .ok .unnameable
  | description?, blob? =>
      .error (.missing ((if description?.isNone then [descriptionTitle] else []) ++
        (if blob?.isNone then
          (switches.filter (·.setting? = some .blob)).map Switch.title else [])))

/-- **Reading a command line.** -/
def Request.read (command : List Wide) : Except UsageError Request := do
  match ← readWords {} .anything (← wordsOf command) with
  | none => return .help
  | some r => r.finish

end ScriptBindings.CommandLine
