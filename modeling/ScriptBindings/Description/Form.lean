import ScriptBindings.Text.Word

/-!
# The forms of a declaration

A declaration is recognised with its blanks squeezed, so that at most one space stands between two
words.  There are four forms:

* `var T n` — a variable;
* `const T n = value` — a constant;
* `foreach n(arguments)`, perhaps followed by `default` — a kernel;
* `invoke n(arguments)` — a function.

Types and names are runs of word characters.  The spaces around `=`, before `(` and before `default`
may be left out.  Values and arguments are kept as text.
-/

namespace ScriptBindings

/-- **A declaration by its form**, its parts still unread. -/
inductive Form where
  | variable (type name : String)
  | constant (type name : String) (value : List Char)
  | kernel (name : String) (arguments : List Char) (isDefault : Bool)
  | function (name : String) (arguments : List Char)
deriving DecidableEq, Repr

namespace Form

open ScriptBindings.Text

/-- What follows a fixed text at the start. -/
def after? (start : String) (cs : List Char) : Option (List Char) :=
  start.toList.isPrefixOf? cs

/-- **A name at the start**, and what follows it. -/
def takeName? (cs : List Char) : Option (String × List Char) :=
  let name := cs.takeWhile isWordChar
  if name.isEmpty then none else some (String.ofList name, cs.dropWhile isWordChar)

/-- A text without a space at its start. -/
def skipSpace : List Char → List Char
  | ' ' :: cs => cs
  | cs => cs

/-- **Arguments in parentheses**, perhaps after a space, and what follows them. -/
def takeArguments? (cs : List Char) : Option (List Char × List Char) :=
  match skipSpace cs with
  | '(' :: inside =>
      match inside.dropWhile (· != ')') with
      | [] => none
      | _ :: rest => some (inside.takeWhile (· != ')'), rest)
  | _ => none

/-- The form `var T n`. -/
def variableForm? (cs : List Char) : Option Form := do
  let (type, cs) ← takeName? (← after? "var " cs)
  let (name, cs) ← takeName? (← after? " " cs)
  if cs.isEmpty then some (.variable type name) else none

/-- The form `const T n = value`. -/
def constantForm? (cs : List Char) : Option Form := do
  let (type, cs) ← takeName? (← after? "const " cs)
  let (name, cs) ← takeName? (← after? " " cs)
  let value := skipSpace (← after? "=" (skipSpace cs))
  if value.isEmpty then none else some (.constant type name value)

/-- The form `foreach n(arguments)`, with or without `default`. -/
def kernelForm? (cs : List Char) : Option Form := do
  let (name, cs) ← takeName? (← after? "foreach " cs)
  let (arguments, cs) ← takeArguments? cs
  if cs.isEmpty then some (.kernel name arguments false)
  else if skipSpace cs = "default".toList then some (.kernel name arguments true)
  else none

/-- The form `invoke n(arguments)`. -/
def functionForm? (cs : List Char) : Option Form := do
  let (name, cs) ← takeName? (← after? "invoke " cs)
  let (arguments, cs) ← takeArguments? cs
  if cs.isEmpty then some (.function name arguments) else none

/-- **The form of a declaration** whose blanks are squeezed. -/
def ofChars? (cs : List Char) : Option Form :=
  variableForm? cs <|> constantForm? cs <|> kernelForm? cs <|> functionForm? cs

end Form

end ScriptBindings
