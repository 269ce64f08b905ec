import ScriptBindings.Constant.Initializer
import ScriptBindings.Description.ReadError
import ScriptBindings.Number.Numeral

/-!
# Values in a description

The value of a constant is `true` or `false`, a group of values in braces with commas between them,
an integer, or a decimal, which may end in the suffix `f`.
-/

namespace ScriptBindings.Initializer

open ScriptBindings.Text

/-- **The inside of a group**: what stands between an opening brace at the start and a closing brace
at the end. -/
def inside? : List Char → Option (List Char)
  | '{' :: cs => if cs.getLast? = some '}' then some cs.dropLast else none
  | _ => none

/-- A numeral without the suffix of single precision, in either case and repeated or not. -/
def dropSuffix (cs : List Char) : List Char :=
  (cs.reverse.dropWhile fun c => c == 'f' || c == 'F').reverse

/-- A number: an integer if it can be read as one, otherwise a decimal. -/
def readNumber? (cs : List Char) : Option Initializer :=
  match Numeral.readInteger? cs with
  | some n => some (.int n)
  | none => (Numeral.readDecimal? (dropSuffix cs)).map .float

/-- **Reading a value** with groups up to `depth - 1` deep.  Blank entries of a group are left
out. -/
def readWithin : Nat → List Char → Except ReadError Initializer
  | 0, cs => .error (.badLiteral (String.ofList (trim cs)))
  | depth + 1, cs =>
      let text := trim cs
      if text = "true".toList then .ok (.bool true)
      else if text = "false".toList then .ok (.bool false)
      else match inside? text with
        | some entries => do
            let entries := (pieces (· == ',') entries).filter fun entry => trim entry ≠ []
            return .group (← entries.mapM (readWithin depth))
        | none => match readNumber? text with
            | some value => .ok value
            | none => .error (.badLiteral (String.ofList text))

/-- **Reading a value.**  Groups cannot be deeper than the text is long. -/
def read (cs : List Char) : Except ReadError Initializer :=
  readWithin (cs.length + 1) cs

end ScriptBindings.Initializer
