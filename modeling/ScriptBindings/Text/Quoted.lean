import ScriptBindings.Text.PrintableTable
import ScriptBindings.Text.Word

/-!
# Quoted text in diagnostics

A diagnostic that names a file or an argument puts it between quotes and escapes what cannot be
shown, so that the text stays on one line and can be told from the words around it.
-/

namespace ScriptBindings.Text

/-- **A printable character** is shown as it is. -/
def isPrintable (c : Char) : Bool :=
  if c.toNat < 127 then 32 ≤ c.toNat else inRanges printableRanges c.toNat

/-- The hexadecimal digits of `n` in lower case, padded with zeros to `width`. -/
def hexPadded (width n : Nat) : String :=
  String.ofList ((Nat.toDigits 16 n).leftpad width '0')

/-- **One character inside quotes.**  The backslash and the surrounding quote are escaped, as are
the usual three controls; what is not printable becomes its code point in two, four or eight
hexadecimal digits. -/
def escape (quote c : Char) : String :=
  if c = '\\' then "\\\\"
  else if c = quote then "\\" ++ c.toString
  else if c = '\t' then "\\t"
  else if c = '\n' then "\\n"
  else if c = '\r' then "\\r"
  else if isPrintable c then c.toString
  else if c.toNat < 0x100 then "\\x" ++ hexPadded 2 c.toNat
  else if c.toNat < 0x10000 then "\\u" ++ hexPadded 4 c.toNat
  else "\\U" ++ hexPadded 8 c.toNat

/-- **A quoted text.**  Apostrophes surround it, or double quotes if it holds an apostrophe and no
double quote. -/
def quoted (s : String) : String :=
  let quote := if s.toList.contains '\'' && !s.toList.contains '"' then '"' else '\''
  quote.toString ++ String.join (s.toList.map (escape quote)) ++ quote.toString

end ScriptBindings.Text
