import ScriptBindings.Number.Binary64
import ScriptBindings.Text.Blank
import ScriptBindings.Text.Digit

/-!
# Reading numerals

Two kinds of numeral are read, both from a text that may have blanks around it and digits of any
script.

* **Integers** (`Numeral.readInteger?`): an optional sign; decimal digits, which start with a zero
  only if all of them are zeros, or a base mark `0x`, `0o`, `0b` and digits of that base.
* **Decimals** (`Numeral.readDecimal?`): an optional sign; digits with an optional point and an
  optional decimal exponent, or one of the words for an infinity and for no number.  The result is
  the nearest double.

Single underscores may group the digits of either.
-/

namespace ScriptBindings.Numeral

open ScriptBindings.Text

/-! ### Spelling in ASCII -/

/-- The blanks of ASCII text that may surround a numeral. -/
def isPlainBlank (c : Char) : Bool :=
  c == ' ' || ('\t' ≤ c && c ≤ '\r')

/-- **A text in ASCII**: blanks of any script become spaces and digits of any script their ASCII
digits.  `none` if another character beyond ASCII is left.  A text that is ASCII already stands for
itself. -/
def plain? (cs : List Char) : Option (List Char) :=
  if cs.all (·.toNat < 128) then some cs
  else cs.mapM fun c =>
    if c.toNat < 128 then some c
    else if isBlank c then some ' '
    else (digitValue? c).map digitChar

/-- A text without the plain blanks at its two ends. -/
def trimPlain (cs : List Char) : List Char :=
  ((cs.dropWhile isPlainBlank).reverse.dropWhile isPlainBlank).reverse

/-- **An optional sign** in front: whether it is a minus, and what follows. -/
def splitSign : List Char → Bool × List Char
  | '-' :: cs => (true, cs)
  | '+' :: cs => (false, cs)
  | cs => (false, cs)

/-! ### Digits -/

/-- **The value of a digit** in a base up to sixteen. -/
def digitIn? (base : Nat) (c : Char) : Option Nat :=
  let value? : Option Nat :=
    if c.isDigit then some (c.toNat - 48)
    else if 'a' ≤ c && c ≤ 'f' then some (c.toNat - 87)
    else if 'A' ≤ c && c ≤ 'F' then some (c.toNat - 55)
    else none
  value?.filter (· < base)

/-- **Digits without their underscores**: `none` unless there is a digit and every underscore stands
between two of them. -/
def ungroup? (base : Nat) (cs : List Char) : Option (List Nat) :=
  let groups := pieces (· == '_') cs
  if groups.any List.isEmpty then none
  else groups.flatten.mapM (digitIn? base)

/-- The value of a list of digits in a base, the most significant first. -/
def valueOf (base : Nat) (digits : List Nat) : Nat :=
  digits.foldl (fun value digit => value * base + digit) 0

@[simp] theorem valueOf_nil (base : Nat) : valueOf base [] = 0 := rfl

theorem valueOf_append_singleton (base : Nat) (digits : List Nat) (digit : Nat) :
    valueOf base (digits ++ [digit]) = valueOf base digits * base + digit := by
  simp [valueOf]

/-- **The most decimal digits** that an integer may be written with. -/
def maxDecimalDigits : Nat := 4300

/-- The digits of a numeral with a base mark; one underscore may follow the mark. -/
def readMarked? (base : Nat) : List Char → Option Nat
  | '_' :: cs => (ungroup? base cs).map (valueOf base)
  | cs => (ungroup? base cs).map (valueOf base)

/-- Decimal digits: at most `maxDecimalDigits`, and starting with a zero only if the value is
zero. -/
def readUnmarked? (cs : List Char) : Option Nat := do
  let digits ← ungroup? 10 cs
  let value := valueOf 10 digits
  if maxDecimalDigits < digits.length then none
  else if digits.head? = some 0 && value ≠ 0 then none
  else some value

/-- The natural number that a numeral without sign stands for. -/
def readNatural? : List Char → Option Nat
  | '0' :: 'x' :: cs | '0' :: 'X' :: cs => readMarked? 16 cs
  | '0' :: 'o' :: cs | '0' :: 'O' :: cs => readMarked? 8 cs
  | '0' :: 'b' :: cs | '0' :: 'B' :: cs => readMarked? 2 cs
  | cs => readUnmarked? cs

/-- **Reading an integer.** -/
def readInteger? (cs : List Char) : Option Int := do
  let (negative, rest) := splitSign (trimPlain (← plain? cs))
  let n ← readNatural? rest
  return if negative then -n else n

/-! ### Decimals -/

/-- Decimal digits as in `ungroup?`, or none at all. -/
def digitsOrNone? (cs : List Char) : Option (List Nat) :=
  if cs.isEmpty then some [] else ungroup? 10 cs

/-- The exponent after the mark: an optional sign and digits. -/
def readExponent? (cs : List Char) : Option Int := do
  let (negative, rest) := splitSign cs
  let n := valueOf 10 (← ungroup? 10 rest)
  return if negative then -n else n

/-- **The nearest double to `± digits · 10^exponent`.**  A first digit of weight `10^310` or more
overflows and one of weight `10^-332` or less vanishes, whatever the other digits are, so the powers
that are computed stay small. -/
def nearest (negative : Bool) (digits : List Nat) (exponent : Int) : Binary64 :=
  let significant := digits.dropWhile (· == 0)
  let weight : Int := exponent + significant.length
  let value := valueOf 10 significant
  if value = 0 then .zero negative
  else if 310 < weight then .infinity negative
  else if weight < -330 then .zero negative
  else .ofRatio negative (value * Nat.pow 10 exponent.toNat) (Nat.pow 10 (-exponent).toNat)

/-- Whether a character marks the exponent. -/
def isExponentMark (c : Char) : Bool :=
  c == 'e' || c == 'E'

/-- A decimal numeral without sign: digits before and after the point, at least one in all, and
perhaps an exponent. -/
def readMagnitude? (negative : Bool) (cs : List Char) : Option Binary64 := do
  let mantissa := cs.takeWhile (!isExponentMark ·)
  let exponent : Int ← match cs.dropWhile (!isExponentMark ·) with
    | [] => some 0
    | _ :: rest => readExponent? rest
  let (whole, fraction) ← match pieces (· == '.') mantissa with
    | [whole] => some (whole, [])
    | [whole, fraction] => some (whole, fraction)
    | _ => none
  let before ← digitsOrNone? whole
  let after ← digitsOrNone? fraction
  if before.isEmpty && after.isEmpty then none
  else return nearest negative (before ++ after) (exponent - after.length)

/-- **Reading a decimal** as the nearest double; the words `inf`, `infinity` and `nan` count in
either case. -/
def readDecimal? (cs : List Char) : Option Binary64 := do
  let (negative, rest) := splitSign (trimPlain (← plain? cs))
  let word := String.ofList (rest.map Char.toLower)
  if word = "inf" || word = "infinity" then return .infinity negative
  else if word = "nan" then return .nan
  else readMagnitude? negative rest

end ScriptBindings.Numeral
