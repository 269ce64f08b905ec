import ScriptBindings.Number.Binary64

/-!
# The shortest decimal of a double

A double is written with the fewest digits from which it can be read back.  The reals that round
to a double form an interval; for one, two, three, … digits the two neighbours of the double on
that decimal grid are tried, and the first grid with a neighbour inside the interval gives the
digits.

* `Decimal` — digits and the place of the point.
* `Binary64.shortest` — the shortest decimal of `significand · 2^exponent`.
* `DecimalStyle`, `Decimal.text` — how a decimal is laid out: positionally for moderate exponents,
  with an exponent otherwise.
-/

namespace ScriptBindings

/-- **A decimal fraction**: `0.d₁d₂… · 10^point` for the digits `d₁d₂…`. -/
structure Decimal where
  digits : List Char
  point : Int
deriving DecidableEq, Repr

/-- **A layout for decimals.**  A first digit of decimal weight from `10^positionalFrom` up to, but
not including, `10^positionalBelow` makes the notation positional; an exponent has at least
`exponentWidth` digits. -/
structure DecimalStyle where
  positionalFrom : Int
  positionalBelow : Int
  exponentWidth : Nat

/-- **The style of constants**: positional from a ten-thousandth up to ten quadrillion, an exponent
of at least two digits otherwise. -/
def DecimalStyle.constant : DecimalStyle := ⟨-4, 16, 2⟩

namespace Decimal

/-- The decimal with the digits of `n` at the weight `10^exponent` of its last digit, less the
zeros at its end. -/
def ofNat (n : Nat) (exponent : Int) : Decimal :=
  let digits := Nat.toDigits 10 n
  let significant := (digits.reverse.dropWhile (· == '0')).reverse
  if significant.isEmpty then ⟨['0'], 1⟩ else ⟨significant, exponent + digits.length⟩

/-- **Positional notation**: digits on both sides of the point, at least one on each. -/
def positional (d : Decimal) : List Char :=
  if d.point ≤ 0 then
    '0' :: '.' :: (List.replicate (-d.point).toNat '0' ++ d.digits)
  else
    let whole := d.point.toNat
    d.digits.take whole ++ List.replicate (whole - d.digits.length) '0' ++
      '.' :: (if d.digits.length ≤ whole then ['0'] else d.digits.drop whole)

/-- **Exponent notation**: one digit, the others after a point if there are any, and the exponent
with its sign. -/
def exponential (width : Nat) (d : Decimal) : List Char :=
  let exponent := d.point - 1
  let fraction := d.digits.drop 1
  d.digits.take 1 ++ (if fraction.isEmpty then [] else '.' :: fraction) ++
    'e' :: (if exponent < 0 then '-' else '+') ::
      (Nat.toDigits 10 exponent.natAbs).leftpad width '0'

/-- The text of a decimal in a style. -/
def text (style : DecimalStyle) (d : Decimal) : List Char :=
  if style.positionalFrom < d.point && d.point ≤ style.positionalBelow then d.positional
  else d.exponential style.exponentWidth

end Decimal

namespace Binary64

/-! ### Doubles on a decimal grid

A double `significand · 2^exponent` is compared with the multiples of `10^place` in quarters of its
last place, the unit in which the ends of its interval are integers. -/

/-- **Factors for a common unit.**  A multiple `n · 10^place` compares with `b · 2^exponent / 4` as
`n` times the first factor compares with `b` times the second. -/
def gridFactors (exponent place : Int) : Nat × Nat :=
  (Nat.pow 10 place.toNat * Nat.pow 2 (2 - exponent).toNat,
    Nat.pow 2 (exponent - 2).toNat * Nat.pow 10 (-place).toNat)

/-- **The ends of the rounding interval** in quarters of the last place.  Below a power of two the
doubles lie twice as close. -/
def intervalEnds (significand : Nat) (exponent : Int) : Nat × Nat :=
  let below := if significand = Nat.pow 2 52 ∧ -1074 < exponent then 1 else 2
  (4 * significand - below, 4 * significand + 2)

/-- Whether `n · 10^place` reads back as the double: it lies between the ends of the interval, and
on one of them only if the significand is even. -/
def readsBack (significand : Nat) (exponent place : Int) (n : Nat) : Bool :=
  let (grid, quarter) := gridFactors exponent place
  let (low, high) := intervalEnds significand exponent
  let value := n * grid
  if significand % 2 = 0 then low * quarter ≤ value && value ≤ high * quarter
  else low * quarter < value && value < high * quarter

/-- **The neighbour on a grid**: of the two multiples of `10^place` on either side of the double the
one that reads back; of two such the nearer, and of two equally near the even one. -/
def neighbour? (significand : Nat) (exponent place : Int) : Option Nat :=
  let (grid, quarter) := gridFactors exponent place
  let value := 4 * significand * quarter
  let n := value / grid
  match readsBack significand exponent place n, readsBack significand exponent place (n + 1) with
  | true, true =>
      let fromBelow := value - n * grid
      let fromAbove := (n + 1) * grid - value
      some (if fromBelow < fromAbove then n else if fromAbove < fromBelow then n + 1
        else if n % 2 = 0 then n else n + 1)
  | true, false => some n
  | false, true => some (n + 1)
  | false, false => none

/-- **The decimal weight of the first digit**: the exponent of the greatest power of ten that is not
above the double.  The binary logarithm, times that of two to the base ten, is at most one off. -/
def firstPlace (significand : Nat) (exponent : Int) : Int :=
  let guess := Int.fdiv ((significand.log2 + exponent) * 30103) 100000
  let reaches (place : Int) : Bool :=
    let (grid, quarter) := gridFactors exponent place
    grid ≤ 4 * significand * quarter
  if reaches (guess + 1) then guess + 1 else if reaches guess then guess else guess - 1

/-- **The shortest decimal** that reads back as `significand · 2^exponent`.  Seventeen digits always
suffice. -/
def shortest (significand : Nat) (exponent : Int) : Decimal :=
  if significand = 0 then ⟨['0'], 1⟩
  else
    let first := firstPlace significand exponent
    let found := (List.range 17).findSome? fun (k : Nat) =>
      (neighbour? significand exponent (first - k)).map fun n => (n, first - k)
    match found with
    | some (n, place) => .ofNat n place
    | none => .ofNat significand 0

/-- The text of a double in a style; an infinity is `inf`, and what is no number `nan`. -/
def text (style : DecimalStyle) : Binary64 → String
  | .finite negative significand exponent =>
      (if negative then "-" else "") ++ String.ofList ((shortest significand exponent).text style)
  | .infinity negative => if negative then "-inf" else "inf"
  | .nan => "nan"

end Binary64

end ScriptBindings
