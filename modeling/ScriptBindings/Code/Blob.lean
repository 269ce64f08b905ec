/-!
# Embedded bytes

The compiled script travels inside the implementation as an array of bytes, written as hexadecimal
literals each followed by a comma.

* `Blob.rows` — bytes in rows of equal length, the last one perhaps shorter.
* `Blob.split` — the rows for a width, if that is accepted.
* `Blob.embed` — the lines of the array, together with the number of bytes.
-/

namespace ScriptBindings

/-- **Embedded bytes**: how many they are, and the lines that spell them. -/
structure Blob where
  size : Nat
  lines : List String
deriving DecidableEq, Repr

namespace Blob

/-- What can be wrong with embedding. -/
inductive Error where
  /-- The number of bytes on a line is negative, and not the one that stands for all. -/
  | negativeRow
  /-- The number of bytes on a line is no number of the machine. -/
  | beyondWord
  /-- So many bytes cannot be held at once. -/
  | beyondMemory
deriving DecidableEq, Repr

/-- The wording of an error. -/
def Error.message : Error → String
  | negativeRow => "read length must be non-negative or -1"
  | beyondWord => "cannot fit 'int' into an index-sized integer"
  | beyondMemory => "byte string is too large"

/-- A byte in the array. -/
def byteLiteral (byte : UInt8) : String :=
  "0x" ++ String.ofList ((Nat.toDigits 16 byte.toNat).leftpad 2 '0') ++ ","

/-- **Bytes in rows** of `extra + 1`. -/
def rows (extra : Nat) : List UInt8 → List (List UInt8)
  | [] => []
  | byte :: bytes => (byte :: bytes.take extra) :: rows extra (bytes.drop extra)
termination_by bytes => bytes.length
decreasing_by simp only [List.length_drop, List.length_cons]; omega

/-- The bytes come back from their rows. -/
theorem flatten_rows (extra : Nat) (bytes : List UInt8) : (rows extra bytes).flatten = bytes := by
  fun_induction rows extra bytes with
  | case1 => rfl
  | case2 byte bytes ih => simp [ih]

/-- **The numbers of the machine**, which have 64 bits, are less than this, and not less than its
negative. -/
def wordBound : Int := 9223372036854775808

/-- **The widest row** that can be held, which is kept with a few bytes about itself. -/
def widest : Int := wordBound - 34

/-- **The rows for a width**: a negative one puts all bytes on one row, and a width of zero has no
room for any. -/
def cut (width : Int) (bytes : List UInt8) : List (List UInt8) :=
  match width with
  | .ofNat 0 => []
  | .ofNat (extra + 1) => rows extra bytes
  | .negSucc _ => if bytes.isEmpty then [] else [bytes]

/-- **The rows for a width that is accepted**: one that can be held, or minus one for all bytes. -/
def split (width : Int) (bytes : List UInt8) : Except Error (List (List UInt8)) :=
  if width < -wordBound ∨ wordBound ≤ width then .error .beyondWord
  else if width < -1 then .error .negativeRow
  else if widest < width then .error .beyondMemory
  else .ok (cut width bytes)

theorem split_of_le {width : Int} (hlow : -1 ≤ width) (hhigh : width ≤ widest)
    (bytes : List UInt8) : split width bytes = .ok (cut width bytes) := by
  have hword : ¬ (width < -wordBound ∨ wordBound ≤ width) := by
    simp only [widest, wordBound] at *
    omega
  rw [split, if_neg hword, if_neg (Int.not_lt.2 hlow), if_neg (Int.not_lt.2 hhigh)]

/-- **Embedding bytes** in lines of a width. -/
def embed (width : Int) (bytes : List UInt8) : Except Error Blob := do
  let rows ← split width bytes
  return ⟨rows.flatten.length, rows.map fun row => String.join (row.map byteLiteral)⟩

/-- The width of the lines in a generated file. -/
def lineWidth : Nat := 16

/-- The bytes of a generated file, in lines of `lineWidth`. -/
def ofBytes (bytes : List UInt8) : Blob :=
  ⟨bytes.length, (rows (lineWidth - 1) bytes).map fun row => String.join (row.map byteLiteral)⟩

/-- Embedding in lines of `lineWidth` never fails. -/
theorem embed_lineWidth (bytes : List UInt8) : embed lineWidth bytes = .ok (ofBytes bytes) := by
  have h : split lineWidth bytes = .ok (rows (lineWidth - 1) bytes) :=
    split_of_le (by decide) (by decide) bytes
  simp [embed, ofBytes, h, flatten_rows, bind, Except.bind, pure, Except.pure]

end Blob

end ScriptBindings
