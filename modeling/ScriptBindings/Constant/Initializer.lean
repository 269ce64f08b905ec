import ScriptBindings.Number.Binary64

/-!
# Values of constants

A constant is given a truth value, an integer, a double, or a group of values for the elements of a
vector or a matrix.
-/

namespace ScriptBindings

/-- **The value of a constant.**  `absent` stands where none was given. -/
inductive Initializer where
  | absent
  | bool (value : Bool)
  | int (value : Int)
  | float (value : Binary64)
  | group (items : List Initializer)
deriving Repr

namespace Initializer

instance : Inhabited Initializer := ⟨.absent⟩

mutual

/-- Values are compared part by part. -/
def decEq : (a b : Initializer) → Decidable (a = b)
  | absent, absent => .isTrue rfl
  | bool a, bool b => decidable_of_iff (a = b) (by simp)
  | int a, int b => decidable_of_iff (a = b) (by simp)
  | float a, float b => decidable_of_iff (a = b) (by simp)
  | group as, group bs =>
      have := decEqList as bs
      decidable_of_iff (as = bs) (by simp)
  | absent, bool _ | absent, int _ | absent, float _ | absent, group _ | bool _, absent
  | bool _, int _ | bool _, float _ | bool _, group _ | int _, absent | int _, bool _
  | int _, float _ | int _, group _ | float _, absent | float _, bool _ | float _, int _
  | float _, group _ | group _, absent | group _, bool _ | group _, int _ | group _, float _ =>
      .isFalse (by simp)

/-- Lists of values are compared value by value. -/
def decEqList : (as bs : List Initializer) → Decidable (as = bs)
  | [], [] => .isTrue rfl
  | [], _ :: _ | _ :: _, [] => .isFalse (by simp)
  | a :: as, b :: bs =>
      have := decEq a b
      have := decEqList as bs
      decidable_of_iff (a = b ∧ as = bs) (by simp)

end

instance : DecidableEq Initializer := decEq

/-- **The truth of a value**: only zeros, the empty group and a missing value are false. -/
def truth : Initializer → Bool
  | absent => false
  | bool value => value
  | int value => value ≠ 0
  | float value => !value.isZero
  | group items => !items.isEmpty

end Initializer

end ScriptBindings
