/-
# Equality of Python values

`==` of the values that the contracts look at. Numbers of different types are compared by what
they are worth, and dictionaries whatever the order of their entries. A list equals no tuple.

A read-only proxy compares as the mapping behind it. An object of any other type is equal to
no value here.
-/

import DataSluice.Domain.Json

namespace DataSluice.Domain

/-! ## Numbers -/

namespace PyFloat

/-- The biased exponent. -/
def exponent (value : PyFloat) : Nat := ((value.bits >>> 52) &&& 0x7FF).toNat

/-- The fraction bits. -/
def fraction (value : PyFloat) : Nat := (value.bits &&& 0xFFFFFFFFFFFFF).toNat

def isNan (value : PyFloat) : Bool := value.exponent == 0x7FF && value.fraction != 0

/-- The digits in front of the binary point, when the value is a whole number. -/
def wholeMagnitude (value : PyFloat) : Option Nat :=
  let mantissa := if value.exponent = 0 then value.fraction else 0x10000000000000 + value.fraction
  let scale := max value.exponent 1
  if value.exponent = 0x7FF then none
  else if 1075 ≤ scale then some (mantissa <<< (scale - 1075))
  else if mantissa % (1 <<< (1075 - scale)) = 0 then some (mantissa >>> (1075 - scale))
  else none

/-- The whole number that the value is equal to. -/
def toInt (value : PyFloat) : Option Int :=
  value.wholeMagnitude.map fun magnitude =>
    if value.bits >>> 63 = 1 then -(magnitude : Int) else magnitude

end PyFloat

/-- The whole number that a value is equal to. -/
def wholeNumber : Value → Option Int
  | .bool value => some (if value then 1 else 0)
  | .int value => some value
  | .float value => value.toInt
  | _ => none

/-- `==` of two numbers; two that are no whole numbers are floats. -/
def sameNumber (first second : Value) : Bool :=
  match first, second with
  | .float first, .float second =>
      (first.toInt.isSome && first.toInt == second.toInt) ||
        (first.bits == second.bits && !first.isNan)
  | first, second => (wholeNumber first).isSome && wholeNumber first == wholeNumber second

mutual

/-- `first == second` -/
def pyEq : Value → Value → Bool
  | .none, .none => true
  | .str first, .str second => first == second
  | .list first, .list second => pyEqItems first second
  | .tuple first, .tuple second => pyEqItems first second
  | .dict first, .dict second => first.length == second.length && pyEqEntries first second
  | .dict first, .proxy second => first.length == second.length && pyEqEntries first second
  | .proxy first, .dict second => first.length == second.length && pyEqEntries first second
  | .proxy first, .proxy second => first.length == second.length && pyEqEntries first second
  | .bool first, second => sameNumber (.bool first) second
  | .int first, second => sameNumber (.int first) second
  | .float first, second => sameNumber (.float first) second
  | _, _ => false

/-- Item by item. -/
def pyEqItems : List Value → List Value → Bool
  | [], [] => true
  | first :: items, second :: others => pyEq first second && pyEqItems items others
  | _, _ => false

/-- Every entry of the first mapping is in the second one. -/
def pyEqEntries : List (Key × Value) → List (Key × Value) → Bool
  | [], _ => true
  | (key, first) :: entries, others =>
      (match others.lookup key with
        | some second => pyEq first second
        | none => false) && pyEqEntries entries others

end

end DataSluice.Domain
