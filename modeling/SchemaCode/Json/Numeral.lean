/-! The value of a numeral is its rounded significand, times or divided by a rounded power of ten. It is not always
the floating-point number nearest to the numeral. -/

namespace SchemaCode.Json

structure Numeral where
  negative : Bool
  significand : Nat
  exponent : Int

namespace Numeral

def power (n : Nat) : Float := Float.ofScientific 1 false n

def scaleDown (x : Float) (n : Nat) : Float :=
  if n ≤ 308 then x / power n
  else if x == 0 then x
  else scaleDown (x / power 308) (n - 308)
termination_by n

def magnitude? (d : Numeral) : Option Float :=
  let x := d.significand.toUInt64.toFloat
  if d.exponent < 0 then some (scaleDown x d.exponent.natAbs)
  else if d.exponent ≤ 308 then
    let y := x * power d.exponent.natAbs
    if y.isInf then none else some y
  else if d.significand == 0 then some x
  else none

def toFloat? (d : Numeral) : Option Float :=
  d.magnitude?.map fun x => if d.negative then -x else x

end Numeral

end SchemaCode.Json
