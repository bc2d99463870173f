/-
The numbers a source can name.

A whole number that fits in 64 bits, with a sign or without one, is kept exactly.  Any other
number is a double.
-/
import AmpComponents.Double.Notation

namespace AmpComponents
namespace Json

inductive Number where
  | integer (n : Int)
  | double (x : Double)
  deriving DecidableEq, Repr

/-- Ten to a power the doubles reach. -/
def powerOfTen (n : Nat) : Float := Float.ofScientific 1 false n

/-- `x * 10 ^ e` by one multiplication or division with a power up to `10 ^ 308`.  A number too
small for one division is divided by `10 ^ 308` first; a number too large has no value. -/
def scaleByTen (x : Float) (e : Int) : Option Float :=
  if e < -308 then
    if x == 0 then some x else scaleByTen (x / powerOfTen 308) (e + 308)
  else if e < 0 then some (x / powerOfTen e.natAbs)
  else if 308 < e then
    if x == 0 then some x else none
  else
    let y := x * powerOfTen e.natAbs
    if y.isInf then none else some y
termination_by e.natAbs
decreasing_by omega

/-- The double `± significand * 10 ^ exponent`. -/
def doubleOfParts (negative : Bool) (significand : Nat) (exponent : Int) : Option Double :=
  (scaleByTen (Float.ofNat significand) exponent).map fun x =>
    Double.ofFloat (if negative then -x else x)

end Json
end AmpComponents
