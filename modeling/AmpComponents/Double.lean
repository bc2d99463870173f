/-
Double-precision numbers as their bits.

A double is kept as its 64 bits, so that two doubles are equal exactly when they are the same
number with the same sign.  A finite double is `significand * 2 ^ exponent`, up to its sign.
-/
namespace AmpComponents

structure Double where
  bits : UInt64
  deriving DecidableEq, Repr

namespace Double

def ofFloat (x : Float) : Double := ⟨x.toBits⟩

/-- The place value of the sign. -/
def signPlace : Nat := 0x8000000000000000

/-- The place value of the exponent's last bit. -/
def exponentPlace : Nat := 0x10000000000000

def isNegative (x : Double) : Bool := signPlace ≤ x.bits.toNat

/-- The biased exponent: zero for the numbers below the normal range. -/
def biasedExponent (x : Double) : Nat := x.bits.toNat / exponentPlace % 0x800

/-- The stored fraction. -/
def fraction (x : Double) : Nat := x.bits.toNat % exponentPlace

/-- The whole number that the power of two scales. -/
def significand (x : Double) : Nat :=
  if x.biasedExponent = 0 then x.fraction else exponentPlace + x.fraction

/-- The power of two that scales the significand. -/
def exponent (x : Double) : Int :=
  if x.biasedExponent = 0 then -1074 else (x.biasedExponent : Int) - 1075

/-- Whether the double below this one is only half as far away as the double above. -/
def isLowerBoundary (x : Double) : Bool := x.fraction = 0 && x.biasedExponent > 1

end Double
end AmpComponents
