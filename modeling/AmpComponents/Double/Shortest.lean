/-
The shortest decimal that reads back as a given double.

A decimal reads back as the double when it lies in the interval of reals that round to it; the
ends belong to the interval when the significand is even.  For one digit, two digits and so on
the two neighbours of the double on that decimal grid are tried, and the first grid with a
neighbour inside the interval gives the answer: the nearer of two, the even one of a tie.
All of it is exact arithmetic on natural numbers.
-/
import AmpComponents.Double

namespace AmpComponents

/-- The number `digits * 10 ^ exponent`. -/
structure Decimal where
  digits : Nat
  exponent : Int
  deriving DecidableEq, Repr

namespace Decimal

/-- Ten to a power. -/
def powerOfTen (n : Nat) : Nat := Nat.pow 10 n

/-- The same number without zeros at the end of its digits. -/
def trim (digits : Nat) (exponent : Int) : Decimal :=
  if h : digits ≠ 0 ∧ digits % 10 = 0 then trim (digits / 10) (exponent + 1)
  else ⟨digits, exponent⟩
termination_by digits
decreasing_by omega

def digitCount (n : Nat) : Nat := (Nat.toDigits 10 n).length

end Decimal

open Decimal (powerOfTen digitCount)

namespace Double

/-- A double and its interval over one denominator. -/
structure Interval where
  value : Nat
  low : Nat
  high : Nat
  denominator : Nat
  closed : Bool

/-- The interval of the magnitude of a double.  All bounds are quarters of the last place. -/
def interval (x : Double) : Interval :=
  let m := x.significand
  let scale := 1 <<< x.exponent.toNat
  { value := 4 * m * scale
    low := (4 * m - if x.isLowerBoundary then 1 else 2) * scale
    high := (4 * m + 2) * scale
    denominator := 4 <<< (-x.exponent).toNat
    closed := m % 2 = 0 }

namespace Interval

/-- The exponent of the leading decimal digit of the value. -/
def leadingExponent (i : Interval) : Int :=
  let guess : Int := digitCount i.value - digitCount i.denominator
  if i.denominator * powerOfTen guess.toNat ≤ i.value * powerOfTen (-guess).toNat then guess
  else guess - 1

/-- Whether `n` units of `10 ^ unit` lie in the interval. -/
def holds (i : Interval) (n : Nat) (unit : Int) : Bool :=
  let point := n * powerOfTen unit.toNat * i.denominator
  let low := i.low * powerOfTen (-unit).toNat
  let high := i.high * powerOfTen (-unit).toNat
  if i.closed then low ≤ point && point ≤ high else low < point && point < high

/-- The neighbour of the value on the grid of `10 ^ unit` that lies in the interval. -/
def gridPoint? (i : Interval) (unit : Int) : Option Nat :=
  let value := i.value * powerOfTen (-unit).toNat
  let step := i.denominator * powerOfTen unit.toNat
  let below := value / step
  match i.holds below unit, i.holds (below + 1) unit with
  | true, false => some below
  | false, true => some (below + 1)
  | false, false => none
  | true, true =>
    let twice := 2 * (value % step)
    if twice < step ∨ (twice = step ∧ below % 2 = 0) then some below else some (below + 1)

/-- Tries grids of `count`, `count + 1`, … digits, `rounds` of them. -/
def shortestFrom (i : Interval) (count : Nat) : (rounds : Nat) → Option Decimal
  | 0 => none
  | rounds + 1 =>
    let unit := i.leadingExponent + 1 - count
    match i.gridPoint? unit with
    | some n => some (Decimal.trim n unit)
    | none => shortestFrom i (count + 1) rounds

end Interval

/-- The shortest decimal of a positive finite double; seventeen digits always suffice. -/
def shortest (x : Double) : Decimal := (x.interval.shortestFrom 1 17).getD ⟨0, 0⟩

end Double
end AmpComponents
