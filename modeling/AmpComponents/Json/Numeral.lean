/-
Number texts.

A numeral keeps the digits of a number as they stand in the source.  `Numeral.value` gives the
number: exactly when the digits form an integer of 64 bits, and otherwise from the leading
digits that fit in 64 bits and a power of ten, with one rounding for each.  `Numeral.chars`
writes the numeral.
-/
import AmpComponents.Json.Fault

namespace AmpComponents
namespace Json

abbrev Digit := Fin 10

namespace Digit

def ofChar? (c : Char) : Option Digit :=
  if h : 0x30 ≤ c.toNat ∧ c.toNat ≤ 0x39 then some ⟨c.toNat - 0x30, by omega⟩ else none

def char (d : Digit) : Char := Char.ofNat (0x30 + d.val)

/-- The number a list of digits stands for. -/
def toNat (digits : List Digit) : Nat := digits.foldl (fun n d => n * 10 + d.val) 0

/-- The decimal digits of a number, without leading zeros. -/
def ofNat (n : Nat) : List Digit :=
  if h : n < 10 then [⟨n, h⟩]
  else ofNat (n / 10) ++ [⟨n % 10, Nat.mod_lt n (by omega)⟩]
termination_by n
decreasing_by omega

end Digit

/-- The power of ten behind a number. -/
structure Exponent where
  negative : Bool
  digits : List Digit
  deriving DecidableEq, Repr

structure Numeral where
  negative : Bool
  whole : List Digit
  /-- The digits after the point; none when there is no point. -/
  fraction : List Digit
  exponent : Option Exponent
  deriving DecidableEq, Repr

namespace Numeral

def ofInt (n : Int) : Numeral := ⟨n < 0, Digit.ofNat n.natAbs, [], none⟩

/-- What the notation asks of a numeral: digits in the whole part and in the exponent, and no
zero in front of another digit. -/
def WellFormed (n : Numeral) : Prop :=
  n.whole ≠ [] ∧ (n.whole.head?.map (·.val) = some 0 → n.whole.length = 1) ∧
    ∀ e, n.exponent = some e → e.digits ≠ []

/-! ## Text -/

def digitChars (digits : List Digit) : List Char := digits.map Digit.char

def fractionChars (digits : List Digit) : List Char :=
  if digits = [] then [] else '.' :: digitChars digits

def exponentChars : Option Exponent → List Char
  | none => []
  | some e => 'e' :: (if e.negative then ['-'] else []) ++ digitChars e.digits

def chars (n : Numeral) : List Char :=
  (if n.negative then ['-'] else []) ++ digitChars n.whole ++ fractionChars n.fraction
    ++ exponentChars n.exponent

/-! ## Value -/

/-- The bound of unsigned integers of 64 bits. -/
def unsignedBound : Nat := 0x10000000000000000

/-- The bound of signed integers of 64 bits. -/
def signedBound : Nat := 0x8000000000000000

/-- The bound of written exponents, which have 32 bits with a sign. -/
def exponentBound : Nat := 0x80000000

/-- Takes digits into a significand of 64 bits for as long as they fit, and gives the digits
left over. -/
def accumulate (significand : Nat) : List Digit → Nat × List Digit
  | [] => (significand, [])
  | d :: rest =>
    let next := significand * 10 + d.val
    if next < unsignedBound then accumulate next rest else (significand, d :: rest)

/-- The double for a significand, a power of ten and the exponent written behind them.  An
exponent beyond 32 bits gives zero, or nothing when the number would be large. -/
def doubleValue (negative : Bool) (significand : Nat) (power : Int) :
    Option Exponent → Option Double
  | none => doubleOfParts negative significand power
  | some e =>
    let written := Digit.toNat e.digits
    if written < exponentBound then
      doubleOfParts negative significand (if e.negative then power - written else power + written)
    else if e.negative || significand == 0 then doubleOfParts negative 0 0
    else none

/-- The number of an integer numeral whose digits fit in 64 bits.  Zero with a sign, and what is
below the signed range, are doubles. -/
def integerValue (negative : Bool) (magnitude : Nat) : Option Number :=
  if !negative then some (.integer magnitude)
  else if magnitude = 0 || signedBound < magnitude then
    (doubleOfParts true magnitude 0).map .double
  else some (.integer (-magnitude))

/-- The number; there is none when it is too large for a double. -/
def number? (n : Numeral) : Option Number :=
  let (significand, unread) := accumulate 0 n.whole
  if unread = [] ∧ n.fraction = [] ∧ n.exponent = none then integerValue n.negative significand
  else
    let (significand, ignored) := accumulate significand n.fraction
    let power : Int := unread.length - (n.fraction.length - ignored.length : Nat)
    (doubleValue n.negative significand power n.exponent).map .double

def value (n : Numeral) : Except Fault Number :=
  match n.number? with
  | some v => .ok v
  | none => .error .numberOutOfRange

end Numeral
end Json
end AmpComponents
