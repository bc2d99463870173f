/-
Doubles as text.

A double is written with the fewest digits that read it back.  Leading digits from `10 ^ -5` to
`10 ^ 15` are written positionally, and a whole number keeps a fraction of zero; beyond that
range the text is scientific, and the exponent always has a sign.  Zero keeps its sign.
-/
import AmpComponents.Double.Shortest

namespace AmpComponents

namespace Decimal

def zeros (n : Nat) : String := String.ofList (List.replicate n '0')

/-- The digits with a point after the first `places` of them. -/
def positional (digits : List Char) (places : Int) : String :=
  let count : Int := digits.length
  if places ≤ 0 then "0." ++ zeros (-places).toNat ++ String.ofList digits
  else if count ≤ places then
    String.ofList digits ++ zeros (places - count).toNat ++ ".0"
  else String.ofList (digits.take places.toNat) ++ "." ++ String.ofList (digits.drop places.toNat)

/-- The exponent of ten with its sign. -/
def signedExponent (e : Int) : String := (if e < 0 then "-" else "+") ++ toString e.natAbs

def scientific : List Char → Int → String
  | [], _ => ""
  | [d], e => String.ofList [d] ++ "e" ++ signedExponent e
  | d :: rest, e => String.ofList [d] ++ "." ++ String.ofList rest ++ "e" ++ signedExponent e

def text (d : Decimal) : String :=
  let digits := Nat.toDigits 10 d.digits
  let leading := d.exponent + digits.length - 1
  if -5 ≤ leading ∧ leading ≤ 15 then positional digits (leading + 1)
  else scientific digits leading

end Decimal

/-- The text of a finite double. -/
def Double.text (x : Double) : String :=
  (if x.isNegative then "-" else "") ++
    (if x.significand = 0 then "0.0" else x.shortest.text)

end AmpComponents
