/-
Values and their compact text.

An object is a list of members, in order and possibly with a key more than once: what a repeated
key means is for the schema to say.  The compact text has no blanks.  In a string the quote,
the backslash and the controls below the space are escaped and everything else stands as it is.
-/
import AmpComponents.Json.Numeral
import AmpComponents.Text.Hex

namespace AmpComponents
namespace Json

inductive Value where
  | null
  | boolean (b : Bool)
  | number (n : Numeral)
  | text (s : String)
  | list (items : List Value)
  | object (members : List (String × Value))

/-! ## Strings -/

/-- A character inside a string. -/
def stringChar (c : Char) : List Char :=
  if c = '"' then ['\\', '"']
  else if c = '\\' then ['\\', '\\']
  else if c = '\x08' then ['\\', 'b']
  else if c = '\x0c' then ['\\', 'f']
  else if c = '\n' then ['\\', 'n']
  else if c = '\r' then ['\\', 'r']
  else if c = '\t' then ['\\', 't']
  else if c.toNat < 0x20 then
    ['\\', 'u', '0', '0', Text.hexDigit (c.toNat / 16), Text.hexDigit (c.toNat % 16)]
  else [c]

def stringChars (s : String) : List Char := '"' :: s.toList.flatMap stringChar ++ ['"']

/-! ## Values -/

namespace Value

def ofInt (n : Int) : Value := number (Numeral.ofInt n)

/-- The value of an optional part: `null` when it is absent. -/
def ofOption {α : Type} (f : α → Value) : Option α → Value
  | none => null
  | some a => f a

def texts (l : List String) : Value := list (l.map text)

mutual

/-- The compact text of a value. -/
def chars : Value → List Char
  | null => ['n', 'u', 'l', 'l']
  | boolean true => ['t', 'r', 'u', 'e']
  | boolean false => ['f', 'a', 'l', 's', 'e']
  | number n => n.chars
  | text s => stringChars s
  | list items => '[' :: itemChars items ++ [']']
  | object members => '\x7b' :: memberChars members ++ ['\x7d']

/-- Items with commas between them. -/
def itemChars : List Value → List Char
  | [] => []
  | [v] => v.chars
  | v :: w :: rest => v.chars ++ ',' :: itemChars (w :: rest)

/-- Members with commas between them. -/
def memberChars : List (String × Value) → List Char
  | [] => []
  | [(k, v)] => stringChars k ++ ':' :: v.chars
  | (k, v) :: m :: rest => stringChars k ++ ':' :: v.chars ++ ',' :: memberChars (m :: rest)

end

def compact (v : Value) : String := String.ofList v.chars

end Value
end Json
end AmpComponents
