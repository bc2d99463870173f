/-
Quoted text for messages.

A text stands in double quotes.  The quote, the backslash and the common controls are written
with a backslash, and a character that cannot be told apart on its own, because it is hidden
or joins the one before it, is written by its code point: `\u{301}` for a lone acute
accent.  A single quote is left as it is.
-/
import AmpComponents.Text.Hex
import AmpComponents.Text.Quoted.Tables

namespace AmpComponents
namespace Text

/-- Lower-case hexadecimal digits without leading zeros. -/
def hexNumber (n : Nat) : List Char := Nat.toDigits 16 n

/-- A character by its code point. -/
def codePointEscape (c : Char) : List Char :=
  ['\\', 'u', '\x7b'] ++ hexNumber c.toNat ++ ['\x7d']

/-- Whether a character is shown as it is. -/
def isShown (c : Char) : Bool :=
  if c.toNat < 0x7F then 0x20 ≤ c.toNat
  else !inRanges extendRanges c.toNat && !inRanges hiddenRanges c.toNat

def quotedChar (c : Char) : List Char :=
  if c = '"' then ['\\', '"']
  else if c = '\\' then ['\\', '\\']
  else if c = '\n' then ['\\', 'n']
  else if c = '\r' then ['\\', 'r']
  else if c = '\t' then ['\\', 't']
  else if c.toNat = 0 then ['\\', '0']
  else if isShown c then [c]
  else codePointEscape c

/-- The text in double quotes. -/
def quoted (s : String) : String :=
  String.ofList ('"' :: s.toList.flatMap quotedChar ++ ['"'])

end Text
end AmpComponents
