/-
What can be wrong with a source, and how it is said.

A fault is either of the notation (the text is no value) or of the schema (the value is not
the one that is wanted here).  `Fault.message` is the only place that words them.  A fault does not
know where in the source it was met, so its message ends without a line and a column.
-/
import AmpComponents.Json.Number
import AmpComponents.Text.Quoted

namespace AmpComponents
namespace Json

/-- A value as a fault mentions it. -/
inductive Found where
  | null
  | boolean (b : Bool)
  | number (n : Number)
  | text (s : String)
  | sequence
  | map
  deriving DecidableEq, Repr

/-- What a schema wants at a place. -/
inductive Wanted where
  | text
  | boolean
  | sequence
  | integer
  | record (title : String)
  deriving DecidableEq, Repr

inductive Fault where
  | expectedValue
  | expectedIdent
  | expectedColon
  | expectedListCommaOrEnd
  | expectedObjectCommaOrEnd
  | trailingComma
  | trailingCharacters
  | keyMustBeString
  | invalidNumber
  | numberOutOfRange
  | invalidEscape
  | controlCharacter
  | loneSurrogate
  | unexpectedEndOfHexEscape
  | invalidUnicode
  | tooDeep
  | endInValue
  | endInList
  | endInObject
  | endInString
  | missingField (name : String)
  | duplicateField (name : String)
  | unknownField (name : String) (known : List String)
  | wrongType (found : Found) (wanted : Wanted)
  | integerTooLarge (n : Int)
  | wrongLength (length : Nat) (title : String) (fields : Nat)
  | noVariant (title : String)
  deriving DecidableEq, Repr

/-- A name between backticks. -/
def ticked (s : String) : String := "\x60" ++ s ++ "\x60"

def Found.describe : Found → String
  | null => "null"
  | boolean b => "boolean " ++ ticked (if b then "true" else "false")
  | number (.integer n) => "integer " ++ ticked (toString n)
  | number (.double x) => "floating point " ++ ticked x.text
  | text s => "string " ++ Text.quoted s
  | sequence => "sequence"
  | map => "map"

def Wanted.describe : Wanted → String
  | text => "a string"
  | boolean => "a boolean"
  | sequence => "a sequence"
  | integer => "i64"
  | record title => "struct " ++ title

def Fault.message : Fault → String
  | expectedValue => "expected value"
  | expectedIdent => "expected ident"
  | expectedColon => "expected " ++ ticked ":"
  | expectedListCommaOrEnd => "expected " ++ ticked "," ++ " or " ++ ticked "]"
  | expectedObjectCommaOrEnd => "expected " ++ ticked "," ++ " or " ++ ticked "\x7d"
  | trailingComma => "trailing comma"
  | trailingCharacters => "trailing characters"
  | keyMustBeString => "key must be a string"
  | invalidNumber => "invalid number"
  | numberOutOfRange => "number out of range"
  | invalidEscape => "invalid escape"
  | controlCharacter =>
    "control character (\\u0000-\\u001F) found while parsing a string"
  | loneSurrogate => "lone leading surrogate in hex escape"
  | unexpectedEndOfHexEscape => "unexpected end of hex escape"
  | invalidUnicode => "invalid unicode code point"
  | tooDeep => "recursion limit exceeded"
  | endInValue => "EOF while parsing a value"
  | endInList => "EOF while parsing a list"
  | endInObject => "EOF while parsing an object"
  | endInString => "EOF while parsing a string"
  | missingField name => "missing field " ++ ticked name
  | duplicateField name => "duplicate field " ++ ticked name
  | unknownField name known =>
    "unknown field " ++ ticked name ++ ", expected one of "
      ++ String.intercalate ", " (known.map ticked)
  | wrongType found wanted =>
    "invalid type: " ++ found.describe ++ ", expected " ++ wanted.describe
  | integerTooLarge n =>
    "invalid value: integer " ++ ticked (toString n) ++ ", expected " ++ Wanted.integer.describe
  | wrongLength length title fields =>
    "invalid length " ++ toString length ++ ", expected struct " ++ title ++ " with "
      ++ toString fields ++ (if fields = 1 then " element" else " elements")
  | noVariant title => "data did not match any variant of untagged enum " ++ title

end Json
end AmpComponents
