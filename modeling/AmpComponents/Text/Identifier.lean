/-
Identifiers of the emitted script.

A name begins with a letter-like character, `$` or `_` and goes on with letter-like
characters, digits, `$` and the two joiners.  An element name may hold hyphens after its
first character.  A binding may not take a reserved word for its name, and some further words
that may be bound may not stand in an export list.
-/
import AmpComponents.Text.Identifier.Tables

namespace AmpComponents
namespace Text

def isIdStart (c : Char) : Bool :=
  if c.toNat < 0x80 then c.isAlpha || c == '$' || c == '_'
  else inRanges idStartRanges c.toNat

/-- `U+200C` and `U+200D` join letters and are allowed after the first character. -/
def isIdContinue (c : Char) : Bool :=
  if c.toNat < 0x80 then c.isAlphanum || c == '$' || c == '_'
  else inRanges idContinueRanges c.toNat || c.toNat == 0x200C || c.toNat == 0x200D

/-- A first character of one class and the rest of another. -/
def isWord (first other : Char → Bool) : List Char → Bool
  | [] => false
  | c :: rest => first c && rest.all other

def isIdentifier (s : String) : Bool := isWord isIdStart isIdContinue s.toList

/-- The name of an element in markup. -/
def isElementName (s : String) : Bool :=
  isWord isIdStart (fun c => isIdContinue c || c == '-') s.toList

/-! ## Bindings

The script is a module, so `await` is reserved throughout.  A few words are reserved for later
use: a declaration may bind them, and an export list may not name them. -/

/-- Words that are never the name of a binding. -/
def reservedWords : List String :=
  ["await", "break", "case", "catch", "class", "const", "continue", "debugger", "default",
    "delete", "do", "else", "enum", "export", "extends", "false", "finally", "for", "function",
    "if", "import", "in", "instanceof", "new", "null", "return", "super", "switch", "this",
    "throw", "true", "try", "typeof", "var", "void", "while", "with"]

/-- Words that may name a binding and may not stand in an export list. -/
def unlistedWords : List String :=
  ["implements", "interface", "package", "private", "protected", "public", "static", "yield"]

def isBindingName (s : String) : Bool := isIdentifier s && !reservedWords.contains s

/-! ## ASCII identifiers

Settings name components, and those names are held to the ASCII part of the rule. -/

def isAsciiIdStart (c : Char) : Bool := c.isAlpha || c == '_' || c == '$'

def isAsciiIdContinue (c : Char) : Bool := c.isAlphanum || c == '_' || c == '$'

def isAsciiIdentifier (s : String) : Bool := isWord isAsciiIdStart isAsciiIdContinue s.toList

end Text
end AmpComponents
