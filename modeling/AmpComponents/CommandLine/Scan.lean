/-
The parser behind the command.

The library leaves it to a parser of scripts whether a text is a script, and none is part of it.
The command checks what can go wrong in a text of the emitted form.  Most of such a text is the
same for every table, and what comes from a table is written as a literal, but for the names of
exports, of imports and of elements.  So `scanScript` looks for these names, each behind the head
that begins its line and before the tail that follows it, and knows no other rule of the grammar.
Around a name there may be blanks, line ends among them.
-/
import AmpComponents.Text.Blank
import AmpComponents.Text.Identifier
import AmpComponents.Verification

namespace AmpComponents
namespace CommandLine

/-- A character that a script may have between two of its words. -/
def isScriptBlank (c : Char) : Bool :=
  (Text.isBlank c && c != '\x85') || c == '\uFEFF'

def trimBlanks (s : String) : String :=
  String.ofList (((s.toList.dropWhile isScriptBlank).reverse.dropWhile isScriptBlank).reverse)

/-- A place of the emitted form at which a name stands. -/
structure NameSlot where
  /-- What the line begins with. -/
  head : String
  tail : String

namespace NameSlot

def exportList : NameSlot := ⟨"export \x7b ", " \x7d;"⟩

def exportedConstant : NameSlot := ⟨"export const ", " = ("⟩

def defaultImport : NameSlot := ⟨"import ", " from "⟩

def element : NameSlot := ⟨"  return <", " \x7b...propsHelper(props)\x7d />;"⟩

/-- The names at such a place, in order; `none` for one without the tail. -/
def names (slot : NameSlot) (text : String) : List (Option String) :=
  (("\n" ++ text).splitOn ("\n" ++ slot.head)).tail.map fun rest =>
    match rest.splitOn slot.tail with
    | name :: _ :: _ => some (trimBlanks name)
    | _ => none

/-- A complaint about every name at such a place that is not as it should be. -/
def complaints (slot : NameSlot) (admissible : String → Bool) (text : String) : List String :=
  (slot.names text).filterMap fun
    | none => some ("Expected '" ++ trimBlanks slot.tail ++ "'")
    | some name => if admissible name then none else some ("Unexpected name '" ++ name ++ "'")

end NameSlot

/-- What an import may bind: a name, or a list of names, which is left unread. -/
def isImportable (name : String) : Bool := Text.isBindingName name || name.startsWith "\x7b"

/-- A complaint about every name that occurs again further on. -/
def repetitions : List String → List String
  | [] => []
  | name :: rest =>
    (if rest.contains name then ["Duplicated export '" ++ name ++ "'"] else []) ++ repetitions rest

def exportedNames (text : String) : List String :=
  (NameSlot.exportedConstant.names text ++ NameSlot.exportList.names text).filterMap id

/-- Reports on the names in a text of the emitted form. -/
def scanScript : ScriptParser := fun text => {
  panicked := false
  diagnostics :=
    NameSlot.defaultImport.complaints isImportable text
      ++ NameSlot.exportedConstant.complaints Text.isBindingName text
      ++ NameSlot.exportList.complaints
          (fun name => Text.isBindingName name && !Text.unlistedWords.contains name) text
      ++ NameSlot.element.complaints Text.isElementName text
      ++ repetitions (exportedNames text) }

end CommandLine
end AmpComponents
