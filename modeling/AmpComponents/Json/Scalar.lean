/-
Values without parts, and readers for the types a schema asks for.

A reader that wants one type and meets another still reads a scalar to its end, so a fault
inside it is reported before the wrong type is.
-/
import AmpComponents.Json.Reader

namespace AmpComponents
namespace Json

inductive Scalar where
  | null
  | boolean (b : Bool)
  | number (n : Numeral) (value : Number)
  | text (s : String)
  deriving DecidableEq, Repr

def Scalar.found : Scalar → Found
  | null => .null
  | boolean b => .boolean b
  | number _ value => .number value
  | text s => .text s

/-- A scalar at the front of the input. -/
def readScalar : Input → Except Fault (Scalar × Input)
  | .char '"' :: s => do
    let (text, s) ← readString s
    return (.text text, s)
  | .char 'n' :: s => do return (.null, ← readWord ['u', 'l', 'l'] s)
  | .char 't' :: s => do return (.boolean true, ← readWord ['r', 'u', 'e'] s)
  | .char 'f' :: s => do return (.boolean false, ← readWord ['a', 'l', 's', 'e'] s)
  | .char c :: s =>
    if startsNumber c then do
      let (n, s) ← readNumeral .endInValue (.char c :: s)
      return (.number n (← n.value), s)
    else .error .expectedValue
  | .stray _ :: _ => .error .expectedValue
  | [] => .error .endInValue

/-- The fault of a value that is not of the wanted type. -/
def mismatch (wanted : Wanted) : Input → Fault
  | .char '[' :: _ => .wrongType .sequence wanted
  | .char '\x7b' :: _ => .wrongType .map wanted
  | s =>
    match readScalar s with
    | .ok (scalar, _) => .wrongType scalar.found wanted
    | .error fault => fault

/-! ## Typed readers

A reader of a value that may nest takes the number of further nestings that are allowed. -/

def readText : Reader String := fun s =>
  match skipSpace s with
  | .char '"' :: s => readString s
  | s => .error (mismatch .text s)

def readBoolean : Reader Bool := fun s =>
  match skipSpace s with
  | .char 't' :: s => do return (true, ← readWord ['r', 'u', 'e'] s)
  | .char 'f' :: s => do return (false, ← readWord ['a', 'l', 's', 'e'] s)
  | s => .error (mismatch .boolean s)

/-- An integer of 64 bits with a sign. -/
def int64OfNumber : Number → Except Fault Int64
  | .integer n =>
    if n < Numeral.signedBound then .ok (Int64.ofInt n) else .error (.integerTooLarge n)
  | .double x => .error (.wrongType (.number (.double x)) .integer)

def readInt64 : Reader Int64 := fun s =>
  match skipSpace s with
  | .char c :: s =>
    if startsNumber c then do
      let (n, s) ← readNumeral .endInValue (.char c :: s)
      return (← int64OfNumber (← n.value), s)
    else .error (mismatch .integer (.char c :: s))
  | s => .error (mismatch .integer s)

/-- A value or `null`. -/
def readOptional {α : Type} (read : Reader α) : Reader (Option α) := fun s =>
  match skipSpace s with
  | .char 'n' :: s => do return (none, ← readWord ['u', 'l', 'l'] s)
  | s => do
    let (a, s) ← read s
    return (some a, s)

/-- A list, whose items have one nesting less left. -/
def readList {α : Type} (item : (room : Nat) → Reader α) (room : Nat) : Reader (List α) := fun s =>
  match skipSpace s with
  | .char '[' :: s =>
    match room with
    | 0 => .error .tooDeep
    | room + 1 => readListBody (item room) s
  | s => .error (mismatch .sequence s)

/-- A source may nest lists and objects to this depth. -/
def nestingRoom : Nat := 127

/-- Reads a whole source. -/
def parse {α : Type} (read : (room : Nat) → Reader α) (s : Input) : Except Fault α :=
  readWhole? (read nestingRoom) s

end Json
end AmpComponents
