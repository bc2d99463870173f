/-
Passing over a value.

A member that a schema does not know is passed over: its notation is checked, and nothing
else.  There is no limit on nesting, so the open brackets are kept on a stack; numbers may be
of any size, and escapes need not name characters.
-/
import AmpComponents.Json.Reader

namespace AmpComponents
namespace Json

/-! ## Strings -/

/-- An escape behind its backslash: a letter, or any four hexadecimal digits. -/
def skipEscape : Input → Except Fault Input
  | [] => .error .endInString
  | .stray _ :: _ => .error .invalidEscape
  | .char c :: rest =>
    match simpleEscape? c with
    | some _ => .ok rest
    | none => if c = 'u' then (readQuad rest).map (·.2) else .error .invalidEscape

theorem skipEscape_length {s rest : Input} (h : skipEscape s = .ok rest) :
    rest.length < s.length := by
  unfold skipEscape at h
  split at h
  · cases h
  · cases h
  · next c tail =>
    split at h
    · cases h
      simp
    · split at h
      · cases hq : readQuad tail with
        | error f => simp [hq, Except.map] at h
        | ok p =>
          obtain ⟨n, after⟩ := p
          have hlt := readQuad_length hq
          simp only [hq, Except.map, Except.ok.injEq] at h
          rw [← h, List.length_cons]
          omega
      · cases h

/-- The body of a string up to its closing quote. -/
def skipStringBody (s : Input) : Except Fault Input :=
  match s with
  | [] => .error .endInString
  | .stray _ :: rest => skipStringBody rest
  | .char c :: rest =>
    if c = '"' then .ok rest
    else if c = '\\' then
      match h : skipEscape rest with
      | .error fault => .error fault
      | .ok rest' =>
        have : rest'.length < rest.length := skipEscape_length h
        skipStringBody rest'
    else if c.toNat < 0x20 then .error .controlCharacter
    else skipStringBody rest
termination_by s.length
decreasing_by all_goals simp only [List.length_cons]; omega

/-! ## Brackets -/

inductive Bracket where
  | list
  | object
  deriving DecidableEq, Repr

namespace Bracket

def closing : Bracket → Char
  | list => ']'
  | object => '\x7d'

def atEnd : Bracket → Fault
  | list => .endInList
  | object => .endInObject

def expectedCommaOrEnd : Bracket → Fault
  | list => .expectedListCommaOrEnd
  | object => .expectedObjectCommaOrEnd

/-- What stands in front of a value: nothing in a list, a key and a colon in an object. -/
def skipToValue : Bracket → Input → Except Fault Input
  | list, s => .ok s
  | object, s =>
    match skipSpace s with
    | [] => .error .endInObject
    | .char '"' :: s => do readColon (← skipStringBody s)
    | _ :: _ => .error .keyMustBeString

end Bracket

/-! ## Values -/

/-- What follows a finished value: closing brackets, and then a comma while some bracket is
open.  Gives the brackets still open and the place of the next value. -/
def skipClosings : List Bracket → Input → Except Fault (List Bracket × Input)
  | [], s => .ok ([], s)
  | bracket :: outer, s =>
    match skipSpace s with
    | [] => .error bracket.atEnd
    | .char ',' :: s => do return (bracket :: outer, ← bracket.skipToValue s)
    | next :: s =>
      if next = .char bracket.closing then skipClosings outer s
      else .error bracket.expectedCommaOrEnd

/-- What follows an opening bracket. -/
def skipOpening (bracket : Bracket) (outer : List Bracket) (s : Input) :
    Except Fault (List Bracket × Input) :=
  match skipSpace s with
  | [] => .error bracket.atEnd
  | next :: rest =>
    if next = .char bracket.closing then skipClosings outer rest
    else do return (bracket :: outer, ← bracket.skipToValue (next :: rest))

/-- The start of a value: a whole scalar, or an opening bracket. -/
def skipStart (pending : List Bracket) (s : Input) : Except Fault (List Bracket × Input) :=
  match skipSpace s with
  | [] => .error .endInValue
  | .char '[' :: s => skipOpening .list pending s
  | .char '\x7b' :: s => skipOpening .object pending s
  | .char '"' :: s => do skipClosings pending (← skipStringBody s)
  | .char 'n' :: s => do skipClosings pending (← readWord ['u', 'l', 'l'] s)
  | .char 't' :: s => do skipClosings pending (← readWord ['r', 'u', 'e'] s)
  | .char 'f' :: s => do skipClosings pending (← readWord ['a', 'l', 's', 'e'] s)
  | .char c :: s =>
    if startsNumber c then do
      let (_, s) ← readNumeral .invalidNumber (.char c :: s)
      skipClosings pending s
    else .error .expectedValue
  | .stray _ :: _ => .error .expectedValue

/-- Passes over values until no bracket is open.  Each round takes a symbol of the budget. -/
def skipValues : (budget : Input) → List Bracket → Input → Except Fault Input
  | [], _, _ => .error .endInValue
  | _ :: budget, pending, s => do
    match ← skipStart pending s with
    | ([], s) => .ok s
    | (pending, s) => skipValues budget pending s

/-- Passes over one value. -/
def skipValue (s : Input) : Except Fault Input :=
  skipValues s [] s

end Json
end AmpComponents
