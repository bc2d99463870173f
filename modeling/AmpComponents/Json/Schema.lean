/-
Records with named fields.

A schema lists the fields of a record type, how each is read and what stands in for an absent
one.  A record is written as an object, whose members may come in any order, or as a list of
its fields in the order of declaration, which may stop early.  A field may not be given twice.
An object may have members the schema does not know unless the schema is closed.
-/
import AmpComponents.Json.Scalar
import AmpComponents.Json.Skip

namespace AmpComponents
namespace Json

/-- How records of type `ρ` with the fields `κ` are read. -/
structure Schema (κ ρ : Type) where
  title : String
  fields : List κ
  label : κ → String
  /-- What a field holds. -/
  Content : κ → Type
  read : (room : Nat) → (k : κ) → Reader (Content k)
  /-- What an absent field holds; a field with nothing here has to be given. -/
  fill : (k : κ) → Option (Content k)
  /-- Whether unknown members are refused. -/
  closed : Bool
  /-- The record, from a way to get each field. -/
  build : ((k : κ) → Except Fault (Content k)) → Except Fault ρ

namespace Schema

variable {κ ρ : Type} [DecidableEq κ]

/-- The fields read so far. -/
abbrev Fields (S : Schema κ ρ) : Type := (k : κ) → Option (S.Content k)

def none (S : Schema κ ρ) : S.Fields := fun _ => Option.none

/-- The fields with one more. -/
def set (S : Schema κ ρ) (fields : S.Fields) (k : κ) (content : S.Content k) : S.Fields :=
  fun j => if h : j = k then some (h ▸ content) else fields j

/-- The record, with `absent` as the fault of a missing field. -/
def finish (S : Schema κ ρ) (absent : κ → Fault) (fields : S.Fields) : Except Fault ρ :=
  S.build fun k =>
    match fields k <|> S.fill k with
    | some content => .ok content
    | Option.none => .error (absent k)

def field? (S : Schema κ ρ) (name : String) : Option κ := S.fields.find? (S.label · = name)

/-! ## Objects -/

/-- One member behind its key. -/
def readMember (S : Schema κ ρ) (room : Nat) (name : String) (fields : S.Fields) :
    Reader S.Fields := fun s =>
  match S.field? name with
  | some k =>
    if (fields k).isSome then .error (.duplicateField (S.label k))
    else do
      let s ← readColon s
      let (content, s) ← S.read room k s
      return (S.set fields k content, s)
  | Option.none =>
    if S.closed then .error (.unknownField name (S.fields.map S.label))
    else do
      let s ← readColon s
      return (fields, ← skipValue s)

def readObject (S : Schema κ ρ) (room : Nat) (s : Input) : Except Fault (ρ × Input) := do
  let (fields, s) ← readObjectBody (S.readMember room) S.none s
  return (← S.finish (fun k => .missingField (S.label k)) fields, s)

/-! ## Lists -/

/-- What follows the last field. -/
def readListEnd (s : Input) : Except Fault Input :=
  match skipSpace s with
  | [] => .error .endInList
  | .char ']' :: s => .ok s
  | .char ',' :: s =>
    match skipSpace s with
    | .char ']' :: _ => .error .trailingComma
    | _ => .error .trailingCharacters
  | _ :: _ => .error .trailingCharacters

/-- The fields behind the first one. -/
def readMoreFields (S : Schema κ ρ) (room : Nat) : List κ → S.Fields → Reader S.Fields
  | [], fields, s => do return (fields, ← readListEnd s)
  | k :: rest, fields, s =>
    match skipSpace s with
    | [] => .error .endInList
    | .char ']' :: s => .ok (fields, s)
    | .char ',' :: s =>
      match skipSpace s with
      | [] => .error .endInValue
      | .char ']' :: _ => .error .trailingComma
      | s => do
        let (content, s) ← S.read room k s
        readMoreFields S room rest (S.set fields k content) s
    | _ :: _ => .error .expectedListCommaOrEnd

/-- The fields of a list behind its opening bracket. -/
def readFields (S : Schema κ ρ) (room : Nat) (s : Input) : Except Fault (S.Fields × Input) :=
  match S.fields with
  | [] => do return (S.none, ← readListEnd s)
  | k :: rest =>
    match skipSpace s with
    | [] => .error .endInList
    | .char ']' :: s => .ok (S.none, s)
    | s => do
      let (content, s) ← S.read room k s
      S.readMoreFields room rest (S.set S.none k content) s

def readPositional (S : Schema κ ρ) (room : Nat) (s : Input) : Except Fault (ρ × Input) := do
  let (fields, s) ← S.readFields room s
  return (← S.finish
    (fun k => .wrongLength (S.fields.idxOf k) S.title S.fields.length) fields, s)

/-! ## Records -/

/-- A record in either form. -/
def readRecord (S : Schema κ ρ) (room : Nat) : Reader ρ := fun s =>
  match skipSpace s with
  | .char '[' :: s =>
    match room with
    | 0 => .error .tooDeep
    | room + 1 => S.readPositional room s
  | .char '\x7b' :: s =>
    match room with
    | 0 => .error .tooDeep
    | room + 1 => S.readObject room s
  | s => .error (mismatch (.record S.title) s)

end Schema
end Json
end AmpComponents
