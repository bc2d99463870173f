/-
Reading a value of any shape.

Numbers have to be in range and escapes have to name characters, as in every value that is
kept; the members of an object are kept in their order, repeated ones too.
-/
import AmpComponents.Json.Scalar
import AmpComponents.Json.Value

namespace AmpComponents
namespace Json

def Value.ofScalar : Scalar → Value
  | .null => .null
  | .boolean b => .boolean b
  | .number n _ => .number n
  | .text s => .text s

/-- A value that may nest `room` times. -/
def readValue (room : Nat) : Reader Value := fun s =>
  match skipSpace s with
  | .char '[' :: s =>
    match room with
    | 0 => .error .tooDeep
    | room + 1 => do
      let (items, s) ← readListBody (readValue room) s
      return (.list items, s)
  | .char '\x7b' :: s =>
    match room with
    | 0 => .error .tooDeep
    | room + 1 => do
      let (members, s) ← readObjectBody
        (fun key members s => do
          let s ← readColon s
          let (v, s) ← readValue room s
          return ((key, v) :: members, s)) [] s
      return (.object members.reverse, s)
  | s => do
    let (scalar, s) ← readScalar s
    return (.ofScalar scalar, s)

end Json
end AmpComponents
