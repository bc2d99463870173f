/-
The input of the reader.

A source is a list of symbols: characters, and the bytes that belong to no character.  A text
has characters only.  A sequence of bytes is decoded as UTF-8 from left to right, and a byte at
which no character starts is a stray one; decoding goes on behind it.
-/
namespace AmpComponents
namespace Json

inductive Symbol where
  | char (c : Char)
  | stray (byte : UInt8)
  deriving DecidableEq, Repr

abbrev Input := List Symbol

namespace Symbol

/-- The number of bytes a symbol takes in the source. -/
def size : Symbol → Nat
  | char c => c.utf8Size
  | stray _ => 1

end Symbol

namespace Input

def ofChars (s : List Char) : Input := s.map Symbol.char

def ofText (s : String) : Input := ofChars s.toList

/-- The symbols from byte `i` on. -/
def ofBytesFrom (bytes : ByteArray) (i : Nat) : Input :=
  if h : i < bytes.size then
    match bytes.utf8DecodeChar? i with
    | some c => .char c :: ofBytesFrom bytes (i + c.utf8Size)
    | none => .stray bytes[i] :: ofBytesFrom bytes (i + 1)
  else []
termination_by bytes.size - i
decreasing_by
  · have := Char.utf8Size_pos c
    omega
  · omega

def ofBytes (bytes : ByteArray) : Input := ofBytesFrom bytes 0

/-- The number of bytes of the symbols. -/
def size : Input → Nat
  | [] => 0
  | symbol :: rest => symbol.size + size rest

end Input

theorem Input.ofChars_cons (c : Char) (s : List Char) :
    Input.ofChars (c :: s) = .char c :: Input.ofChars s := rfl

theorem Input.ofChars_append (s t : List Char) :
    Input.ofChars (s ++ t) = Input.ofChars s ++ Input.ofChars t := by
  simp [Input.ofChars]

end Json
end AmpComponents
