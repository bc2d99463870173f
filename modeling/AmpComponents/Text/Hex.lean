/-
Bytes as pairs of lower-case hexadecimal digits, the high half first.

`hex` writes the bytes of a text and `unhex?` reads pairs back.  A digit is never an
underscore and never a hyphen, which is what the names built from hexadecimal text rely on.
-/
namespace AmpComponents
namespace Text

/-- The digit for a value below sixteen. -/
def hexDigit (n : Nat) : Char :=
  if n < 10 then Char.ofNat (0x30 + n) else Char.ofNat (0x57 + n)

/-- The value of a digit of either case. -/
def hexValue? (c : Char) : Option Nat :=
  if '0' ≤ c ∧ c ≤ '9' then some (c.toNat - 0x30)
  else if 'a' ≤ c ∧ c ≤ 'f' then some (c.toNat - 0x57)
  else if 'A' ≤ c ∧ c ≤ 'F' then some (c.toNat - 0x37)
  else none

def hexByte (b : UInt8) : List Char := [hexDigit (b.toNat / 16), hexDigit (b.toNat % 16)]

def hexBytes (bytes : List UInt8) : List Char := bytes.flatMap hexByte

/-- The bytes of a text in UTF-8. -/
def utf8 (s : String) : List UInt8 := s.toByteArray.data.toList

/-- The text with the given UTF-8 bytes. -/
def ofUtf8? (bytes : List UInt8) : Option String := String.fromUTF8? ⟨bytes.toArray⟩

def hex (s : String) : List Char := hexBytes (utf8 s)

/-- Reads pairs of digits.  A lone digit or a foreign character is refused. -/
def unhexBytes? : List Char → Option (List UInt8)
  | [] => some []
  | [_] => none
  | a :: b :: rest => do
    let high ← hexValue? a
    let low ← hexValue? b
    let bytes ← unhexBytes? rest
    return UInt8.ofNat (16 * high + low) :: bytes

/-- The text whose hexadecimal form is given. -/
def unhex? (digits : List Char) : Option String := (unhexBytes? digits).bind ofUtf8?

theorem length_hexBytes (bytes : List UInt8) : (hexBytes bytes).length = 2 * bytes.length := by
  induction bytes with
  | nil => rfl
  | cons b rest ih =>
    have step : hexBytes (b :: rest) = hexByte b ++ hexBytes rest := rfl
    rw [step, List.length_append, ih]
    simp only [hexByte, List.length_cons, List.length_nil]
    omega

/-! ## Reading back

A digit has the value it was written for, so every list of bytes and every text is read back
from its digits. -/

theorem hexValue?_hexDigit {n : Nat} (h : n < 16) : hexValue? (hexDigit n) = some n := by
  have every : ∀ k ∈ List.range 16, hexValue? (hexDigit k) = some k := by decide
  exact every n (List.mem_range.2 h)

theorem unhexBytes?_hexBytes (bytes : List UInt8) : unhexBytes? (hexBytes bytes) = some bytes := by
  induction bytes with
  | nil => rfl
  | cons b rest ih =>
    have step : hexBytes (b :: rest) =
      hexDigit (b.toNat / 16) :: hexDigit (b.toNat % 16) :: hexBytes rest := rfl
    have bound := b.toNat_lt
    have high : hexValue? (hexDigit (b.toNat / 16)) = some (b.toNat / 16) :=
      hexValue?_hexDigit (by omega)
    have low : hexValue? (hexDigit (b.toNat % 16)) = some (b.toNat % 16) :=
      hexValue?_hexDigit (by omega)
    have whole : UInt8.ofNat (16 * (b.toNat / 16) + b.toNat % 16) = b := by
      rw [Nat.div_add_mod, UInt8.ofNat_toNat]
    rw [step, unhexBytes?, high, low, ih]
    exact congrArg (fun c => some (c :: rest)) whole

theorem fromUTF8?_toByteArray (s : String) : String.fromUTF8? s.toByteArray = some s := by
  rw [String.fromUTF8?, dif_pos s.isValidUTF8]
  rfl

theorem ofUtf8?_utf8 (s : String) : ofUtf8? (utf8 s) = some s := by
  have bytes : (⟨(utf8 s).toArray⟩ : ByteArray) = s.toByteArray := by
    rw [utf8, Array.toArray_toList]
  rw [ofUtf8?, bytes, fromUTF8?_toByteArray]

theorem unhex?_hex (s : String) : unhex? (hex s) = some s := by
  rw [unhex?, hex, unhexBytes?_hexBytes, Option.bind_some, ofUtf8?_utf8]

/-- Texts with the same digits are the same. -/
theorem hex_inj {s t : String} : hex s = hex t ↔ s = t := by
  refine ⟨fun h => Option.some.inj ?_, congrArg hex⟩
  rw [← unhex?_hex s, ← unhex?_hex t, h]

end Text
end AmpComponents
