/-
String literals as the script language reads them.

A script string is a sequence of sixteen-bit code units, and `codeUnits` gives the units of a
text.  `readString` reads a literal in quotes of either kind: every escape of the language, line
continuations included, and the octal escapes refused as everywhere in a module.  A line feed or
a carriage return ends no literal properly; `U+2028` and `U+2029` may stand in one.

The library writes literals in two ways.  `Text.literal` writes single quotes, and
`Json.stringChars` double quotes with the escapes of that notation.  Both are read back to the
units of the text they were written for (`readString_literalChars`, `readString_stringChars`).
Each way writes pieces for the characters, so what is shown is that a piece is read to the units
of its character.
-/
import AmpComponents.Proofs.Text.Pieces

namespace AmpComponents
namespace Script

open Text (hexValue? hexDigit)

/-! ## Code units -/

/-- A code point in UTF-16. -/
def pointUnits (n : Nat) : List UInt16 :=
  if n < 0x10000 then [.ofNat n]
  else [.ofNat (0xD800 + (n - 0x10000) / 0x400), .ofNat (0xDC00 + (n - 0x10000) % 0x400)]

/-- The value of a text as a script string. -/
def codeUnits (s : List Char) : List UInt16 := s.flatMap fun c => pointUnits c.toNat

theorem toNat_ofNat {n : Nat} (h : n < 0x10000) : (UInt16.ofNat n).toNat = n :=
  UInt16.toNat_ofNat_of_lt' h

/-- No character is a surrogate, so the first unit tells how many units belong to it. -/
theorem pointUnits_append_inj {c d : Char} {x y : List UInt16}
    (h : pointUnits c.toNat ++ x = pointUnits d.toNat ++ y) : c = d ∧ x = y := by
  have hc : c.toNat < 0xD800 ∨ 0xDFFF < c.toNat ∧ c.toNat < 0x110000 := c.valid
  have hd : d.toNat < 0xD800 ∨ 0xDFFF < d.toNat ∧ d.toNat < 0x110000 := d.valid
  unfold pointUnits at h
  split at h <;> split at h
  · next hsmall hsmall' =>
    obtain ⟨hhead, htail⟩ := List.cons.inj h
    have hhead := congrArg UInt16.toNat hhead
    rw [toNat_ofNat hsmall, toNat_ofNat hsmall'] at hhead
    exact ⟨Char.toNat_inj.1 hhead, htail⟩
  · next hsmall hlarge =>
    have hhead := congrArg UInt16.toNat (List.cons.inj h).1
    rw [toNat_ofNat hsmall, toNat_ofNat (by omega)] at hhead
    omega
  · next hlarge hsmall =>
    have hhead := congrArg UInt16.toNat (List.cons.inj h).1
    rw [toNat_ofNat (by omega), toNat_ofNat hsmall] at hhead
    omega
  · next hlarge hlarge' =>
    obtain ⟨hhead, hrest⟩ := List.cons.inj h
    obtain ⟨hnext, htail⟩ := List.cons.inj hrest
    have hhead := congrArg UInt16.toNat hhead
    have hnext := congrArg UInt16.toNat hnext
    rw [toNat_ofNat (by omega), toNat_ofNat (by omega)] at hhead hnext
    exact ⟨Char.toNat_inj.1 (by omega), htail⟩

theorem pointUnits_ne_nil (n : Nat) : pointUnits n ≠ [] := by
  unfold pointUnits
  split <;> simp

/-- Texts with the same value are the same. -/
theorem codeUnits_inj {s t : List Char} : codeUnits s = codeUnits t ↔ s = t := by
  refine ⟨fun h => ?_, congrArg _⟩
  induction s generalizing t with
  | nil =>
    cases t with
    | nil => rfl
    | cons d t => exact absurd (List.append_eq_nil_iff.1 h.symm).1 (pointUnits_ne_nil _)
  | cons c s ih =>
    cases t with
    | nil => exact absurd (List.append_eq_nil_iff.1 h).1 (pointUnits_ne_nil _)
    | cons d t =>
      obtain ⟨rfl, hrest⟩ := pointUnits_append_inj h
      rw [ih hrest]

/-! ## Escapes -/

/-- The characters that end a line of a script. -/
def isLineEnd (c : Char) : Bool :=
  c = '\n' || c = '\r' || c.toNat = 0x2028 || c.toNat = 0x2029

/-- The code unit that one letter names behind a backslash. -/
def letterEscape? (c : Char) : Option UInt16 :=
  if c = '\x27' then some 0x27
  else if c = '"' then some 0x22
  else if c = '\\' then some 0x5C
  else if c = 'b' then some 0x08
  else if c = 'f' then some 0x0C
  else if c = 'n' then some 0x0A
  else if c = 'r' then some 0x0D
  else if c = 't' then some 0x09
  else if c = 'v' then some 0x0B
  else none

/-- The code point between braces.  `n` is what the digits so far amount to, if there were any. -/
def readBraced (n : Option Nat) : List Char → Option (Nat × List Char)
  | [] => none
  | c :: rest =>
    if c = '\x7d' then n.map fun n => (n, rest)
    else do
      let digit ← hexValue? c
      let n := 16 * n.getD 0 + digit
      if n < 0x110000 then readBraced (some n) rest else none

/-- An escape behind its backslash: the units it stands for, and what follows it. -/
def readEscape : List Char → Option (List UInt16 × List Char)
  | [] => none
  | 'u' :: '\x7b' :: rest => (readBraced none rest).map fun p => (pointUnits p.1, p.2)
  | 'u' :: a :: b :: c :: d :: rest => do
    let a ← hexValue? a
    let b ← hexValue? b
    let c ← hexValue? c
    let d ← hexValue? d
    return ([.ofNat (((a * 16 + b) * 16 + c) * 16 + d)], rest)
  | 'x' :: a :: b :: rest => do
    let a ← hexValue? a
    let b ← hexValue? b
    return ([.ofNat (a * 16 + b)], rest)
  | '\r' :: '\n' :: rest => some ([], rest)
  | c :: rest =>
    match letterEscape? c with
    | some unit => some ([unit], rest)
    | none =>
      if isLineEnd c then some ([], rest)
      else if c = '0' && !(rest.head?.any Char.isDigit) then some ([0], rest)
      else if c.isDigit || c = 'u' || c = 'x' then none
      else some (pointUnits c.toNat, rest)

theorem readBraced_length {n : Option Nat} {s rest : List Char} {point : Nat}
    (h : readBraced n s = some (point, rest)) : rest.length < s.length := by
  induction s generalizing n with
  | nil => cases h
  | cons c s ih =>
    rw [readBraced] at h
    split at h
    · obtain ⟨m, -, hm⟩ := Option.map_eq_some_iff.1 h
      cases hm
      exact Nat.lt_succ_self _
    · obtain ⟨digit, -, hrest⟩ := Option.bind_eq_some_iff.1 h
      simp only at hrest
      split at hrest
      · exact Nat.lt_succ_of_lt (ih hrest)
      · cases hrest

/-- An escape takes at least one character. -/
theorem readEscape_length {s rest : List Char} {units : List UInt16}
    (h : readEscape s = some (units, rest)) : rest.length < s.length := by
  unfold readEscape at h
  split at h
  · cases h
  · obtain ⟨p, hp, heq⟩ := Option.map_eq_some_iff.1 h
    cases heq
    have hlt := readBraced_length hp
    simp only [List.length_cons]
    omega
  · simp only [bind, Option.bind_eq_some_iff] at h
    obtain ⟨_, -, _, -, _, -, _, -, heq⟩ := h
    cases heq
    simp only [List.length_cons]
    omega
  · simp only [bind, Option.bind_eq_some_iff] at h
    obtain ⟨_, -, _, -, heq⟩ := h
    cases heq
    simp only [List.length_cons]
    omega
  · cases h
    simp only [List.length_cons]
    omega
  · split at h
    · cases h
      exact Nat.lt_succ_self _
    · split at h
      · cases h
        exact Nat.lt_succ_self _
      · split at h
        · cases h
          exact Nat.lt_succ_self _
        · split at h
          · cases h
          · cases h
            exact Nat.lt_succ_self _

/-! ## Literals -/

/-- The units of a literal up to its closing quote, and what follows the quote. -/
def readBody (quote : Char) (s : List Char) : Option (List UInt16 × List Char) :=
  match s with
  | [] => none
  | c :: rest =>
    if c = quote then some ([], rest)
    else if c = '\\' then
      match h : readEscape rest with
      | none => none
      | some (units, rest') =>
        have : rest'.length < rest.length := readEscape_length h
        (readBody quote rest').map fun p => (units ++ p.1, p.2)
    else if c = '\n' || c = '\r' then none
    else (readBody quote rest).map fun p => (pointUnits c.toNat ++ p.1, p.2)
termination_by s.length
decreasing_by all_goals simp only [List.length_cons]; omega

/-- The literal at the start of a text. -/
def readString : List Char → Option (List UInt16 × List Char)
  | '\x27' :: rest => readBody '\x27' rest
  | '"' :: rest => readBody '"' rest
  | _ => none

section Body

variable {quote : Char}

theorem readBody_quote (rest : List Char) : readBody quote (quote :: rest) = some ([], rest) := by
  rw [readBody, if_pos rfl]

theorem readBody_escape (hquote : quote ≠ '\\') {s rest : List Char} {units : List UInt16}
    (h : readEscape s = some (units, rest)) :
    readBody quote ('\\' :: s) = (readBody quote rest).map fun p => (units ++ p.1, p.2) := by
  rw [readBody, if_neg hquote.symm, if_pos rfl]
  split
  · next hnone =>
    rw [h] at hnone
    cases hnone
  · next heq =>
    rw [h] at heq
    cases heq
    rfl

theorem readBody_plain {c : Char} (hquote : c ≠ quote) (hback : c ≠ '\\') (hfeed : c ≠ '\n')
    (hreturn : c ≠ '\r') (rest : List Char) :
    readBody quote (c :: rest) =
      (readBody quote rest).map fun p => (pointUnits c.toNat ++ p.1, p.2) := by
  rw [readBody, if_neg hquote, if_neg hback, if_neg (by simp [hfeed, hreturn])]

end Body

/-! ## Reading back -/

theorem readEscape_letter {c : Char} {unit : UInt16} (h : letterEscape? c = some unit)
    (rest : List Char) : readEscape (c :: rest) = some ([unit], rest) := by
  have hu : c ≠ 'u' := by rintro rfl; cases h
  have hx : c ≠ 'x' := by rintro rfl; cases h
  have hreturn : c ≠ '\r' := by rintro rfl; cases h
  rw [readEscape.eq_def]
  split
  · next heq => cases heq
  · next heq => exact absurd (List.cons.inj heq).1 hu
  · next heq => exact absurd (List.cons.inj heq).1 hu
  · next heq => exact absurd (List.cons.inj heq).1 hx
  · next heq => exact absurd (List.cons.inj heq).1 hreturn
  · next heq =>
    obtain ⟨rfl, rfl⟩ := List.cons.inj heq
    rw [h]

/-- Four digits name one code unit. -/
theorem readEscape_fourDigits {n : Nat} (h : n < 0x10000) (rest : List Char) :
    readEscape ('u' :: hexDigit (n / 4096 % 16) :: hexDigit (n / 256 % 16) ::
      hexDigit (n / 16 % 16) :: hexDigit (n % 16) :: rest) = some ([.ofNat n], rest) := by
  have digit : ∀ k, hexValue? (hexDigit (k % 16)) = some (k % 16) := fun k =>
    Text.hexValue?_hexDigit (Nat.mod_lt k (by omega))
  have hbrace : hexDigit (n / 4096 % 16) ≠ '\x7b' := by
    intro e
    have hvalue := digit (n / 4096)
    rw [e] at hvalue
    cases hvalue
  have sum : ((n / 4096 % 16 * 16 + n / 256 % 16) * 16 + n / 16 % 16) * 16 + n % 16 = n := by
    omega
  rw [readEscape]
  · simp only [digit, bind, Option.bind, pure, sum]
  · exact hbrace

theorem pointUnits_of_lt {n : Nat} (h : n < 0x10000) : pointUnits n = [.ofNat n] := if_pos h

section Quoted

variable {quote : Char} (hquote : quote = '\x27' ∨ quote = '"')

include hquote

/-- A piece is read to the units of its character. -/
theorem readBody_of_isPiece {c : Char} {piece : List Char} (h : Text.IsPiece quote c piece)
    (rest : List Char) : readBody quote (piece ++ rest) =
      (readBody quote rest).map fun p => (pointUnits c.toNat ++ p.1, p.2) := by
  have hback : quote ≠ '\\' := by rcases hquote with rfl | rfl <;> decide
  cases h with
  | @letter l h =>
    have hnames : ∀ p ∈ Text.letterNames,
        letterEscape? p.1 = some (.ofNat p.2.toNat) ∧ p.2.toNat < 0x10000 := by decide
    have hname : letterEscape? l = some (.ofNat c.toNat) ∧ c.toNat < 0x10000 := by
      rcases List.mem_cons.1 h with heq | hname
      · obtain ⟨rfl, rfl⟩ := Prod.mk.inj heq
        rcases hquote with rfl | rfl <;> decide
      · exact hnames _ hname
    rw [pointUnits_of_lt hname.2]
    exact readBody_escape hback (readEscape_letter hname.1 rest)
  | digits hsmall =>
    rw [pointUnits_of_lt hsmall]
    exact readBody_escape hback (readEscape_fourDigits hsmall rest)
  | plain hne hback hcontrol =>
    have hfeed : c ≠ '\n' := by
      rintro rfl
      exact absurd hcontrol (by decide)
    have hreturn : c ≠ '\r' := by
      rintro rfl
      exact absurd hcontrol (by decide)
    exact readBody_plain hne hback hfeed hreturn rest

/-- Pieces between quotes are read to the units of their characters. -/
theorem readBody_flatMap {piece : Char → List Char} (h : ∀ c, Text.IsPiece quote c (piece c))
    (s rest : List Char) :
    readBody quote (s.flatMap piece ++ quote :: rest) = some (codeUnits s, rest) := by
  induction s with
  | nil => exact readBody_quote rest
  | cons c s ih =>
    rw [List.flatMap_cons, List.append_assoc, readBody_of_isPiece hquote (h c), ih]
    rfl

end Quoted

/-- A single-quoted literal has the value it was written for. -/
theorem readString_literalChars (s rest : List Char) :
    readString (Text.literalChars s ++ rest) = some (codeUnits s, rest) := by
  have shape : Text.literalChars s ++ rest =
      '\x27' :: (s.flatMap Text.literalChar ++ '\x27' :: rest) := by
    simp [Text.literalChars]
  rw [shape, readString, readBody_flatMap (.inl rfl) Text.isPiece_literalChar]

/-- A double-quoted string has the value it was written for. -/
theorem readString_stringChars (s : String) (rest : List Char) :
    readString (Json.stringChars s ++ rest) = some (codeUnits s.toList, rest) := by
  have shape : Json.stringChars s ++ rest =
      '"' :: (s.toList.flatMap Json.stringChar ++ '"' :: rest) := by
    simp [Json.stringChars]
  rw [shape, readString, readBody_flatMap (.inr rfl) Text.isPiece_stringChar]

end Script
end AmpComponents
