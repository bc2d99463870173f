/-
String literals of the emitted script.

`literal` writes a text between single quotes.  Quotes, backslashes, line ends and controls
are escaped, so a literal never spans lines and never ends early.  `readLiteral` reads a
literal at the start of a text and gives what follows it; it knows the escapes `literal`
writes.
-/
import AmpComponents.Text.Hex

namespace AmpComponents
namespace Text

/-- Controls: `U+0000` to `U+001F` and `U+007F` to `U+009F`. -/
def isControl (c : Char) : Bool := c.toNat < 0x20 || (0x7F ≤ c.toNat && c.toNat < 0xA0)

/-- A character by four hexadecimal digits. -/
def fourDigitEscape (n : Nat) : List Char :=
  ['\\', 'u', hexDigit (n / 4096 % 16), hexDigit (n / 256 % 16), hexDigit (n / 16 % 16),
    hexDigit (n % 16)]

def literalChar (c : Char) : List Char :=
  if c = '\x27' then ['\\', '\x27']
  else if c = '\\' then ['\\', '\\']
  else if c = '\n' then ['\\', 'n']
  else if c = '\r' then ['\\', 'r']
  else if c = '\t' then ['\\', 't']
  else if c.toNat = 0x2028 || c.toNat = 0x2029 || isControl c then fourDigitEscape c.toNat
  else [c]

def literalChars (s : List Char) : List Char := '\x27' :: s.flatMap literalChar ++ ['\x27']

/-- The text as a single-quoted literal. -/
def literal (s : String) : String := String.ofList (literalChars s.toList)

/-! ## Reading -/

/-- The character named by four hexadecimal digits. -/
def fourDigitChar? (a b c d : Char) : Option Char := do
  let a ← hexValue? a
  let b ← hexValue? b
  let c ← hexValue? c
  let d ← hexValue? d
  let n := ((a * 16 + b) * 16 + c) * 16 + d
  if n.isValidChar then some (Char.ofNat n) else none

/-- The body of a literal up to its closing quote, and what follows the quote.  A line end
inside a literal is refused. -/
def readLiteralBody : List Char → Option (List Char × List Char)
  | [] => none
  | '\x27' :: rest => some ([], rest)
  | '\\' :: 'u' :: a :: b :: c :: d :: rest => do
    let char ← fourDigitChar? a b c d
    let (body, rest) ← readLiteralBody rest
    return (char :: body, rest)
  | '\\' :: e :: rest => do
    let char ← match e with
      | '\x27' => some '\x27'
      | '\\' => some '\\'
      | 'n' => some '\n'
      | 'r' => some '\r'
      | 't' => some '\t'
      | _ => none
    let (body, rest) ← readLiteralBody rest
    return (char :: body, rest)
  | c :: rest => do
    if c = '\\' || c = '\n' || c = '\r' || c.toNat = 0x2028 || c.toNat = 0x2029 then none
    let (body, rest) ← readLiteralBody rest
    return (c :: body, rest)

/-- The literal at the start of a text. -/
def readLiteral : List Char → Option (List Char × List Char)
  | '\x27' :: rest => readLiteralBody rest
  | _ => none

/-! ## Reading back

Each character is read back from its own piece of the literal, whatever follows, so the body
of a literal is read back piece by piece. -/

/-- The four digits of a code point below `0x10000` name its character. -/
theorem fourDigitChar?_digits {c : Char} (small : c.toNat < 0x10000) :
    fourDigitChar? (hexDigit (c.toNat / 4096 % 16)) (hexDigit (c.toNat / 256 % 16))
      (hexDigit (c.toNat / 16 % 16)) (hexDigit (c.toNat % 16)) = some c := by
  have digit : ∀ n, hexValue? (hexDigit (n % 16)) = some (n % 16) := fun n =>
    hexValue?_hexDigit (Nat.mod_lt n (by omega))
  have sum : ((c.toNat / 4096 % 16 * 16 + c.toNat / 256 % 16) * 16 + c.toNat / 16 % 16) * 16
      + c.toNat % 16 = c.toNat := by omega
  have valid : c.toNat.isValidChar := c.valid
  simp only [fourDigitChar?, digit, bind, Option.bind, sum]
  rw [if_pos valid, Char.ofNat_toNat]

/-- A letter behind a backslash. -/
theorem readLiteralBody_letter {l c : Char}
    (h : (l, c) ∈ [('\x27', '\x27'), ('\\', '\\'), ('n', '\n'), ('r', '\r'), ('t', '\t')])
    (s : List Char) :
    readLiteralBody ('\\' :: l :: s) = (readLiteralBody s).map fun p => (c :: p.1, p.2) := by
  simp only [List.mem_cons, Prod.mk.injEq, List.not_mem_nil, or_false] at h
  rcases h with ⟨rfl, rfl⟩ | ⟨rfl, rfl⟩ | ⟨rfl, rfl⟩ | ⟨rfl, rfl⟩ | ⟨rfl, rfl⟩
  all_goals
    simp only [readLiteralBody]
    cases readLiteralBody s <;> rfl

theorem readLiteralBody_literalChar (c : Char) (s : List Char) :
    readLiteralBody (literalChar c ++ s) = (readLiteralBody s).map fun p => (c :: p.1, p.2) := by
  unfold literalChar
  split
  · next h => subst h; exact readLiteralBody_letter (by decide) s
  split
  · next h => subst h; exact readLiteralBody_letter (by decide) s
  split
  · next h => subst h; exact readLiteralBody_letter (by decide) s
  split
  · next h => subst h; exact readLiteralBody_letter (by decide) s
  split
  · next h => subst h; exact readLiteralBody_letter (by decide) s
  split
  · next h =>
    have small : c.toNat < 0x10000 := by
      simp only [isControl, Bool.or_eq_true, decide_eq_true_eq, Bool.and_eq_true] at h
      omega
    simp only [fourDigitEscape, List.cons_append, List.nil_append, readLiteralBody,
      fourDigitChar?_digits small]
    cases readLiteralBody s <;> rfl
  · next hquote hback hfeed hreturn _ hrest =>
    have plain : ¬(c = '\\' || c = '\n' || c = '\r' || c.toNat = 0x2028
        || c.toNat = 0x2029) = true := by
      simp only [Bool.or_eq_true, decide_eq_true_eq] at hrest ⊢
      rintro ((((h | h) | h) | h) | h)
      · exact hback h
      · exact hfeed h
      · exact hreturn h
      · exact hrest (.inl (.inl h))
      · exact hrest (.inl (.inr h))
    rw [List.cons_append, List.nil_append, readLiteralBody]
    · rw [if_neg plain]
      cases readLiteralBody s <;> rfl
    · exact hquote
    · intro _ _ _ _ _ h
      exact absurd h hback
    · intro _ _ h
      exact absurd h hback

theorem readLiteralBody_flatMap (s rest : List Char) :
    readLiteralBody (s.flatMap literalChar ++ '\x27' :: rest) = some (s, rest) := by
  induction s with
  | nil => rfl
  | cons c s ih =>
    rw [List.flatMap_cons, List.append_assoc, readLiteralBody_literalChar, ih]
    rfl

/-- A literal is read back whole, and what follows it is left. -/
theorem readLiteral_literalChars (s rest : List Char) :
    readLiteral (literalChars s ++ rest) = some (s, rest) := by
  have shape : literalChars s ++ rest = '\x27' :: (s.flatMap literalChar ++ '\x27' :: rest) := by
    simp [literalChars]
  rw [shape, readLiteral, readLiteralBody_flatMap]

end Text
end AmpComponents
