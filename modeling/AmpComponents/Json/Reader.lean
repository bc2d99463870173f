/-
The pieces of the notation.

A reader takes symbols from the front of the input and gives what it read and the rest, or the
fault it met first.  This module reads what all values share: blanks, the three words, number
texts, strings with their escapes, and the frames of lists and objects.

A list or an object is read item by item, and each item takes at least one symbol, so the
input itself bounds the number of rounds: the loops run along a second copy of it.
-/
import AmpComponents.Json.Symbol
import AmpComponents.Json.Numeral
import AmpComponents.Text.Hex

namespace AmpComponents
namespace Json

abbrev Reader (α : Type) := Input → Except Fault (α × Input)

/-! ## Blanks and words -/

def isSpace (c : Char) : Bool := c == ' ' || c == '\n' || c == '\t' || c == '\r'

def skipSpace : Input → Input
  | .char c :: rest => if isSpace c then skipSpace rest else .char c :: rest
  | s => s

/-- The rest of a word whose first letter was read. -/
def readWord : List Char → Input → Except Fault Input
  | [], s => .ok s
  | _ :: _, [] => .error .endInValue
  | c :: word, next :: rest =>
    if next = .char c then readWord word rest else .error .expectedIdent

/-! ## Number texts

Where a digit is missing at the end of the input the fault depends on whether the number is
wanted or only passed over, so the lexer takes that fault as an argument. -/

/-- The digits at the front. -/
def takeDigits : Input → List Digit × Input
  | .char c :: rest =>
    match Digit.ofChar? c with
    | some d => ((d :: (takeDigits rest).1), (takeDigits rest).2)
    | none => ([], .char c :: rest)
  | s => ([], s)

/-- At least one digit. -/
def readDigits (atEnd : Fault) (s : Input) : Except Fault (List Digit × Input) :=
  match takeDigits s with
  | ([], []) => .error atEnd
  | ([], _ :: _) => .error .invalidNumber
  | (digits, rest) => .ok (digits, rest)

/-- The whole part: one digit when the first is a zero. -/
def readWhole (atEnd : Fault) (s : Input) : Except Fault (List Digit × Input) := do
  let (digits, rest) ← readDigits atEnd s
  if digits.head?.map (·.val) = some 0 ∧ digits.length ≠ 1 then .error .invalidNumber
  else .ok (digits, rest)

/-- The digits behind a point, when there is one. -/
def readFraction (atEnd : Fault) : Input → Except Fault (List Digit × Input)
  | .char '.' :: rest => readDigits atEnd rest
  | s => .ok ([], s)

/-- The digits behind an exponent mark. -/
def readExponentDigits (atEnd : Fault) (s : Input) : Except Fault (Option Exponent × Input) := do
  let (negative, s) := match s with
    | .char '+' :: rest => (false, rest)
    | .char '-' :: rest => (true, rest)
    | s => (false, s)
  let (digits, rest) ← readDigits atEnd s
  return (some ⟨negative, digits⟩, rest)

def readExponent (atEnd : Fault) : Input → Except Fault (Option Exponent × Input)
  | .char 'e' :: rest => readExponentDigits atEnd rest
  | .char 'E' :: rest => readExponentDigits atEnd rest
  | s => .ok (none, s)

/-- A numeral without its sign. -/
def readUnsigned (atEnd : Fault) (negative : Bool) (s : Input) :
    Except Fault (Numeral × Input) := do
  let (whole, s) ← readWhole atEnd s
  let (fraction, s) ← readFraction atEnd s
  let (exponent, s) ← readExponent atEnd s
  return (⟨negative, whole, fraction, exponent⟩, s)

def readNumeral (atEnd : Fault) : Input → Except Fault (Numeral × Input)
  | .char '-' :: rest => readUnsigned atEnd true rest
  | s => readUnsigned atEnd false s

/-- Whether a number text starts with this character. -/
def startsNumber (c : Char) : Bool := c == '-' || c.isDigit

/-! ## Strings -/

/-- Four hexadecimal digits.  Digits are counted in bytes: the string ends too early when
fewer than four bytes are left. -/
def readQuad : Input → Except Fault (Nat × Input)
  | .char a :: .char b :: .char c :: .char d :: rest =>
    match Text.hexValue? a, Text.hexValue? b, Text.hexValue? c, Text.hexValue? d with
    | some a, some b, some c, some d => .ok (((a * 16 + b) * 16 + c) * 16 + d, rest)
    | _, _, _, _ => .error .invalidEscape
  | s => if (Input.size s) < 4 then .error .endInString else .error .invalidEscape

def isHighSurrogate (n : Nat) : Bool := 0xD800 ≤ n && n ≤ 0xDBFF

def isLowSurrogate (n : Nat) : Bool := 0xDC00 ≤ n && n ≤ 0xDFFF

/-- The second half of a surrogate pair, as an escape of its own. -/
def readLowSurrogate : Input → Except Fault (Nat × Input)
  | [] => .error .endInString
  | [.char '\\'] => .error .endInString
  | .char '\\' :: .char 'u' :: rest => do
    let (low, rest) ← readQuad rest
    if isLowSurrogate low then .ok (low, rest) else .error .loneSurrogate
  | _ => .error .unexpectedEndOfHexEscape

/-- The character named by hexadecimal digits, with a second escape when the first names half
of a pair. -/
def readUnicodeEscape (s : Input) : Except Fault (Char × Input) := do
  let (n, rest) ← readQuad s
  if isLowSurrogate n then .error .loneSurrogate
  else if isHighSurrogate n then
    let (low, rest) ← readLowSurrogate rest
    return (Char.ofNat (0x10000 + (n - 0xD800) * 0x400 + (low - 0xDC00)), rest)
  else return (Char.ofNat n, rest)

/-- The character that a letter names behind a backslash. -/
def simpleEscape? (c : Char) : Option Char :=
  if c = '"' then some '"'
  else if c = '\\' then some '\\'
  else if c = '/' then some '/'
  else if c = 'b' then some '\x08'
  else if c = 'f' then some '\x0c'
  else if c = 'n' then some '\n'
  else if c = 'r' then some '\r'
  else if c = 't' then some '\t'
  else none

/-- An escape behind its backslash. -/
def readEscape : Input → Except Fault (Char × Input)
  | [] => .error .endInString
  | .stray _ :: _ => .error .invalidEscape
  | .char c :: rest =>
    match simpleEscape? c with
    | some e => .ok (e, rest)
    | none => if c = 'u' then readUnicodeEscape rest else .error .invalidEscape

theorem readQuad_length {s rest : Input} {n : Nat} (h : readQuad s = .ok (n, rest)) :
    rest.length < s.length := by
  unfold readQuad at h
  split at h
  · split at h
    · cases h
      simp only [List.length_cons]
      omega
    · cases h
  · split at h <;> cases h

theorem readLowSurrogate_length {s rest : Input} {n : Nat}
    (h : readLowSurrogate s = .ok (n, rest)) : rest.length < s.length := by
  unfold readLowSurrogate at h
  split at h
  · cases h
  · cases h
  · next tail =>
    cases hq : readQuad tail with
    | error f => simp [hq, bind, Except.bind] at h
    | ok p =>
      obtain ⟨low, after⟩ := p
      have hlt := readQuad_length hq
      simp only [hq, bind, Except.bind] at h
      split at h
      · cases h
        simp only [List.length_cons]
        omega
      · cases h
  · cases h

theorem readUnicodeEscape_length {s rest : Input} {c : Char}
    (h : readUnicodeEscape s = .ok (c, rest)) : rest.length < s.length := by
  unfold readUnicodeEscape at h
  cases hq : readQuad s with
  | error f => simp [hq, bind, Except.bind] at h
  | ok p =>
    obtain ⟨n, after⟩ := p
    have hlt := readQuad_length hq
    simp only [hq, bind, Except.bind] at h
    split at h
    · cases h
    · split at h
      · cases hl : readLowSurrogate after with
        | error f => simp [hl] at h
        | ok p =>
          obtain ⟨low, last⟩ := p
          have hlow := readLowSurrogate_length hl
          simp only [hl, pure, Except.pure, Except.ok.injEq, Prod.mk.injEq] at h
          rw [← h.2]
          omega
      · simp only [pure, Except.pure, Except.ok.injEq, Prod.mk.injEq] at h
        rw [← h.2]
        exact hlt

/-- An escape takes at least one symbol. -/
theorem readEscape_length {s rest : Input} {c : Char} (h : readEscape s = .ok (c, rest)) :
    rest.length < s.length := by
  unfold readEscape at h
  split at h
  · cases h
  · cases h
  · next c' tail =>
    split at h
    · cases h
      simp
    · split at h
      · have := readUnicodeEscape_length h
        simp only [List.length_cons]
        omega
      · cases h

/-- The body of a string up to its closing quote.  `text` is what was read so far, backwards.
Stray bytes are reported at the closing quote, so `intact` tells whether one was met. -/
def readStringBody (text : List Char) (intact : Bool) (s : Input) :
    Except Fault (List Char × Input) :=
  match s with
  | [] => .error .endInString
  | .stray _ :: rest => readStringBody text false rest
  | .char c :: rest =>
    if c = '"' then
      if intact then .ok (text.reverse, rest) else .error .invalidUnicode
    else if c = '\\' then
      match h : readEscape rest with
      | .error fault => .error fault
      | .ok (e, rest') =>
        have : rest'.length < rest.length := readEscape_length h
        readStringBody (e :: text) intact rest'
    else if c.toNat < 0x20 then .error .controlCharacter
    else readStringBody (c :: text) intact rest
termination_by s.length
decreasing_by all_goals simp only [List.length_cons]; omega

/-- A string behind its opening quote. -/
def readString (s : Input) : Except Fault (String × Input) := do
  let (text, rest) ← readStringBody [] true s
  return (String.ofList text, rest)

/-! ## Frames -/

/-- The colon between a key and its value. -/
def readColon (s : Input) : Except Fault Input :=
  match skipSpace s with
  | [] => .error .endInObject
  | .char ':' :: rest => .ok rest
  | _ :: _ => .error .expectedColon

/-- The items of a list that is not empty, up to its closing bracket. -/
def readItems {α : Type} (item : Reader α) : (budget : Input) → Reader (List α)
  | [], _ => .error .endInList
  | _ :: budget, s => do
    let (a, s) ← item s
    match skipSpace s with
    | [] => .error .endInList
    | .char ']' :: s => .ok ([a], s)
    | .char ',' :: s =>
      match skipSpace s with
      | [] => .error .endInValue
      | .char ']' :: _ => .error .trailingComma
      | s =>
        let (as, s) ← readItems item budget s
        return (a :: as, s)
    | _ :: _ => .error .expectedListCommaOrEnd

/-- A list behind its opening bracket. -/
def readListBody {α : Type} (item : Reader α) (s : Input) : Except Fault (List α × Input) :=
  match skipSpace s with
  | [] => .error .endInList
  | .char ']' :: s => .ok ([], s)
  | s => readItems item s s

/-- The members of an object that is not empty, from the first key's opening quote to the
closing brace.  `member` reads on behind a key and changes what was gathered so far. -/
def readMembers {σ : Type} (member : String → σ → Reader σ) : (budget : Input) → σ → Reader σ
  | [], _, _ => .error .endInObject
  | _ :: budget, gathered, s =>
    match s with
    | .char '"' :: s => do
      let (key, s) ← readString s
      let (gathered, s) ← member key gathered s
      match skipSpace s with
      | [] => .error .endInObject
      | .char '\x7d' :: s => .ok (gathered, s)
      | .char ',' :: s =>
        match skipSpace s with
        | [] => .error .endInValue
        | .char '\x7d' :: _ => .error .trailingComma
        | s => readMembers member budget gathered s
      | _ :: _ => .error .expectedObjectCommaOrEnd
    | _ => .error .keyMustBeString

/-- An object behind its opening brace. -/
def readObjectBody {σ : Type} (member : String → σ → Reader σ) (start : σ) (s : Input) :
    Except Fault (σ × Input) :=
  match skipSpace s with
  | [] => .error .endInObject
  | .char '\x7d' :: s => .ok (start, s)
  | s => readMembers member s start s

/-- The whole input as one value: nothing but blanks may follow it. -/
def readWhole? {α : Type} (read : Reader α) (s : Input) : Except Fault α := do
  let (a, s) ← read s
  if skipSpace s = [] then .ok a else .error .trailingCharacters

end Json
end AmpComponents
