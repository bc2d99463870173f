/-
Full case conversion.

`lowerChar` and `upperChar` are the full mappings of one character, which may take several
characters.  `lower` converts a text and applies the one rule that looks at the neighbours: a
capital sigma becomes the final form when the nearest character before it that is not
case-ignorable has a case and the nearest such character after it has none.
-/
import AmpComponents.Text.Casing.Tables

namespace AmpComponents
namespace Text

/-- The image of `n` when the run holds it. -/
def CaseRun.image? (r : CaseRun) (n : Nat) : Option Nat :=
  if r.first ≤ n ∧ n ≤ r.last ∧ (n - r.first) % r.step = 0 then
    some (r.target + (n - r.first))
  else none

/-- The lower case of one character, whatever its neighbours. -/
def lowerChar (c : Char) : List Char :=
  if c.toNat < 0x80 then [c.toLower]
  else if c.toNat = 0x130 then ['i', Char.ofNat 0x307]
  else match lowerRuns.findSome? (·.image? c.toNat) with
    | some n => [Char.ofNat n]
    | none => [c]

/-- The upper case of one character. -/
def upperChar (c : Char) : List Char :=
  if c.toNat < 0x80 then [c.toUpper]
  else match upperExpansions.lookup c.toNat with
    | some images => images.map Char.ofNat
    | none => match upperRuns.findSome? (·.image? c.toNat) with
      | some n => [Char.ofNat n]
      | none => [c]

def isCased (c : Char) : Bool := inRanges casedRanges c.toNat

def isCaseIgnorable (c : Char) : Bool := inRanges caseIgnorableRanges c.toNat

/-! ## Texts

The conversion walks the text with the part behind it reversed, so that the nearest character
on either side is the head of a list. -/

/-- Whether the first character that is not case-ignorable has a case. -/
def startsCased : List Char → Bool
  | [] => false
  | c :: rest => if isCaseIgnorable c then startsCased rest else isCased c

def capitalSigma : Char := Char.ofNat 0x3A3

/-- The small sigma, in its final form at the end of a word. -/
def smallSigma (before after : List Char) : Char :=
  if startsCased before && !startsCased after then Char.ofNat 0x3C2 else Char.ofNat 0x3C3

/-- Lower case of a text that follows `before`, which is given backwards. -/
def lowerAfter (before : List Char) : List Char → List Char
  | [] => []
  | c :: rest =>
    (if c = capitalSigma then [smallSigma before rest] else lowerChar c)
      ++ lowerAfter (c :: before) rest

def lower (s : List Char) : List Char := lowerAfter [] s

def lowerText (s : String) : String := String.ofList (lower s.toList)

theorem lower_nil : lower [] = [] := rfl

/-- An ASCII character has one lower-case character. -/
theorem lowerChar_of_ascii {c : Char} (h : c.toNat < 0x80) : lowerChar c = [c.toLower] := by
  rw [lowerChar, if_pos h]

theorem upperChar_of_ascii {c : Char} (h : c.toNat < 0x80) : upperChar c = [c.toUpper] := by
  rw [upperChar, if_pos h]

end Text
end AmpComponents
