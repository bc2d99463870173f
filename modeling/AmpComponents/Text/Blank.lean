/-
Blank text.

A character is blank when it has the property `White_Space`, and a text is blank when all its
characters are, so the empty text is blank.
-/
import AmpComponents.Text.Ranges

namespace AmpComponents
namespace Text

/-- The property `White_Space`. -/
def blankRanges : List (Nat × Nat) :=
  [(0x9, 0xD), (0x20, 0x20), (0x85, 0x85), (0xA0, 0xA0), (0x1680, 0x1680), (0x2000, 0x200A),
    (0x2028, 0x2029), (0x202F, 0x202F), (0x205F, 0x205F), (0x3000, 0x3000)]

def isBlank (c : Char) : Bool := inRanges blankRanges c.toNat

def isBlankText (s : String) : Bool := s.toList.all isBlank

theorem isBlankText_iff {s : String} : isBlankText s = true ↔ ∀ c ∈ s.toList, isBlank c = true := by
  simp [isBlankText]

end Text
end AmpComponents
