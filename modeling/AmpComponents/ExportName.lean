/-
Names of the exported components.

The name of a tag is lower-cased and its hyphens are taken as word starts: the first
character and the character after a hyphen are upper-cased, and that hyphen goes away.  So
`amp-img` is exported as `AmpImg`.

A tag name that several rules share is told apart by a discriminator.  `variantName` appends
the discriminator's bytes in hexadecimal behind an underscore, so the variant names of one
tag differ whenever the discriminators do.
-/
import AmpComponents.Text.Casing
import AmpComponents.Text.Hex

namespace AmpComponents

open Text

/-! ## Capitals

A hyphen takes the character after it along, whatever that is, except a line feed.  Of two
hyphens in a row the first is dropped and the second stays. -/

/-- Capitals after the hyphens of a text. -/
def capitaliseAfterHyphens : List Char → List Char
  | '-' :: c :: rest =>
    if c = '\n' then '-' :: c :: capitaliseAfterHyphens rest
    else upperChar c ++ capitaliseAfterHyphens rest
  | c :: rest => c :: capitaliseAfterHyphens rest
  | [] => []

/-- Capitals at the start and after the hyphens.  A hyphen at the very start is dropped and
the character after it is left as it is. -/
def capitalise : List Char → List Char
  | [] => []
  | c :: rest =>
    if c = '\n' then c :: capitaliseAfterHyphens rest
    else if c = '-' then capitaliseAfterHyphens rest
    else upperChar c ++ capitaliseAfterHyphens rest

def exportChars (name : List Char) : List Char := capitalise (lower name)

/-- The name under which the component of a tag is exported. -/
def exportName (name : String) : String := String.ofList (exportChars name.toList)

/-! ## Variants -/

def variantChars (tag discriminator : String) : List Char :=
  tag.toList ++ '_' :: hex discriminator

/-- The name of one variant of a shared tag name. -/
def variantName (tag discriminator : String) : String :=
  String.ofList (variantChars tag discriminator)

/-- The variants of one tag name are named apart by their discriminators. -/
theorem variantName_right_inj {tag d e : String} :
    variantName tag d = variantName tag e ↔ d = e := by
  refine ⟨fun h => ?_, congrArg _⟩
  have hchars : variantChars tag d = variantChars tag e := String.ofList_inj.1 h
  exact hex_inj.1 (List.cons.inj (List.append_cancel_left hchars)).2

/-- The text before the last underscore and the text after it. -/
def splitLastUnderscore (s : List Char) : Option (List Char × List Char) :=
  let after := s.reverse.takeWhile (· ≠ '_')
  match s.reverse.dropWhile (· ≠ '_') with
  | [] => none
  | _ :: before => some (before.reverse, after.reverse)

/-- The tag name and the discriminator of a variant name. -/
def splitVariantName (name : String) : Option (String × String) := do
  let (tag, digits) ← splitLastUnderscore name.toList
  let discriminator ← unhex? digits
  return (String.ofList tag, discriminator)

/-! ## Blocked tags -/

/-- Tag names that no element can have. -/
def blockedTags : List String := ["!DOCTYPE", "$REFERENCE_POINT", "O:P"]

def isBlocked (tag : String) : Bool := blockedTags.contains tag

theorem isBlocked_iff {tag : String} : isBlocked tag = true ↔ tag ∈ blockedTags := by
  simp [isBlocked]

end AmpComponents
