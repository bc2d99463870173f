/-
File names with directories.

A path is a list of names, from the root or from the current directory.  The names `.` and `..`
are kept, since they mean something only where the path is followed; empty names between
slashes are not.  A slash at the end is remembered: such a path can only name a directory.
-/
namespace AmpComponents

structure Path where
  rooted : Bool
  parts : List String
  /-- Whether a slash follows the last name. -/
  slashed : Bool
  deriving DecidableEq, Repr

/-- The pieces of a text between slashes, with the piece so far backwards. -/
def splitSlashes (piece : List Char) : List Char → List (List Char)
  | [] => [piece.reverse]
  | c :: rest =>
    if c = '/' then piece.reverse :: splitSlashes [] rest else splitSlashes (c :: piece) rest

namespace Path

def ofText (s : String) : Path :=
  let parts := (splitSlashes [] s.toList).filter (· ≠ [])
  ⟨s.toList.head? = some '/', parts.map String.ofList,
    parts ≠ [] && s.toList.getLast? = some '/'⟩

def text (p : Path) : String :=
  (if p.rooted then "/" else "") ++ String.intercalate "/" p.parts
    ++ (if p.slashed then "/" else "")

/-- The path of no name at all. -/
def isEmpty (p : Path) : Bool := !p.rooted && p.parts.isEmpty

/-- A file in the directory `p`. -/
def child (p : Path) (name : String) : Path := ⟨p.rooted, p.parts ++ [name], false⟩

/-- The names that count when the last one is taken away: a `.` counts only in front of a path
that is not rooted. -/
def significant : Path → List String
  | ⟨false, "." :: rest, _⟩ => "." :: rest.filter (· ≠ ".")
  | ⟨_, parts, _⟩ => parts.filter (· ≠ ".")

/-- The directory a path lies in, by its names alone; the root and the empty path have none. -/
def parent? (p : Path) : Option Path :=
  if p.significant = [] then none else some ⟨p.rooted, p.significant.dropLast, false⟩

theorem length_significant_le (p : Path) : p.significant.length ≤ p.parts.length := by
  unfold significant
  split
  · simp only [List.length_cons]
    exact Nat.succ_le_succ (List.length_filter_le ..)
  · exact List.length_filter_le ..

theorem length_parts_of_parent? {p q : Path} (h : p.parent? = some q) :
    q.parts.length < p.parts.length := by
  unfold parent? at h
  split at h
  · cases h
  · next hne =>
    cases h
    have hpos : 0 < p.significant.length := List.length_pos_iff.2 hne
    have hle := p.length_significant_le
    simp only [List.length_dropLast]
    omega

end Path
end AmpComponents
