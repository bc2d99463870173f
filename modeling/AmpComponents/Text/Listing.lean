/-
Numbered listings.

A line ends at a line feed, which takes one carriage return before it along; text after the
last line feed is a line of its own unless it is empty.  `numberedListing` sets a line number,
five columns wide, before each line.
-/
namespace AmpComponents
namespace Text

/-- A finished line, given backwards, without the carriage return that ends it. -/
def closeLine : List Char → List Char
  | '\r' :: line => line.reverse
  | line => line.reverse

/-- The lines of a text that follows the unfinished `line`, which is given backwards. -/
def linesAfter (line : List Char) : List Char → List (List Char)
  | [] => if line.isEmpty then [] else [line.reverse]
  | '\n' :: rest => closeLine line :: linesAfter [] rest
  | c :: rest => linesAfter (c :: line) rest

def lines (s : String) : List String := (linesAfter [] s.toList).map String.ofList

/-- The text pushed to the right end of `width` columns. -/
def padLeft (width : Nat) (s : String) : String :=
  String.ofList (List.replicate (width - s.length) ' ') ++ s

/-- Each line behind its number, counted from one. -/
def numberedLines (s : String) : List String :=
  (lines s).mapIdx fun i line => padLeft 5 (toString (i + 1)) ++ " " ++ line

def numberedListing (s : String) : String := String.intercalate "\n" (numberedLines s)

end Text
end AmpComponents
