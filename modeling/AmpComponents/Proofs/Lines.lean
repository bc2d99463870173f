/-
A text of lines has those lines.

`renderLines` ends every line with a line feed and `Text.lines` cuts a text at its line feeds.
They undo each other on what `IsLine` allows: a line holds no line feed, and it does not end with
a carriage return, which the cut would take along.  Most lines are written around a text or two
that have to stay within them, and end with a text that is fixed (`isLine_around`).
-/
import AmpComponents.Emission
import AmpComponents.Text.Listing

namespace AmpComponents

/-- Whether a text can be one line of a text. -/
def IsLine (line : List Char) : Prop := '\n' ∉ line ∧ line.getLast? ≠ some '\r'

instance (line : List Char) : Decidable (IsLine line) := inferInstanceAs (Decidable (_ ∧ _))

/-- The end of a line decides how it ends. -/
theorem isLine_append {a b : List Char} (ha : '\n' ∉ a) (hne : b ≠ []) (hb : IsLine b) :
    IsLine (a ++ b) := by
  refine ⟨fun hmem => ?_, ?_⟩
  · rcases List.mem_append.1 hmem with h | h
    · exact ha h
    · exact hb.1 h
  · rw [List.getLast?_append]
    cases hlast : b.getLast? with
    | none => exact absurd (List.getLast?_eq_none_iff.1 hlast) hne
    | some c =>
      rw [Option.some_or, ← hlast]
      exact hb.2

/-! ## Lines around a text

Closed texts are checked as the lists they are written as: to cut a long text into its characters
takes the kernel long. -/

theorem feed_not_mem_append {a b : String} :
    '\n' ∉ (a ++ b).toList ↔ '\n' ∉ a.toList ∧ '\n' ∉ b.toList := by
  rw [String.toList_append, List.mem_append, not_or]

theorem feed_not_mem_ofList {a : List Char} (h : '\n' ∉ a) : '\n' ∉ (String.ofList a).toList := by
  rwa [String.toList_ofList]

/-- Whether a text can end a line that was begun. -/
def EndsLine (b : List Char) : Prop := b ≠ [] ∧ IsLine b

instance (b : List Char) : Decidable (EndsLine b) := inferInstanceAs (Decidable (_ ∧ _))

section Around

variable {a b c : List Char} {x y : String}

theorem isLine_before (hx : '\n' ∉ x.toList) (hb : EndsLine b) :
    IsLine (x ++ String.ofList b).toList := by
  rw [String.toList_append, String.toList_ofList]
  exact isLine_append hx hb.1 hb.2

theorem isLine_around (hx : '\n' ∉ x.toList) (h : '\n' ∉ a ∧ EndsLine b) :
    IsLine (String.ofList a ++ x ++ String.ofList b).toList :=
  isLine_before (feed_not_mem_append.2 ⟨feed_not_mem_ofList h.1, hx⟩) h.2

/-- A line with two texts between three that are fixed. -/
theorem isLine_around_two (hx : '\n' ∉ x.toList) (hy : '\n' ∉ y.toList)
    (h : '\n' ∉ a ∧ '\n' ∉ b ∧ EndsLine c) :
    IsLine (String.ofList a ++ x ++ String.ofList b ++ y ++ String.ofList c).toList := by
  have hfirst := feed_not_mem_append.2 ⟨feed_not_mem_ofList h.1, hx⟩
  have hsecond := feed_not_mem_append.2 ⟨hfirst, feed_not_mem_ofList h.2.1⟩
  exact isLine_before (feed_not_mem_append.2 ⟨hsecond, hy⟩) h.2.2

end Around

theorem isLine_ofList {line : List Char} (h : IsLine line) :
    IsLine (String.ofList line).toList := by
  rwa [String.toList_ofList]

theorem isLine_brace : IsLine "\x7d;".toList := isLine_ofList (by decide)

theorem isLine_blank : IsLine "".toList := isLine_ofList (by decide)

/-! ## Cutting at the line ends -/

theorem linesAfter_append {line : List Char} (h : '\n' ∉ line) (before rest : List Char) :
    Text.linesAfter before (line ++ '\n' :: rest) =
      Text.closeLine (line.reverse ++ before) :: Text.linesAfter [] rest := by
  induction line generalizing before with
  | nil => rfl
  | cons c line ih =>
    rw [List.mem_cons, not_or] at h
    rw [List.cons_append, Text.linesAfter, ih h.2, List.reverse_cons, List.append_assoc,
      List.singleton_append]
    exact fun e => h.1 e.symm

theorem closeLine_reverse {line : List Char} (h : line.getLast? ≠ some '\r') :
    Text.closeLine line.reverse = line := by
  unfold Text.closeLine
  split
  · next rest heq =>
    have hlast : line.getLast? = some '\r' := by
      rw [← List.head?_reverse, heq, List.head?_cons]
    exact absurd hlast h
  · exact List.reverse_reverse line

/-- The lines of a text of lines. -/
theorem lines_renderLines {lines : List String} (h : ∀ line ∈ lines, IsLine line.toList) :
    Text.lines (renderLines lines) = lines := by
  unfold Text.lines renderLines
  rw [String.toList_ofList]
  induction lines with
  | nil => rfl
  | cons line rest ih =>
    obtain ⟨hfeed, hreturn⟩ := h line List.mem_cons_self
    rw [List.flatMap_cons, List.append_assoc, List.singleton_append, linesAfter_append hfeed,
      List.append_nil, closeLine_reverse hreturn, List.map_cons,
      ih fun other hother => h other (List.mem_cons_of_mem _ hother), String.ofList_toList]

end AmpComponents
