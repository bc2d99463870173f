/-
What is written for a character.

Texts are written between quotes in two ways: `Text.literalChar` writes for the script, and
`Json.stringChar` for values.  A character becomes a letter behind a backslash, four digits, or
itself, and it stands for itself only when it is no quote, no backslash and no control.
`IsPiece` is this in one predicate, so that reading and keeping within a line are shown once for
both ways.
-/
import AmpComponents.Json.Value
import AmpComponents.Text.Literal

namespace AmpComponents
namespace Text

/-! ## Pieces -/

/-- Letters and the characters they name behind a backslash.  A quote names itself as well. -/
def letterNames : List (Char × Char) :=
  [('\\', '\\'), ('b', '\x08'), ('f', '\x0c'), ('n', '\n'), ('r', '\r'), ('t', '\t')]

inductive IsPiece (quote c : Char) : List Char → Prop where
  | letter {l : Char} (h : (l, c) ∈ (quote, quote) :: letterNames) : IsPiece quote c ['\\', l]
  | digits (h : c.toNat < 0x10000) : IsPiece quote c (fourDigitEscape c.toNat)
  | plain (hquote : c ≠ quote) (hback : c ≠ '\\') (hcontrol : 0x20 ≤ c.toNat) :
    IsPiece quote c [c]

theorem isPiece_of_name {quote c l : Char} (hc : (l, c) ∈ letterNames) :
    IsPiece quote c ['\\', l] :=
  .letter (List.mem_cons_of_mem _ hc)

theorem isPiece_literalChar (c : Char) : IsPiece '\x27' c (literalChar c) := by
  unfold literalChar
  split
  · next h => subst h; exact .letter List.mem_cons_self
  split
  · next h => subst h; exact isPiece_of_name (by decide)
  split
  · next h => subst h; exact isPiece_of_name (by decide)
  split
  · next h => subst h; exact isPiece_of_name (by decide)
  split
  · next h => subst h; exact isPiece_of_name (by decide)
  split
  · next h =>
    apply IsPiece.digits
    simp only [isControl, Bool.or_eq_true, decide_eq_true_eq, Bool.and_eq_true] at h
    omega
  · next hquote hback _ _ _ hrest =>
    refine .plain hquote hback ?_
    simp only [isControl, Bool.or_eq_true, decide_eq_true_eq, Bool.and_eq_true] at hrest
    omega

/-- Below the space the first two digits are zeros. -/
theorem fourDigitEscape_of_lt {n : Nat} (h : n < 0x20) :
    fourDigitEscape n = ['\\', 'u', '0', '0', hexDigit (n / 16), hexDigit (n % 16)] := by
  have hfirst : n / 4096 % 16 = 0 := by omega
  have hsecond : n / 256 % 16 = 0 := by omega
  have hthird : n / 16 % 16 = n / 16 := by omega
  rw [fourDigitEscape, hfirst, hsecond, hthird]
  rfl

theorem isPiece_stringChar (c : Char) : IsPiece '"' c (Json.stringChar c) := by
  unfold Json.stringChar
  split
  · next h => subst h; exact .letter List.mem_cons_self
  split
  · next h => subst h; exact isPiece_of_name (by decide)
  split
  · next h => subst h; exact isPiece_of_name (by decide)
  split
  · next h => subst h; exact isPiece_of_name (by decide)
  split
  · next h => subst h; exact isPiece_of_name (by decide)
  split
  · next h => subst h; exact isPiece_of_name (by decide)
  split
  · next h => subst h; exact isPiece_of_name (by decide)
  split
  · next h =>
    rw [← fourDigitEscape_of_lt h]
    exact .digits (by omega)
  · next hquote hback _ _ _ _ _ hcontrol => exact .plain hquote hback (Nat.not_lt.1 hcontrol)

/-! ## Controls -/

/-- Whether a text holds none of the controls below the space. -/
def NoControls (s : List Char) : Prop := ∀ c ∈ s, 0x20 ≤ c.toNat

instance (s : List Char) : Decidable (NoControls s) := List.decidableBAll _ s

theorem noControls_append {s t : List Char} (hs : NoControls s) (ht : NoControls t) :
    NoControls (s ++ t) := by
  intro c hc
  rcases List.mem_append.1 hc with h | h
  · exact hs c h
  · exact ht c h

theorem noControls_cons {c : Char} {s : List Char} (hc : 0x20 ≤ c.toNat) (hs : NoControls s) :
    NoControls (c :: s) :=
  List.forall_mem_cons.2 ⟨hc, hs⟩

theorem not_mem_of_noControls {s : List Char} (h : NoControls s) {c : Char} (hc : c.toNat < 0x20) :
    c ∉ s := by
  intro hmem
  have hle := h c hmem
  omega

theorem noControls_hexDigit (n : Nat) : 0x20 ≤ (hexDigit (n % 16)).toNat := by
  have every : ∀ k ∈ List.range 16, 0x20 ≤ (hexDigit k).toNat := by decide
  exact every (n % 16) (List.mem_range.2 (Nat.mod_lt n (by omega)))

theorem noControls_of_isPiece {quote c : Char} {piece : List Char} (h : IsPiece quote c piece)
    (hquote : 0x20 ≤ quote.toNat) : NoControls piece := by
  have hback : 0x20 ≤ '\\'.toNat := by decide
  cases h with
  | letter h =>
    have hnames : ∀ p ∈ letterNames, 0x20 ≤ p.1.toNat := by decide
    rcases List.mem_cons.1 h with heq | hname
    · obtain ⟨rfl, rfl⟩ := Prod.mk.inj heq
      exact noControls_cons hback (noControls_cons hquote (by decide))
    · exact noControls_cons hback (noControls_cons (hnames _ hname) (by decide))
  | digits h =>
    exact noControls_cons hback (noControls_cons (by decide)
      (noControls_cons (noControls_hexDigit _) (noControls_cons (noControls_hexDigit _)
        (noControls_cons (noControls_hexDigit _) (noControls_cons (noControls_hexDigit _)
          (by decide))))))
  | plain _ _ hcontrol => exact noControls_cons hcontrol (by decide)

/-- Pieces between quotes hold no control. -/
theorem noControls_quoted {quote : Char} (hquote : 0x20 ≤ quote.toNat) {piece : Char → List Char}
    (h : ∀ c, IsPiece quote c (piece c)) (s : List Char) :
    NoControls (quote :: s.flatMap piece ++ [quote]) := by
  refine noControls_append (noControls_cons hquote ?_) (noControls_cons hquote (by decide))
  intro c hc
  obtain ⟨d, -, hd⟩ := List.mem_flatMap.1 hc
  exact noControls_of_isPiece (h d) hquote c hd

theorem noControls_literalChars (s : List Char) : NoControls (literalChars s) :=
  noControls_quoted (by decide) isPiece_literalChar s

theorem noControls_stringChars (s : String) : NoControls (Json.stringChars s) :=
  noControls_quoted (by decide) isPiece_stringChar s.toList

end Text
end AmpComponents
