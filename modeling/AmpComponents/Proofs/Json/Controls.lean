/-
Compact text holds no controls.

The controls below the space are escaped in strings, and nothing else of the notation is one.
So a compact text stays within a line, and a NUL can mark its end.
-/
import AmpComponents.Proofs.Text.Pieces

namespace AmpComponents
namespace Json

open Text (NoControls noControls_append noControls_cons)

theorem noControls_digitChars (digits : List Digit) : NoControls (Numeral.digitChars digits) := by
  intro c hc
  obtain ⟨d, -, rfl⟩ := List.mem_map.1 hc
  have digit : ∀ d : Digit, 0x20 ≤ d.char.toNat := by decide
  exact digit d

theorem noControls_numeral (n : Numeral) : NoControls n.chars := by
  have hsign : ∀ negative : Bool, NoControls (if negative then ['-'] else []) := by
    intro negative
    cases negative <;> decide
  have hfraction : NoControls (Numeral.fractionChars n.fraction) := by
    unfold Numeral.fractionChars
    split
    · decide
    · exact noControls_cons (by decide) (noControls_digitChars _)
  have hexponent : NoControls (Numeral.exponentChars n.exponent) := by
    cases n.exponent with
    | none => decide
    | some e =>
      exact noControls_append (noControls_cons (by decide) (hsign e.negative))
        (noControls_digitChars e.digits)
  exact noControls_append (noControls_append (noControls_append (hsign n.negative)
    (noControls_digitChars n.whole)) hfraction) hexponent

/-! ## Values -/

mutual

/-- The compact text of a value holds no control. -/
theorem noControls_chars (v : Value) : NoControls v.chars := by
  cases v with
  | null => rw [Value.chars]; decide
  | boolean b => cases b <;> · rw [Value.chars]; decide
  | number n => rw [Value.chars]; exact noControls_numeral n
  | text s => rw [Value.chars]; exact Text.noControls_stringChars s
  | list items =>
    rw [Value.chars]
    exact noControls_append (noControls_cons (by decide) (noControls_itemChars items)) (by decide)
  | object members =>
    rw [Value.chars]
    exact noControls_append (noControls_cons (by decide) (noControls_memberChars members))
      (by decide)

theorem noControls_itemChars (vs : List Value) : NoControls (Value.itemChars vs) := by
  match vs with
  | [] => rw [Value.itemChars]; decide
  | [v] => rw [Value.itemChars]; exact noControls_chars v
  | v :: w :: rest =>
    rw [Value.itemChars]
    exact noControls_append (noControls_chars v)
      (noControls_cons (by decide) (noControls_itemChars (w :: rest)))

theorem noControls_memberChars (ms : List (String × Value)) :
    NoControls (Value.memberChars ms) := by
  match ms with
  | [] => rw [Value.memberChars]; decide
  | [(key, v)] =>
    rw [Value.memberChars]
    exact noControls_append (Text.noControls_stringChars key)
      (noControls_cons (by decide) (noControls_chars v))
  | (key, v) :: m :: rest =>
    rw [Value.memberChars]
    exact noControls_append (noControls_append (Text.noControls_stringChars key)
      (noControls_cons (by decide) (noControls_chars v)))
      (noControls_cons (by decide) (noControls_memberChars (m :: rest)))

end

end Json
end AmpComponents
