/-
What the readers of a schema make of compact text, said of the value.

A reader that wants one type and meets another fails, so what a typed reader gives is a partial
function of the value (`text?`, `boolean?`, `int64?`), whatever the shape of the value.  Options
and lists take theirs from the reader of the part.
-/
import AmpComponents.Proofs.Json.Values

namespace AmpComponents
namespace Json

variable {v : Value}

/-- The text of a number, as far as readers look. -/
theorem exists_numberChars {n : Numeral} (hn : n.WellFormed) :
    ∃ c tail, n.chars = c :: tail ∧ isSpace c = false ∧ startsNumber c = true := by
  obtain ⟨c, tail, hchars, hstarts⟩ := Numeral.exists_chars_eq_cons hn
  exact ⟨c, tail, hchars, isSpace_of_startsNumber hstarts, hstarts⟩

/-- The first character of a text tells `null`, lists and objects from all else. -/
theorem Value.Formed.opens (h : v.Formed) :
    ∃ c tail, v.chars = c :: tail ∧ isSpace c = false ∧ (c = 'n' → v = .null) ∧
      (c = '[' → ∃ items, v = .list items) ∧ (c = '\x7b' → ∃ members, v = .object members) := by
  cases h with
  | null => exact ⟨'n', _, by rw [Value.chars], by decide, fun _ => rfl, by simp, by simp⟩
  | boolean b =>
    cases b <;> exact ⟨_, _, by rw [Value.chars], by decide, by simp, by simp, by simp⟩
  | number hn =>
    obtain ⟨c, tail, hchars, hspace, hstarts⟩ := exists_numberChars hn
    have hne : ∀ {d : Char}, startsNumber d = false → c ≠ d := ne_of_startsNumber hstarts
    exact ⟨c, tail, by rw [Value.chars, hchars], hspace, fun hc => absurd hc (hne (by decide)),
      fun hc => absurd hc (hne (by decide)), fun hc => absurd hc (hne (by decide))⟩
  | text s => exact ⟨'"', _, by rw [Value.chars]; rfl, by decide, by simp, by simp, by simp⟩
  | @list items h =>
    exact ⟨'[', _, by rw [Value.chars]; rfl, by decide, by simp, fun _ => ⟨items, rfl⟩, by simp⟩
  | @object members h =>
    exact ⟨'\x7b', _, by rw [Value.chars]; rfl, by decide, by simp, by simp,
      fun _ => ⟨members, rfl⟩⟩

/-! ## Scalars -/

def text? : Value → Option String
  | .text s => some s
  | _ => none

def boolean? : Value → Option Bool
  | .boolean b => some b
  | _ => none

def int64? : Value → Option Int64
  | .number n => (n.value >>= int64OfNumber).toOption
  | _ => none

theorem decodes_text (h : v.Formed) : Decodes readText v.chars (text? v) := by
  refine ⟨h.starts, fun rest hrest => ?_⟩
  cases h with
  | null => rw [Value.chars]; rfl
  | boolean b => cases b <;> rw [Value.chars] <;> rfl
  | @number n hn =>
    obtain ⟨c, tail, hchars, hspace, hstarts⟩ := exists_numberChars hn
    rw [Value.chars, hchars, Input.ofChars_cons, List.cons_append, readText,
      skipSpace_of_not_space hspace]
    split
    · next heq =>
      exact absurd (Symbol.char.inj (List.cons.inj heq).1) (ne_of_startsNumber hstarts (by decide))
    · rfl
  | text s =>
    rw [Value.chars, (reads_text s).eq rest hrest]
    rfl
  | list h => rw [ofChars_list]; rfl
  | object h => rw [ofChars_object]; rfl

theorem decodes_boolean (h : v.Formed) : Decodes readBoolean v.chars (boolean? v) := by
  refine ⟨h.starts, fun rest hrest => ?_⟩
  cases h with
  | null => rw [Value.chars]; rfl
  | boolean b =>
    rw [(reads_boolean b).eq rest hrest]
    rfl
  | @number n hn =>
    obtain ⟨c, tail, hchars, hspace, hstarts⟩ := exists_numberChars hn
    have hne : ∀ {d : Char}, startsNumber d = false → c ≠ d := ne_of_startsNumber hstarts
    rw [Value.chars, hchars, Input.ofChars_cons, List.cons_append, readBoolean,
      skipSpace_of_not_space hspace]
    split
    · next heq => exact absurd (Symbol.char.inj (List.cons.inj heq).1) (hne (by decide))
    · next heq => exact absurd (Symbol.char.inj (List.cons.inj heq).1) (hne (by decide))
    · rfl
  | text s => rw [Value.chars, ofChars_stringChars]; rfl
  | list h => rw [ofChars_list]; rfl
  | object h => rw [ofChars_object]; rfl

theorem decodes_int64 (h : v.Formed) : Decodes readInt64 v.chars (int64? v) := by
  refine ⟨h.starts, fun rest hrest => ?_⟩
  cases h with
  | null => rw [Value.chars]; rfl
  | boolean b => cases b <;> rw [Value.chars] <;> rfl
  | @number n hn =>
    obtain ⟨c, tail, hchars, hspace, hstarts⟩ := exists_numberChars hn
    have hread := readNumeral_chars .endInValue hn hrest
    rw [hchars, Input.ofChars_cons, List.cons_append] at hread
    rw [Value.chars, hchars, Input.ofChars_cons, List.cons_append, readInt64,
      skipSpace_of_not_space hspace]
    simp only [hstarts, if_true, hread, int64?, toOption_bind]
    show (n.value.toOption.bind fun value =>
      (int64OfNumber value).toOption.bind fun i => some (i, rest)) = _
    rw [Option.map_bind]
    congr 1
    funext value
    exact (Option.map_eq_bind (f := fun i => (i, rest))).symm
  | text s => rw [Value.chars, ofChars_stringChars]; rfl
  | list h => rw [ofChars_list]; rfl
  | object h => rw [ofChars_object]; rfl

theorem int64?_ofInt (r : Int64) : int64? (.ofInt r.toInt) = some r := by
  rw [Value.ofInt, int64?, Numeral.value, Numeral.number?_ofInt r.le_toInt r.toInt_lt]
  exact toOption_eq_some_iff.2 (int64OfNumber_toInt r)

theorem reads_int64 (r : Int64) : Reads readInt64 (Value.ofInt r.toInt).chars r := by
  rw [← decodes_some_iff, ← int64?_ofInt r]
  exact decodes_int64 (.number (Numeral.wellFormed_ofInt r.toInt))

/-! ## Optional parts -/

/-- `null`, or what a value stands for. -/
def optional? {α : Type} (decode : Value → Option α) : Value → Option (Option α)
  | .null => some none
  | v => (decode v).map some

theorem optional?_of_ne {α : Type} (decode : Value → Option α) (hnull : v ≠ .null) :
    optional? decode v = (decode v).map some := by
  unfold optional?
  split
  · exact absurd rfl hnull
  · rfl

theorem decodes_optional {α : Type} {read : Reader α} {decode : Value → Option α}
    (hformed : v.Formed) (h : Decodes read v.chars (decode v)) :
    Decodes (readOptional read) v.chars (optional? decode v) := by
  by_cases hnull : v = .null
  · subst hnull
    refine ⟨h.starts, fun rest _ => ?_⟩
    rw [Value.chars]
    rfl
  · obtain ⟨c, tail, hchars, -, hopens, -⟩ := hformed.opens
    rw [optional?_of_ne decode hnull]
    refine h.optional fun hn => hnull (hopens ?_)
    rw [hchars] at hn
    exact Option.some.inj hn

/-! ## Lists -/

/-- The items of a list. -/
def list? {α : Type} (decode : Value → Option α) : Value → Option (List α)
  | .list items => (items.map decode).mapM id
  | _ => none

theorem list?_of_ne {α : Type} (decode : Value → Option α) (hlist : ∀ items, v ≠ .list items) :
    list? decode v = none := by
  unfold list?
  split
  · next items => exact absurd rfl (hlist items)
  · rfl

theorem decodes_list {α : Type} {item : Nat → Reader α} {room : Nat}
    {decode : Value → Option α} (hformed : v.Formed)
    (h : ∀ w, w.Formed → Decodes (item room) w.chars (decode w)) :
    Decodes (readList item (room + 1)) v.chars (list? decode v) := by
  refine ⟨hformed.starts, fun rest hrest => ?_⟩
  by_cases hlist : ∃ items, v = .list items
  · obtain ⟨items, rfl⟩ := hlist
    have hdecodes : List.Forall₂ (fun w o => Decodes (item room) w.chars o) items
        (items.map decode) :=
      List.forall₂_map_right_iff.2 (List.forall₂_same.2 fun w hw =>
        h w (Value.formed_list_iff.1 hformed w hw))
    rw [ofChars_list, readList, skipSpace_of_not_space (by decide)]
    exact toOption_readListBody hdecodes rest
  · obtain ⟨c, tail, hchars, hspace, -, hopens, -⟩ := hformed.opens
    rw [list?_of_ne decode fun items heq => hlist ⟨items, heq⟩, hchars, Input.ofChars_cons,
      List.cons_append, readList, skipSpace_of_not_space hspace]
    split
    · next heq => exact absurd (hopens (Symbol.char.inj (List.cons.inj heq).1)) hlist
    · rfl

end Json
end AmpComponents
