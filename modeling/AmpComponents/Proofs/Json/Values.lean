/-
Values of any shape are read back, if they fit.

`Value.Formed` says what the notation asks of a value: its numbers are written the way numbers are.
`Value.Fits room` says what the reader asks besides: the numbers are in range, and lists and objects
nest at most `room` times.  A value that fits is read as itself (`reads_value`): members keep their
order, and a key that stands twice stays there twice.  A value that does not fit is refused, and
both are one equation (`decodes_value`).

The induction is on `Formed`, for every room.  A list takes the room of its items plus one, so the
items are read with one room less.
-/
import AmpComponents.Json.Value.Reading
import AmpComponents.Proofs.Json.Numerals

namespace AmpComponents
namespace Json

/-- A value whose numbers are written the way numbers are, of any size and at any depth. -/
inductive Value.Formed : Value → Prop where
  | null : Formed .null
  | boolean (b : Bool) : Formed (.boolean b)
  | number {n : Numeral} (h : n.WellFormed) : Formed (.number n)
  | text (s : String) : Formed (.text s)
  | list {items : List Value} (h : ∀ v ∈ items, Formed v) : Formed (.list items)
  | object {members : List (String × Value)} (h : ∀ m ∈ members, Formed m.2) :
    Formed (.object members)

inductive Value.Fits : Nat → Value → Prop where
  | null (room : Nat) : Fits room .null
  | boolean (room : Nat) (b : Bool) : Fits room (.boolean b)
  | number (room : Nat) {n : Numeral} (hformed : n.WellFormed)
    (hrange : ∃ value, n.value = .ok value) : Fits room (.number n)
  | text (room : Nat) (s : String) : Fits room (.text s)
  | list {room : Nat} {items : List Value} (h : ∀ v ∈ items, Fits room v) :
    Fits (room + 1) (.list items)
  | object {room : Nat} {members : List (String × Value)} (h : ∀ m ∈ members, Fits room m.2) :
    Fits (room + 1) (.object members)

theorem Value.Fits.formed {room : Nat} {v : Value} (h : v.Fits room) : v.Formed := by
  induction h with
  | null room => exact .null
  | boolean room b => exact .boolean b
  | number room hformed hrange => exact .number hformed
  | text room s => exact .text s
  | list _ ih => exact .list ih
  | object _ ih => exact .object ih

/-- The text of a value opens with no blank and closes no bracket. -/
theorem Value.Formed.starts {v : Value} (h : v.Formed) :
    ∃ c tail, v.chars = c :: tail ∧ isSpace c = false ∧ c ≠ ']' := by
  cases h with
  | null => exact ⟨'n', _, by rw [Value.chars], by decide, by decide⟩
  | boolean b => cases b <;> exact ⟨_, _, by rw [Value.chars], by decide, by decide⟩
  | number h =>
    obtain ⟨c, tail, hchars, hstarts⟩ := Numeral.exists_chars_eq_cons h
    exact ⟨c, tail, by rw [Value.chars, hchars], isSpace_of_startsNumber hstarts,
      ne_of_startsNumber hstarts (by decide)⟩
  | text s => exact ⟨'"', _, by rw [Value.chars]; rfl, by decide, by decide⟩
  | list h => exact ⟨'[', _, by rw [Value.chars]; rfl, by decide, by decide⟩
  | object h => exact ⟨'\x7b', _, by rw [Value.chars]; rfl, by decide, by decide⟩

theorem Value.formed_list_iff {items : List Value} :
    (Value.list items).Formed ↔ ∀ v ∈ items, v.Formed :=
  ⟨fun h => by cases h; assumption, .list⟩

theorem Value.formed_object_iff {members : List (String × Value)} :
    (Value.object members).Formed ↔ ∀ m ∈ members, m.2.Formed :=
  ⟨fun h => by cases h; assumption, .object⟩

theorem Value.fits_list_iff {room : Nat} {items : List Value} :
    (Value.list items).Fits (room + 1) ↔ ∀ v ∈ items, v.Fits room :=
  ⟨fun h => by cases h; assumption, .list⟩

theorem Value.fits_object_iff {room : Nat} {members : List (String × Value)} :
    (Value.object members).Fits (room + 1) ↔ ∀ m ∈ members, m.2.Fits room :=
  ⟨fun h => by cases h; assumption, .object⟩

theorem Value.Fits.mono {room more : Nat} {v : Value} (h : v.Fits room) (hle : room ≤ more) :
    v.Fits more := by
  induction h generalizing more with
  | null room => exact .null more
  | boolean room b => exact .boolean more b
  | number room hformed hrange => exact .number more hformed hrange
  | text room s => exact .text more s
  | list _ ih =>
    obtain ⟨more, rfl⟩ := Nat.exists_eq_add_of_lt (Nat.lt_of_succ_le hle)
    exact .list fun v hv => ih v hv (by omega)
  | object _ ih =>
    obtain ⟨more, rfl⟩ := Nat.exists_eq_add_of_lt (Nat.lt_of_succ_le hle)
    exact .object fun m hm => ih m hm (by omega)

open Classical in
/-- The value itself, if it fits. -/
noncomputable def Value.keep? (room : Nat) (v : Value) : Option Value :=
  if v.Fits room then some v else none

theorem Value.keep?_of_fits {room : Nat} {v : Value} (h : v.Fits room) : v.keep? room = some v :=
  if_pos h

theorem Value.keep?_of_not_fits {room : Nat} {v : Value} (h : ¬ v.Fits room) :
    v.keep? room = none :=
  if_neg h

theorem Value.keep?_eq_some_iff {room : Nat} {v w : Value} :
    v.keep? room = some w ↔ v.Fits room ∧ v = w := by
  unfold Value.keep?
  split
  · next h => simp [h]
  · next h => simp [h]

/-! ## Scalars -/

theorem readScalar_number {n : Numeral} (hn : n.WellFormed) {rest : Input} (h : Follows rest) :
    readScalar (Input.ofChars n.chars ++ rest) =
      n.value >>= fun value => .ok (.number n value, rest) := by
  obtain ⟨c, tail, hchars, hstarts⟩ := Numeral.exists_chars_eq_cons hn
  have hread := readNumeral_chars .endInValue hn h
  rw [hchars, Input.ofChars_cons, List.cons_append] at hread ⊢
  have hne : ∀ {d : Char}, startsNumber d = false → c ≠ d := ne_of_startsNumber hstarts
  unfold readScalar
  split
  · next heq => exact absurd (Symbol.char.inj (List.cons.inj heq).1) (hne (by decide))
  · next heq => exact absurd (Symbol.char.inj (List.cons.inj heq).1) (hne (by decide))
  · next heq => exact absurd (Symbol.char.inj (List.cons.inj heq).1) (hne (by decide))
  · next heq => exact absurd (Symbol.char.inj (List.cons.inj heq).1) (hne (by decide))
  · next heq =>
    cases heq
    simp only [hstarts, if_true, hread]
    rfl
  · next heq => cases heq
  · next heq => cases heq

/-- What opens no bracket is a scalar. -/
theorem readValue_scalar (room : Nat) {c : Char} (tail : Input) (hspace : isSpace c = false)
    (hlist : c ≠ '[') (hobject : c ≠ '\x7b') :
    readValue room (.char c :: tail) =
      readScalar (.char c :: tail) >>= fun next => .ok (.ofScalar next.1, next.2) := by
  unfold readValue
  rw [skipSpace_of_not_space hspace]
  split
  · next heq => exact absurd (Symbol.char.inj (List.cons.inj heq).1) hlist
  · next heq => exact absurd (Symbol.char.inj (List.cons.inj heq).1) hobject
  · rfl

theorem toOption_readValue_number (room : Nat) {n : Numeral} (hn : n.WellFormed) {rest : Input}
    (hrest : Follows rest) :
    (readValue room (Input.ofChars n.chars ++ rest)).toOption =
      ((Value.number n).keep? room).map (·, rest) := by
  obtain ⟨c, tail, hchars, hstarts⟩ := Numeral.exists_chars_eq_cons hn
  have hread := readScalar_number hn hrest
  rw [hchars, Input.ofChars_cons, List.cons_append] at hread ⊢
  rw [readValue_scalar room _ (isSpace_of_startsNumber hstarts)
    (ne_of_startsNumber hstarts (by decide)) (ne_of_startsNumber hstarts (by decide)), hread]
  cases hvalue : n.value with
  | ok value =>
    rw [Value.keep?_of_fits (.number room hn ⟨value, hvalue⟩)]
    rfl
  | error fault =>
    rw [Value.keep?_of_not_fits]
    · rfl
    · rintro (_ | _ | ⟨_, _, value, hok⟩)
      rw [hvalue] at hok
      cases hok

/-! ## Lists and objects -/

open Classical in
theorem mapM_keep? (room : Nat) (items : List Value) :
    (items.map (Value.keep? room)).mapM id =
      if ∀ v ∈ items, v.Fits room then some items else none := by
  induction items with
  | nil => rw [if_pos fun v hv => absurd hv List.not_mem_nil]; rfl
  | cons v items ih =>
    rw [List.map_cons, List.mapM_cons, ih]
    by_cases hv : v.Fits room
    · rw [Value.keep?_of_fits hv]
      simp only [List.forall_mem_cons, hv, true_and]
      split <;> rfl
    · rw [Value.keep?_of_not_fits hv]
      exact (if_neg fun h => hv (h v List.mem_cons_self)).symm

theorem toOption_readValue_list {room : Nat} {items : List Value}
    (h : ∀ v ∈ items, Decodes (readValue room) v.chars (v.keep? room)) (rest : Input) :
    (readValue (room + 1) (Input.ofChars (Value.list items).chars ++ rest)).toOption =
      ((Value.list items).keep? (room + 1)).map (·, rest) := by
  have hitems : List.Forall₂ (fun v o => Decodes (readValue room) v.chars o) items
      (items.map (Value.keep? room)) :=
    List.forall₂_map_right_iff.2 (List.forall₂_same.2 h)
  rw [ofChars_list, readValue, skipSpace_of_not_space (by decide)]
  show (readListBody _ _ >>= _).toOption = _
  rw [toOption_bind, toOption_readListBody hitems, mapM_keep?]
  by_cases hfits : ∀ v ∈ items, v.Fits room
  · rw [if_pos hfits, Value.keep?_of_fits (.list hfits)]
    rfl
  · rw [if_neg hfits, Value.keep?_of_not_fits (hfits ∘ Value.fits_list_iff.1)]
    rfl

/-- How `readValue` reads on behind a key. -/
def valueMember (room : Nat) (key : String) (members : List (String × Value)) :
    Reader (List (String × Value)) := fun s => do
  let s ← readColon s
  let (v, s) ← readValue room s
  return ((key, v) :: members, s)

/-- The members are gathered backwards. -/
noncomputable def gatherValue (room : Nat) (members : List (String × Value))
    (m : String × Value) : Option (List (String × Value)) :=
  (m.2.keep? room).map fun v => (m.1, v) :: members

open Classical in
theorem foldlM_gatherValue (room : Nat) (members gathered : List (String × Value)) :
    members.foldlM (gatherValue room) gathered =
      if ∀ m ∈ members, m.2.Fits room then some (members.reverse ++ gathered) else none := by
  induction members generalizing gathered with
  | nil => rw [if_pos fun m hm => absurd hm List.not_mem_nil]; rfl
  | cons m members ih =>
    rw [List.foldlM_cons, gatherValue]
    by_cases hm : m.2.Fits room
    · rw [Value.keep?_of_fits hm, List.reverse_cons, List.append_assoc]
      simp only [List.forall_mem_cons, hm, true_and]
      exact ih _
    · rw [Value.keep?_of_not_fits hm]
      exact (if_neg fun h => hm (h m List.mem_cons_self)).symm

theorem toOption_readValue_object {room : Nat} {members : List (String × Value)}
    (h : ∀ m ∈ members, Decodes (readValue room) m.2.chars (m.2.keep? room)) (rest : Input) :
    (readValue (room + 1) (Input.ofChars (Value.object members).chars ++ rest)).toOption =
      ((Value.object members).keep? (room + 1)).map (·, rest) := by
  have hruns : Runs (valueMember room) [] members (members.foldlM (gatherValue room) []) := by
    refine runs_foldlM (fun m hm gathered rest hrest => ?_) []
    show (readValue room _ >>= _).toOption = _
    rw [toOption_bind, (h m hm).eq rest hrest, gatherValue]
    cases m.2.keep? room <;> rfl
  rw [ofChars_object, readValue, skipSpace_of_not_space (by decide)]
  show (readObjectBody (valueMember room) [] _ >>= _).toOption = _
  rw [toOption_bind, toOption_readObjectBody hruns, foldlM_gatherValue]
  by_cases hfits : ∀ m ∈ members, m.2.Fits room
  · rw [if_pos hfits, List.append_nil, Value.keep?_of_fits (.object hfits)]
    show some (Value.object members.reverse.reverse, rest) = _
    rw [List.reverse_reverse]
    rfl
  · rw [if_neg hfits, Value.keep?_of_not_fits (hfits ∘ Value.fits_object_iff.1)]
    rfl

/-- A value is read as itself where it fits, and refused where it does not. -/
theorem decodes_value {v : Value} (h : v.Formed) (room : Nat) :
    Decodes (readValue room) v.chars (v.keep? room) := by
  refine ⟨h.starts, ?_⟩
  induction h generalizing room with
  | null =>
    intro rest _
    rw [Value.keep?_of_fits (.null room), Value.chars]
    show (readValue room (.char 'n' :: _)).toOption = _
    rw [readValue_scalar room _ (by decide) (by decide) (by decide)]
    rfl
  | boolean b =>
    intro rest _
    rw [Value.keep?_of_fits (.boolean room b)]
    cases b with
    | true =>
      rw [Value.chars]
      show (readValue room (.char 't' :: _)).toOption = _
      rw [readValue_scalar room _ (by decide) (by decide) (by decide)]
      rfl
    | false =>
      rw [Value.chars]
      show (readValue room (.char 'f' :: _)).toOption = _
      rw [readValue_scalar room _ (by decide) (by decide) (by decide)]
      rfl
  | number h =>
    intro rest hrest
    rw [Value.chars]
    exact toOption_readValue_number room h hrest
  | text s =>
    intro rest _
    rw [Value.keep?_of_fits (.text room s), Value.chars, ofChars_stringChars,
      readValue_scalar room _ (by decide) (by decide) (by decide), readScalar, readString_flatMap]
    rfl
  | list hitems ih =>
    intro rest _
    cases room with
    | zero =>
      rw [Value.keep?_of_not_fits (by intro h; cases h), ofChars_list]
      rfl
    | succ room =>
      exact toOption_readValue_list (fun v hv => ⟨(hitems v hv).starts, ih v hv room⟩) rest
  | object hmembers ih =>
    intro rest _
    cases room with
    | zero =>
      rw [Value.keep?_of_not_fits (by intro h; cases h), ofChars_object]
      rfl
    | succ room =>
      exact toOption_readValue_object (fun m hm => ⟨(hmembers m hm).starts, ih m hm room⟩) rest

/-- A value that fits is read back. -/
theorem reads_value {room : Nat} {v : Value} (h : v.Fits room) :
    Reads (readValue room) v.chars v := by
  rw [← decodes_some_iff, ← Value.keep?_of_fits h]
  exact decodes_value h.formed room

end Json
end AmpComponents
