/-
Compact text is passed over.

`skipValue` checks the notation of a value and gives what stands behind it.  Whatever the value is,
its compact text is passed over (`skipValue_chars`): no number is too large, and nothing nests too
deep, since open brackets are kept on a stack.

Each round of `skipValues` takes one symbol of the budget, and passes over one scalar or opens one
bracket.  A text is therefore skipped in a number of rounds that is not greater than its length
(`SkipsIn`), and what remains to be done then is to close brackets, which `resume` does.  The stack
in the statement is arbitrary, so that the items of a list are skipped as values below its bracket.
-/
import AmpComponents.Json.Schema
import AmpComponents.Proofs.Json.Values

namespace AmpComponents
namespace Json

/-! ## Strings -/

theorem skipStringBody_escape {s rest : Input} (h : skipEscape s = .ok rest) :
    skipStringBody (.char '\\' :: s) = skipStringBody rest := by
  rw [skipStringBody, if_neg (by decide), if_pos rfl]
  split
  · next heq =>
    rw [h] at heq
    cases heq
  · next heq =>
    rw [h] at heq
    cases heq
    rfl

theorem skipEscape_fourDigits (n : Nat) (rest : Input) :
    skipEscape (.char 'u' :: .char (Text.hexDigit (n / 4096 % 16)) ::
      .char (Text.hexDigit (n / 256 % 16)) :: .char (Text.hexDigit (n / 16 % 16)) ::
      .char (Text.hexDigit (n % 16)) :: rest) = .ok rest := by
  have digit : ∀ k, Text.hexValue? (Text.hexDigit (k % 16)) = some (k % 16) := fun k =>
    Text.hexValue?_hexDigit (Nat.mod_lt k (by omega))
  have hletter : simpleEscape? 'u' = none := by decide
  rw [skipEscape, hletter]
  show (if 'u' = 'u' then (readQuad _).map (·.2) else _) = _
  rw [if_pos rfl, readQuad]
  simp only [digit, Except.map]

/-- A written character is passed over. -/
theorem skipStringBody_of_isPiece {c : Char} {piece : List Char} (h : Text.IsPiece '"' c piece)
    (rest : Input) : skipStringBody (Input.ofChars piece ++ rest) = skipStringBody rest := by
  cases h with
  | @letter l h =>
    have hnames : ∀ p ∈ ('"', '"') :: Text.letterNames, simpleEscape? p.1 = some p.2 := by decide
    have hletter : simpleEscape? l = some c := hnames _ h
    refine skipStringBody_escape ?_
    show skipEscape (.char l :: rest) = _
    rw [skipEscape, hletter]
  | digits _ => exact skipStringBody_escape (skipEscape_fourDigits c.toNat rest)
  | plain hquote hback hcontrol =>
    show skipStringBody (.char c :: rest) = _
    rw [skipStringBody, if_neg hquote, if_neg hback, if_neg (Nat.not_lt.2 hcontrol)]

theorem skipStringBody_flatMap (s : List Char) (rest : Input) :
    skipStringBody (Input.ofChars (s.flatMap stringChar) ++ .char '"' :: rest) = .ok rest := by
  induction s with
  | nil =>
    show skipStringBody (.char '"' :: rest) = _
    rw [skipStringBody, if_pos rfl]
  | cons c s ih =>
    rw [List.flatMap_cons, Input.ofChars_append, List.append_assoc,
      skipStringBody_of_isPiece (Text.isPiece_stringChar c), ih]

/-! ## Rounds -/

/-- Goes on with the next value, as long as a bracket is open. -/
def resume (budget : Input) (next : Except Fault (List Bracket × Input)) : Except Fault Input := do
  match ← next with
  | ([], s) => .ok s
  | (pending, s) => skipValues budget pending s

theorem skipValues_cons (symbol : Symbol) (budget : Input) (pending : List Bracket) (s : Input) :
    skipValues (symbol :: budget) pending s = resume budget (skipStart pending s) := rfl

/-- A text that is passed over in `n` rounds. -/
structure SkipsIn (n : Nat) (text : List Char) : Prop where
  le_length : n ≤ text.length
  eq : ∀ (used budget : Input) (pending : List Bracket) (rest : Input), used.length = n →
    Follows rest → skipValues (used ++ budget) pending (Input.ofChars text ++ rest) =
      resume budget (skipClosings pending rest)

/-- A scalar takes one round. -/
theorem skipsIn_scalar {text : List Char} (hne : text ≠ [])
    (h : ∀ pending rest, Follows rest →
      skipStart pending (Input.ofChars text ++ rest) = skipClosings pending rest) :
    SkipsIn 1 text := by
  refine ⟨List.length_pos_iff.2 hne, fun used budget pending rest hused hrest => ?_⟩
  obtain ⟨symbol, rfl⟩ := List.length_eq_one_iff.1 hused
  rw [List.singleton_append, skipValues_cons, h pending rest hrest]

theorem skipsIn_null : SkipsIn 1 Value.null.chars := by
  rw [Value.chars]
  exact skipsIn_scalar (by decide) fun pending rest _ => rfl

theorem skipsIn_boolean (b : Bool) : SkipsIn 1 (Value.boolean b).chars := by
  cases b <;> rw [Value.chars] <;> exact skipsIn_scalar (by decide) fun pending rest _ => rfl

theorem skipsIn_text (s : String) : SkipsIn 1 (Value.text s).chars := by
  rw [Value.chars]
  refine skipsIn_scalar (by simp [stringChars]) fun pending rest _ => ?_
  rw [ofChars_stringChars]
  show (skipStringBody _ >>= _) = _
  rw [skipStringBody_flatMap]
  rfl

theorem skipsIn_number {n : Numeral} (h : n.WellFormed) : SkipsIn 1 (Value.number n).chars := by
  obtain ⟨c, tail, hchars, hstarts⟩ := Numeral.exists_chars_eq_cons h
  rw [Value.chars]
  refine skipsIn_scalar (by simp [hchars]) fun pending rest hrest => ?_
  have hread := readNumeral_chars .invalidNumber h hrest
  have hne : ∀ {d : Char}, startsNumber d = false → c ≠ d := ne_of_startsNumber hstarts
  rw [hchars, Input.ofChars_cons, List.cons_append] at hread ⊢
  unfold skipStart
  rw [skipSpace_of_not_space (isSpace_of_startsNumber hstarts)]
  split
  · next heq => cases heq
  · next heq => exact absurd (Symbol.char.inj (List.cons.inj heq).1) (hne (by decide))
  · next heq => exact absurd (Symbol.char.inj (List.cons.inj heq).1) (hne (by decide))
  · next heq => exact absurd (Symbol.char.inj (List.cons.inj heq).1) (hne (by decide))
  · next heq => exact absurd (Symbol.char.inj (List.cons.inj heq).1) (hne (by decide))
  · next heq => exact absurd (Symbol.char.inj (List.cons.inj heq).1) (hne (by decide))
  · next heq => exact absurd (Symbol.char.inj (List.cons.inj heq).1) (hne (by decide))
  · next heq =>
    cases heq
    simp only [hstarts, if_true, hread, bind, Except.bind]
  · next heq => cases heq

/-! ## Brackets -/

theorem skipClosings_closing (bracket : Bracket) (pending : List Bracket) (rest : Input) :
    skipClosings (bracket :: pending) (.char bracket.closing :: rest) =
      skipClosings pending rest := by
  cases bracket <;> rfl

theorem follows_closing (bracket : Bracket) (rest : Input) :
    Follows (.char bracket.closing :: rest) := by
  cases bracket
  · exact follows_bracket rest
  · exact follows_brace rest

/-- Values between brackets, with what stands before each of them, that are passed over in `n`
rounds. -/
structure SkipsEntries (bracket : Bracket) (n : Nat) (text : List Char) : Prop where
  le_length : n ≤ text.length
  eq : ∀ (used budget : Input) (pending : List Bracket) (rest : Input), used.length = n →
    resume (used ++ budget) (do
      let s ← bracket.skipToValue (Input.ofChars text ++ .char bracket.closing :: rest)
      return (bracket :: pending, s)) = resume budget (skipClosings pending rest)

section Entries

variable {bracket : Bracket} {lead text more : List Char} {n k : Nat}
  (hlead : ∀ s, bracket.skipToValue (Input.ofChars lead ++ s) = .ok s) (htext : SkipsIn n text)

include hlead htext

theorem skipsEntries_one : SkipsEntries bracket n (lead ++ text) := by
  refine ⟨by have := htext.le_length; simp; omega, fun used budget pending rest hused => ?_⟩
  rw [Input.ofChars_append, List.append_assoc, hlead]
  show skipValues (used ++ budget) (bracket :: pending) _ = _
  rw [htext.eq used budget _ _ hused (follows_closing bracket rest), skipClosings_closing]

theorem skipsEntries_cons (hmore : SkipsEntries bracket k more) :
    SkipsEntries bracket (n + k) (lead ++ text ++ ',' :: more) := by
  refine ⟨?_, fun used budget pending rest hused => ?_⟩
  · have hle := htext.le_length
    have hmorele := hmore.le_length
    simp only [List.length_append, List.length_cons]
    omega
  · obtain ⟨first, last, rfl, hfirst⟩ : ∃ first last, used = first ++ last ∧ first.length = n :=
      ⟨used.take n, used.drop n, (List.take_append_drop n used).symm, by simp; omega⟩
    have hlast : last.length = k := by
      rw [List.length_append] at hused
      omega
    rw [Input.ofChars_append, Input.ofChars_append, Input.ofChars_cons]
    simp only [List.append_assoc, List.cons_append]
    rw [hlead]
    show skipValues (first ++ (last ++ budget)) (bracket :: pending) _ = _
    rw [htext.eq first _ _ _ hfirst (follows_comma _)]
    exact hmore.eq last budget pending rest hlast

end Entries

/-- Brackets around entries take one round more. -/
theorem skipsIn_brackets {bracket : Bracket} {opening : Char} {text : List Char} {n : Nat}
    (hopening : ∀ pending s, skipStart pending (.char opening :: s) = skipOpening bracket pending s)
    (hstarts : ∃ c tail, text = c :: tail ∧ isSpace c = false ∧ c ≠ bracket.closing)
    (htext : SkipsEntries bracket n text) :
    SkipsIn (1 + n) (opening :: text ++ [bracket.closing]) := by
  refine ⟨?_, fun used budget pending rest hused _ => ?_⟩
  · have hle := htext.le_length
    simp only [List.length_append, List.length_cons]
    omega
  · obtain ⟨symbol, used, rfl⟩ : ∃ symbol last, used = symbol :: last :=
      List.exists_cons_of_length_pos (by omega)
    have hlast : used.length = n := by
      rw [List.length_cons] at hused
      omega
    have hentries := htext.eq used budget pending rest hlast
    obtain ⟨c, tail, rfl, hspace, hclosing⟩ := hstarts
    have hne : Symbol.char c ≠ .char bracket.closing := fun heq => hclosing (Symbol.char.inj heq)
    rw [List.cons_append, skipValues_cons, Input.ofChars_append, List.append_assoc,
      Input.ofChars_cons, List.cons_append, hopening, ← hentries]
    simp only [Input.ofChars_cons, List.cons_append, skipOpening, skipSpace_of_not_space hspace,
      if_neg hne]
    rfl

theorem skipsIn_emptyBrackets (bracket : Bracket) {opening : Char}
    (hopening : ∀ pending s, skipStart pending (.char opening :: s) = skipOpening bracket pending s) :
    SkipsIn 1 [opening, bracket.closing] := by
  refine skipsIn_scalar (by simp) fun pending rest _ => ?_
  show skipStart pending (.char opening :: .char bracket.closing :: rest) = _
  rw [hopening, skipOpening]
  cases bracket <;> rfl

/-! ## Values -/

theorem exists_skipsEntries_items {vs : List Value} (hne : vs ≠ [])
    (h : ∀ v ∈ vs, ∃ n, SkipsIn n v.chars) : ∃ n, SkipsEntries .list n (Value.itemChars vs) := by
  have hlead : ∀ s, Bracket.list.skipToValue (Input.ofChars [] ++ s) = .ok s := fun _ => rfl
  induction vs with
  | nil => exact absurd rfl hne
  | cons v vs ih =>
    obtain ⟨⟨n, hn⟩, hvs⟩ := List.forall_mem_cons.1 h
    by_cases hlast : vs = []
    · subst hlast
      rw [Value.itemChars]
      exact ⟨n, skipsEntries_one hlead hn⟩
    · obtain ⟨k, hk⟩ := ih hlast hvs
      rw [itemChars_cons v hlast]
      exact ⟨n + k, skipsEntries_cons hlead hn hk⟩

/-- A key and its colon lead to a value. -/
theorem skipToValue_key (key : String) (s : Input) :
    Bracket.object.skipToValue (Input.ofChars (stringChars key ++ [':']) ++ s) = .ok s := by
  rw [Input.ofChars_append, List.append_assoc, ofChars_stringChars]
  show (skipStringBody _ >>= readColon) = _
  rw [skipStringBody_flatMap]
  rfl

theorem exists_skipsEntries_members {ms : List (String × Value)} (hne : ms ≠ [])
    (h : ∀ m ∈ ms, ∃ n, SkipsIn n m.2.chars) :
    ∃ n, SkipsEntries .object n (Value.memberChars ms) := by
  induction ms with
  | nil => exact absurd rfl hne
  | cons m ms ih =>
    obtain ⟨key, v⟩ := m
    obtain ⟨⟨n, hn⟩, hms⟩ := List.forall_mem_cons.1 h
    by_cases hlast : ms = []
    · subst hlast
      rw [Value.memberChars, List.append_cons (stringChars key)]
      exact ⟨n, skipsEntries_one (skipToValue_key key) hn⟩
    · obtain ⟨k, hk⟩ := ih hlast hms
      rw [memberChars_cons key v hlast, List.append_cons (stringChars key)]
      exact ⟨n + k, skipsEntries_cons (skipToValue_key key) hn hk⟩

/-- The induction is on the value: the parts between its brackets are skipped in rounds, and so is
the whole. -/
theorem exists_skipsIn {v : Value} (h : v.Formed) : ∃ n, SkipsIn n v.chars := by
  induction h with
  | null => exact ⟨1, skipsIn_null⟩
  | boolean b => exact ⟨1, skipsIn_boolean b⟩
  | number h => exact ⟨1, skipsIn_number h⟩
  | text s => exact ⟨1, skipsIn_text s⟩
  | @list items hitems ih =>
    rw [Value.chars]
    by_cases hne : items = []
    · subst hne
      exact ⟨1, skipsIn_emptyBrackets .list fun _ _ => rfl⟩
    · obtain ⟨n, hn⟩ := exists_skipsEntries_items hne ih
      obtain ⟨v, vs, rfl⟩ := List.exists_cons_of_ne_nil hne
      exact ⟨1 + n, skipsIn_brackets (fun _ _ => rfl)
        (itemChars_cons_starts (hitems v List.mem_cons_self).starts vs) hn⟩
  | @object members hmembers ih =>
    rw [Value.chars]
    by_cases hne : members = []
    · subst hne
      exact ⟨1, skipsIn_emptyBrackets .object fun _ _ => rfl⟩
    · obtain ⟨n, hn⟩ := exists_skipsEntries_members hne ih
      obtain ⟨tail, hstart⟩ := memberChars_starts hne
      exact ⟨1 + n, skipsIn_brackets (fun _ _ => rfl) ⟨'"', tail, hstart, by decide, by decide⟩ hn⟩

/-- The compact text of a value is passed over. -/
theorem skipValue_chars {v : Value} (h : v.Formed) {rest : Input} (hrest : Follows rest) :
    skipValue (Input.ofChars v.chars ++ rest) = .ok rest := by
  obtain ⟨n, hn⟩ := exists_skipsIn h
  have hlength : n ≤ (Input.ofChars v.chars ++ rest).length := by
    have hle := hn.le_length
    rw [List.length_append, Input.ofChars, List.length_map]
    omega
  have hskip := hn.eq ((Input.ofChars v.chars ++ rest).take n)
    ((Input.ofChars v.chars ++ rest).drop n) [] rest (List.length_take_of_le hlength) hrest
  rw [List.take_append_drop] at hskip
  exact hskip

end Json
end AmpComponents
