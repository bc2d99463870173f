/-
Numbers are read back.

A numeral is written with the digits it has, so reading it gives the same numeral as long as the
notation allows it (`readNumeral_chars`): there is a digit wherever one is asked for, and no zero
in front of another digit.  The digits of a number end where no digit follows, which is why every
piece is read with an arbitrary rest that `Stops`.

Integers of 64 bits are the numbers a table holds.  Their digits, without leading zeros, fit in a
significand, so no double is involved at either end of the range (`reads_int64`).
-/
import AmpComponents.Proofs.Json.Compact

namespace AmpComponents
namespace Json

/-! ## Digits -/

namespace Digit

theorem ofChar?_char (d : Digit) : ofChar? d.char = some d := by
  have every : ∀ d : Digit, ofChar? d.char = some d := by decide
  exact every d

theorem char_ne (d : Digit) : d.char ≠ '+' ∧ d.char ≠ '-' := by
  have every : ∀ d : Digit, d.char ≠ '+' ∧ d.char ≠ '-' := by decide
  exact every d

theorem startsNumber_char (d : Digit) : startsNumber d.char = true := by
  have every : ∀ d : Digit, startsNumber d.char = true := by decide
  exact every d

theorem ofNat_ne_nil (n : Nat) : ofNat n ≠ [] := by
  rw [ofNat]
  split <;> simp

/-- The first digit of a positive number is not zero. -/
theorem head?_ofNat_ne {n : Nat} (h : 0 < n) : (ofNat n).head?.map (·.val) ≠ some 0 := by
  rw [ofNat]
  split
  · next hsmall =>
    simp only [List.head?_cons, Option.map_some, ne_eq, Option.some.injEq]
    omega
  · next hlarge =>
    have hhead := head?_ofNat_ne (n := n / 10) (by omega)
    obtain ⟨d, rest, hdigits⟩ := List.exists_cons_of_ne_nil (ofNat_ne_nil (n / 10))
    rw [hdigits] at hhead ⊢
    exact hhead
termination_by n
decreasing_by omega

theorem toNat_concat (digits : List Digit) (d : Digit) :
    toNat (digits ++ [d]) = toNat digits * 10 + d.val := by
  rw [toNat, List.foldl_append]
  rfl

theorem toNat_ofNat (n : Nat) : toNat (ofNat n) = n := by
  rw [ofNat]
  split
  · exact Nat.zero_add n
  · rw [toNat_concat, toNat_ofNat (n / 10)]
    show n / 10 * 10 + n % 10 = n
    omega
termination_by n
decreasing_by omega

end Digit

/-- No digit stands at the front. -/
def Stops (s : Input) : Prop := ∀ c rest, s = .char c :: rest → Digit.ofChar? c = none

theorem stops_cons {c : Char} (h : Digit.ofChar? c = none) (rest : Input) :
    Stops (.char c :: rest) := by
  intro c' rest' heq
  cases heq
  exact h

theorem stops_of_follows {rest : Input} (h : Follows rest) : Stops rest := by
  intro c tail heq
  subst heq
  have hc : c = ',' ∨ c = ']' ∨ c = '\x7d' := h
  rcases hc with rfl | rfl | rfl <;> decide

theorem takeDigits_of_stops {s : Input} (h : Stops s) : takeDigits s = ([], s) := by
  unfold takeDigits
  split
  · next c rest =>
    rw [h c rest rfl]
  · rfl

theorem takeDigits_digitChars (digits : List Digit) {rest : Input} (h : Stops rest) :
    takeDigits (Input.ofChars (Numeral.digitChars digits) ++ rest) = (digits, rest) := by
  induction digits with
  | nil => exact takeDigits_of_stops h
  | cons d digits ih =>
    show takeDigits (.char d.char :: (Input.ofChars (Numeral.digitChars digits) ++ rest)) = _
    simp only [takeDigits, d.ofChar?_char, ih]

/-! ## Numerals -/

section Pieces

variable (atEnd : Fault)

theorem readDigits_digitChars {digits : List Digit} (hne : digits ≠ []) {rest : Input}
    (h : Stops rest) :
    readDigits atEnd (Input.ofChars (Numeral.digitChars digits) ++ rest) = .ok (digits, rest) := by
  obtain ⟨d, tail, rfl⟩ := List.exists_cons_of_ne_nil hne
  rw [readDigits, takeDigits_digitChars (d :: tail) h]

theorem readWhole_digitChars {digits : List Digit} (hne : digits ≠ [])
    (hzero : digits.head?.map (·.val) = some 0 → digits.length = 1) {rest : Input}
    (h : Stops rest) :
    readWhole atEnd (Input.ofChars (Numeral.digitChars digits) ++ rest) = .ok (digits, rest) := by
  have hsound : ¬(digits.head?.map (·.val) = some 0 ∧ digits.length ≠ 1) :=
    fun hlead => hlead.2 (hzero hlead.1)
  rw [readWhole, readDigits_digitChars atEnd hne h]
  simp only [bind, Except.bind, if_neg hsound]

theorem readExponentDigits_exponentChars (e : Exponent) (hne : e.digits ≠ []) {rest : Input}
    (h : Stops rest) :
    readExponentDigits atEnd (Input.ofChars ((if e.negative then ['-'] else []) ++
      Numeral.digitChars e.digits) ++ rest) = .ok (some e, rest) := by
  obtain ⟨negative, digits⟩ := e
  have hdigits := readDigits_digitChars atEnd hne h
  cases negative with
  | true =>
    show (readDigits atEnd (Input.ofChars (Numeral.digitChars digits) ++ rest) >>= _) = _
    rw [hdigits]
    rfl
  | false =>
    obtain ⟨d, tail, rfl⟩ := List.exists_cons_of_ne_nil hne
    obtain ⟨hplus, hminus⟩ := d.char_ne
    show readExponentDigits atEnd
      (.char d.char :: (Input.ofChars (Numeral.digitChars tail) ++ rest)) = _
    unfold readExponentDigits
    split
    next negative s hsign =>
    split at hsign
    · next heq => exact absurd (Symbol.char.inj (List.cons.inj heq).1) hplus
    · next heq => exact absurd (Symbol.char.inj (List.cons.inj heq).1) hminus
    · cases hsign
      have hsame : .char d.char :: (Input.ofChars (Numeral.digitChars tail) ++ rest) =
        Input.ofChars (Numeral.digitChars (d :: tail)) ++ rest := rfl
      rw [hsame, hdigits]
      rfl

theorem readExponent_exponentChars {e : Option Exponent} (hne : ∀ x, e = some x → x.digits ≠ [])
    {rest : Input} (h : Follows rest) :
    readExponent atEnd (Input.ofChars (Numeral.exponentChars e) ++ rest) = .ok (e, rest) := by
  cases e with
  | some e => exact readExponentDigits_exponentChars atEnd e (hne e rfl) (stops_of_follows h)
  | none =>
    show readExponent atEnd rest = _
    unfold readExponent
    split
    · simp [Follows] at h
    · simp [Follows] at h
    · rfl

theorem stops_exponentChars (e : Option Exponent) {rest : Input} (h : Follows rest) :
    Stops (Input.ofChars (Numeral.exponentChars e) ++ rest) := by
  cases e with
  | none => exact stops_of_follows h
  | some e => exact stops_cons (by decide) _

theorem stops_fractionChars (digits : List Digit) {rest : Input} (h : Stops rest) :
    Stops (Input.ofChars (Numeral.fractionChars digits) ++ rest) := by
  unfold Numeral.fractionChars
  split
  · exact h
  · exact stops_cons (by decide) _

theorem readFraction_fractionChars (digits : List Digit) (e : Option Exponent) {rest : Input}
    (h : Follows rest) :
    readFraction atEnd (Input.ofChars (Numeral.fractionChars digits) ++
      (Input.ofChars (Numeral.exponentChars e) ++ rest)) =
      .ok (digits, Input.ofChars (Numeral.exponentChars e) ++ rest) := by
  by_cases hnone : digits = []
  · subst hnone
    show readFraction atEnd (Input.ofChars (Numeral.exponentChars e) ++ rest) = _
    cases e with
    | some e => rfl
    | none =>
      show readFraction atEnd rest = .ok ([], rest)
      unfold readFraction
      split
      · simp [Follows] at h
      · rfl
  · rw [Numeral.fractionChars, if_neg hnone]
    exact readDigits_digitChars atEnd hnone (stops_exponentChars e h)

theorem readUnsigned_chars {n : Numeral} (hn : n.WellFormed) {rest : Input} (h : Follows rest) :
    readUnsigned atEnd n.negative (Input.ofChars (Numeral.digitChars n.whole) ++
      (Input.ofChars (Numeral.fractionChars n.fraction) ++
        (Input.ofChars (Numeral.exponentChars n.exponent) ++ rest))) = .ok (n, rest) := by
  obtain ⟨hwhole, hzero, hexponent⟩ := hn
  have hstops := stops_fractionChars n.fraction (stops_exponentChars n.exponent h)
  rw [readUnsigned, readWhole_digitChars atEnd hwhole hzero hstops]
  simp only [bind, Except.bind, readFraction_fractionChars atEnd n.fraction n.exponent h,
    readExponent_exponentChars atEnd hexponent h]
  rfl

theorem readNumeral_chars {n : Numeral} (hn : n.WellFormed) {rest : Input} (h : Follows rest) :
    readNumeral atEnd (Input.ofChars n.chars ++ rest) = .ok (n, rest) := by
  have hunsigned := readUnsigned_chars atEnd hn h
  obtain ⟨negative, whole, fraction, exponent⟩ := n
  simp only [Numeral.chars, Input.ofChars_append, List.append_assoc]
  cases negative with
  | true => exact hunsigned
  | false =>
    obtain ⟨d, tail, rfl⟩ := List.exists_cons_of_ne_nil hn.1
    show readNumeral atEnd (.char d.char :: _) = _
    unfold readNumeral
    split
    · next heq => exact absurd (Symbol.char.inj (List.cons.inj heq).1) d.char_ne.2
    · exact hunsigned

end Pieces

theorem ne_of_startsNumber {c d : Char} (hc : startsNumber c = true)
    (hd : startsNumber d = false) : c ≠ d := by
  rintro rfl
  rw [hc] at hd
  cases hd

/-- A numeral starts with a sign or a digit. -/
theorem Numeral.exists_chars_eq_cons {n : Numeral} (hn : n.WellFormed) :
    ∃ c tail, n.chars = c :: tail ∧ startsNumber c = true := by
  obtain ⟨negative, whole, fraction, exponent⟩ := n
  cases negative with
  | true => exact ⟨'-', _, rfl, by decide⟩
  | false =>
    obtain ⟨d, tail, rfl⟩ := List.exists_cons_of_ne_nil hn.1
    exact ⟨d.char, _, rfl, d.startsNumber_char⟩

/-! ## Integers -/

namespace Numeral

theorem wellFormed_ofInt (n : Int) : (ofInt n).WellFormed := by
  refine ⟨Digit.ofNat_ne_nil _, fun hzero => ?_, fun e he => by cases he⟩
  rcases Nat.eq_zero_or_pos n.natAbs with habs | hpos
  · simp [ofInt, habs, Digit.ofNat]
  · exact absurd hzero (Digit.head?_ofNat_ne hpos)

theorem foldl_digits_ge (digits : List Digit) (significand : Nat) :
    significand ≤ digits.foldl (fun n d => n * 10 + d.val) significand := by
  induction digits generalizing significand with
  | nil => exact Nat.le_refl _
  | cons d digits ih =>
    have hstep := ih (significand * 10 + d.val)
    rw [List.foldl_cons]
    omega

/-- Digits that fit in the significand are all taken. -/
theorem accumulate_eq (digits : List Digit) (significand : Nat)
    (h : digits.foldl (fun n d => n * 10 + d.val) significand < unsignedBound) :
    accumulate significand digits =
      (digits.foldl (fun n d => n * 10 + d.val) significand, []) := by
  induction digits generalizing significand with
  | nil => rfl
  | cons d digits ih =>
    have hle := foldl_digits_ge digits (significand * 10 + d.val)
    rw [List.foldl_cons] at h ⊢
    rw [accumulate, if_pos (Nat.lt_of_le_of_lt hle h)]
    exact ih _ h

theorem number?_ofInt {n : Int} (hlow : -(signedBound : Int) ≤ n) (hhigh : n < signedBound) :
    (ofInt n).number? = some (.integer n) := by
  have hbounds : signedBound < unsignedBound := by decide
  have hfits : (Digit.ofNat n.natAbs).foldl (fun n d => n * 10 + d.val) 0 < unsignedBound := by
    show Digit.toNat (Digit.ofNat n.natAbs) < unsignedBound
    rw [Digit.toNat_ofNat]
    omega
  have htaken : accumulate 0 (Digit.ofNat n.natAbs) = (n.natAbs, []) := by
    rw [accumulate_eq _ _ hfits]
    exact congrArg (·, []) (Digit.toNat_ofNat _)
  have hinteger : integerValue (decide (n < 0)) n.natAbs = some (.integer n) := by
    by_cases hsign : n < 0
    · have hrange : ¬(n.natAbs = 0 ∨ signedBound < n.natAbs) := by omega
      have hvalue : -(n.natAbs : Int) = n := by omega
      simp only [integerValue, hsign, decide_true, Bool.not_true, Bool.false_eq_true, if_false,
        Bool.or_eq_true, decide_eq_true_eq, hrange, hvalue]
    · have hvalue : (n.natAbs : Int) = n := by omega
      simp [integerValue, hsign, hvalue]
  simp only [number?, ofInt, htaken]
  exact hinteger

end Numeral

theorem isSpace_of_startsNumber {c : Char} (h : startsNumber c = true) : isSpace c = false := by
  rw [Bool.eq_false_iff]
  intro hspace
  simp only [isSpace, Bool.or_eq_true, beq_iff_eq] at hspace
  have hnot : startsNumber c = false := by
    rcases hspace with ((rfl | rfl) | rfl) | rfl <;> decide
  rw [h] at hnot
  cases hnot

theorem int64OfNumber_toInt (r : Int64) : int64OfNumber (.integer r.toInt) = .ok r := by
  have hhigh : r.toInt < (Numeral.signedBound : Int) := r.toInt_lt
  rw [int64OfNumber, if_pos hhigh, Int64.ofInt_toInt]

end Json
end AmpComponents
