/-
A literal quotes its text.

`IsQuotation v text` says what a quotation of `v` is: single quotes stand at both ends, a quote
inside is escaped, nothing inside ends the line, and reading takes the whole of it and gives `v`.
`isQuotation_literal` says that `literal` writes quotations, that it writes different ones for
different texts, and that none of them is the beginning of another.

Whether a quote is escaped is told by the run of backslashes in front of it.  A character is
written by a piece that leaves the run at the end of the text even, and a piece holds a quote
only behind one backslash of its own, so the run in front of a quote is odd (`odd_of_quote`).
-/
import AmpComponents.Proofs.Script.StringLiteral
import Mathlib.Data.List.DropRight
import Mathlib.Algebra.Ring.Parity

namespace AmpComponents
namespace Text

/-! ## Reading -/

/-- A literal ends at its own closing quote, so two texts that start with literals and agree start
with the same one. -/
theorem literal_append_inj {s t x y : String} (h : literal s ++ x = literal t ++ y) :
    s = t ∧ x = y := by
  have hread : readLiteral (literal s ++ x).toList = readLiteral (literal t ++ y).toList := by
    rw [h]
  simp only [literal, String.toList_append, String.toList_ofList, readLiteral_literalChars] at hread
  obtain ⟨hchars, hrest⟩ := Prod.mk.inj (Option.some.inj hread)
  exact ⟨String.toList_inj.1 hchars, String.toList_inj.1 hrest⟩

theorem literal_inj {s t : String} : literal s = literal t ↔ s = t := by
  refine ⟨fun h => ?_, congrArg literal⟩
  have happend : literal s ++ "" = literal t ++ "" := by rw [h]
  exact (literal_append_inj happend).1

theorem literal_prefix_iff {s t : String} : (literal s).toList <+: (literal t).toList ↔ s = t := by
  constructor
  · rintro ⟨rest, h⟩
    have happend : literal s ++ String.ofList rest = literal t ++ "" := by
      rw [← String.toList_inj, String.toList_append, String.toList_ofList, h, String.append_empty]
    exact (literal_append_inj happend).1
  · rintro rfl
    exact List.prefix_rfl

/-! ## What a literal may hold -/

/-- Whether a character stays within its line and shows itself. -/
def IsInline (c : Char) : Prop := isControl c = false ∧ Script.isLineEnd c = false

theorem isInline_of_printable {c : Char} (h : 0x20 ≤ c.toNat ∧ c.toNat < 0x7F) : IsInline c := by
  have hfeed : c ≠ '\n' := by
    rintro rfl
    exact absurd h.1 (by decide)
  have hreturn : c ≠ '\r' := by
    rintro rfl
    exact absurd h.1 (by decide)
  constructor
  · simp only [isControl, Bool.or_eq_false_iff, Bool.and_eq_false_iff, decide_eq_false_iff_not]
    omega
  · simp only [Script.isLineEnd, Bool.or_eq_false_iff, decide_eq_false_iff_not]
    exact ⟨⟨⟨hfeed, hreturn⟩, by omega⟩, by omega⟩

/-- A character stands for itself only when it is no control and ends no line. -/
theorem isInline_of_literalChar {c : Char} (h : literalChar c = [c]) : IsInline c := by
  unfold literalChar at h
  split at h
  · simp at h
  split at h
  · simp at h
  split at h
  · simp at h
  split at h
  · simp at h
  split at h
  · simp at h
  split at h
  · simp [fourDigitEscape] at h
  · next hfeed hreturn _ hrest =>
    simp only [Bool.or_eq_true, decide_eq_true_eq, not_or, Bool.not_eq_true] at hrest
    refine ⟨hrest.2, ?_⟩
    simp only [Script.isLineEnd, Bool.or_eq_false_iff, decide_eq_false_iff_not]
    exact ⟨⟨⟨hfeed, hreturn⟩, hrest.1.1⟩, hrest.1.2⟩

theorem forall_mem_fourDigits {P : Char → Prop} (hback : P '\\') (hu : P 'u')
    (hdigit : ∀ k ∈ List.range 16, P (hexDigit k)) (n : Nat) : ∀ c ∈ fourDigitEscape n, P c := by
  have digit : ∀ k, P (hexDigit (k % 16)) := fun k =>
    hdigit _ (List.mem_range.2 (Nat.mod_lt k (by omega)))
  simp only [fourDigitEscape, List.forall_mem_cons]
  exact ⟨hback, hu, digit _, digit _, digit _, digit _, List.forall_mem_nil _⟩

theorem isInline_of_mem_literalChar {c d : Char} (h : d ∈ literalChar c) : IsInline d := by
  have hnames : ∀ p ∈ ('\x27', '\x27') :: letterNames, 0x20 ≤ p.1.toNat ∧ p.1.toNat < 0x7F := by
    decide
  have hpiece := isPiece_literalChar c
  generalize hwritten : literalChar c = piece at h hpiece
  cases hpiece with
  | letter hname =>
    apply isInline_of_printable
    rcases List.mem_pair.1 h with rfl | rfl
    · decide
    · exact hnames _ hname
  | digits _ =>
    apply isInline_of_printable
    exact forall_mem_fourDigits (P := fun c => 0x20 ≤ c.toNat ∧ c.toNat < 0x7F) (by decide)
      (by decide) (by decide) _ d h
  | plain _ _ _ =>
    rw [List.mem_singleton.1 h]
    exact isInline_of_literalChar hwritten

theorem isInline_of_mem_literalChars {s : List Char} {d : Char} (h : d ∈ literalChars s) :
    IsInline d := by
  have hquote : IsInline '\x27' := isInline_of_printable (by decide)
  simp only [literalChars, List.cons_append, List.mem_cons, List.mem_append, List.mem_flatMap,
    List.not_mem_nil, or_false] at h
  rcases h with rfl | ⟨c, -, hd⟩ | rfl
  · exact hquote
  · exact isInline_of_mem_literalChar hd
  · exact hquote

/-! ## Quotes inside -/

/-- How many backslashes end a text. -/
def backslashRun (s : List Char) : Nat := (s.rtakeWhile (· = '\\')).length

theorem backslashRun_concat (s : List Char) : backslashRun (s ++ ['\\']) = backslashRun s + 1 := by
  rw [backslashRun, List.rtakeWhile_concat_pos _ _ _ (by decide), List.length_append]
  rfl

theorem backslashRun_concat_of_ne {c : Char} (h : c ≠ '\\') (s : List Char) :
    backslashRun (s ++ [c]) = 0 := by
  rw [backslashRun, List.rtakeWhile_concat_neg _ _ _ (by simpa using h)]
  rfl

/-- A piece leaves an even run, since it ends with no backslash or with two. -/
theorem even_backslashRun_append {quote c : Char} {piece before : List Char}
    (h : IsPiece quote c piece) (hbefore : Even (backslashRun before)) :
    Even (backslashRun (before ++ piece)) := by
  cases h with
  | @letter l _ =>
    have hsplit : before ++ ['\\', l] = before ++ ['\\'] ++ [l] := by simp
    rw [hsplit]
    by_cases hl : l = '\\'
    · subst hl
      rw [backslashRun_concat, backslashRun_concat]
      exact hbefore.add_one.add_one
    · rw [backslashRun_concat_of_ne hl]
      exact Even.zero
  | digits _ =>
    have hlast : hexDigit (c.toNat % 16) ≠ '\\' := by
      have every : ∀ k ∈ List.range 16, hexDigit k ≠ '\\' := by decide
      exact every _ (List.mem_range.2 (Nat.mod_lt _ (by omega)))
    have hsplit : before ++ fourDigitEscape c.toNat =
        before ++ (fourDigitEscape c.toNat).dropLast ++ [hexDigit (c.toNat % 16)] := by
      simp [fourDigitEscape]
    rw [hsplit, backslashRun_concat_of_ne hlast]
    exact Even.zero
  | plain _ hback _ =>
    rw [backslashRun_concat_of_ne hback]
    exact Even.zero

/-- A piece holds a quote only behind its own backslash. -/
theorem eq_backslash_of_piece {c : Char} {piece x y : List Char} (h : IsPiece '\x27' c piece)
    (hquote : piece = x ++ '\x27' :: y) : x = ['\\'] := by
  cases h with
  | letter _ =>
    rcases x with _ | ⟨a, _ | ⟨b, x⟩⟩
    · exact absurd (List.cons.inj hquote).1 (by decide)
    · rw [← (List.cons.inj hquote).1]
    · exact absurd (congrArg List.length hquote) (by simp)
  | digits _ =>
    have hmem : '\x27' ∈ fourDigitEscape c.toNat := by
      rw [hquote]
      exact List.mem_append_right x List.mem_cons_self
    have hnone := forall_mem_fourDigits (P := (· ≠ '\x27')) (by decide) (by decide) (by decide)
      c.toNat _ hmem
    exact absurd rfl hnone
  | plain hne _ _ =>
    have hmem : '\x27' ∈ [c] := by
      rw [hquote]
      exact List.mem_append_right x List.mem_cons_self
    exact absurd (List.mem_singleton.1 hmem).symm hne

/-- The induction is on the text; what is written so far ends with an even run. -/
theorem odd_of_quote {s before x y : List Char} (hbefore : Even (backslashRun before))
    (h : s.flatMap literalChar = x ++ '\x27' :: y) : Odd (backslashRun (before ++ x)) := by
  induction s generalizing before x with
  | nil => exact absurd h.symm (by simp)
  | cons c s ih =>
    have hpiece := isPiece_literalChar c
    have heven := even_backslashRun_append hpiece hbefore
    rw [List.flatMap_cons] at h
    rcases List.append_eq_append_iff.1 h with ⟨rest, rfl, hrest⟩ | ⟨rest, hsplit, hrest⟩
    · rw [← List.append_assoc]
      exact ih heven hrest
    · -- the quote stands in the piece of `c`, or right behind it
      cases rest with
      | nil =>
        rw [List.append_nil] at hsplit
        have hodd := ih (x := []) heven hrest.symm
        rwa [List.append_nil, hsplit] at hodd
      | cons q rest =>
        obtain ⟨rfl, -⟩ := List.cons.inj hrest
        rw [eq_backslash_of_piece hpiece hsplit, backslashRun_concat]
        exact hbefore.add_one

theorem even_backslashRun_flatMap {s before : List Char} (hbefore : Even (backslashRun before)) :
    Even (backslashRun (before ++ s.flatMap literalChar)) := by
  induction s generalizing before with
  | nil => rwa [List.flatMap_nil, List.append_nil]
  | cons c s ih =>
    rw [List.flatMap_cons, ← List.append_assoc]
    exact ih (even_backslashRun_append (isPiece_literalChar c) hbefore)

/-! ## Quotations -/

structure IsQuotation (v : String) (text : List Char) : Prop where
  /-- Quotes stand at both ends, and the second is not escaped. -/
  quoted : ∃ inner, text = '\x27' :: inner ++ ['\x27'] ∧ Even (backslashRun ('\x27' :: inner))
  /-- A quote in between is escaped. -/
  escaped {before after : List Char} : text = before ++ '\x27' :: after → before ≠ [] →
    after ≠ [] → Odd (backslashRun before)
  inline : ∀ c ∈ text, IsInline c
  /-- The escapes that are written lead back to the characters. -/
  read : readLiteral text = some (v.toList, [])
  /-- All rules of the script lead to the same value. -/
  value : Script.readString text = some (Script.codeUnits v.toList, [])

theorem odd_of_mem_literalChars {s before after : List Char}
    (h : literalChars s = before ++ '\x27' :: after) (hbefore : before ≠ []) (hafter : after ≠ []) :
    Odd (backslashRun before) := by
  obtain ⟨first, x, rfl⟩ := List.exists_cons_of_ne_nil hbefore
  obtain ⟨y, last, rfl⟩ := (List.eq_nil_or_concat' after).resolve_left hafter
  rw [literalChars, List.cons_append, List.cons_append] at h
  obtain ⟨rfl, hinner⟩ := List.cons.inj h
  rw [← List.cons_append, ← List.append_assoc] at hinner
  have hflat : s.flatMap literalChar = x ++ '\x27' :: y := List.append_inj_left' hinner rfl
  have heven : Even (backslashRun ['\x27']) := by decide
  exact odd_of_quote heven hflat

theorem isQuotation_literalChars (v : String) : IsQuotation v (literalChars v.toList) := by
  have hread := readLiteral_literalChars v.toList []
  have hvalue := Script.readString_literalChars v.toList []
  rw [List.append_nil] at hread hvalue
  constructor
  case quoted =>
    have hstart : Even (backslashRun ['\x27']) := by decide
    exact ⟨v.toList.flatMap literalChar, rfl, even_backslashRun_flatMap hstart⟩
  case escaped => exact odd_of_mem_literalChars
  case inline => exact fun c hc => isInline_of_mem_literalChars hc
  case read => exact hread
  case value => exact hvalue

theorem isQuotation_literal :
    (∀ v, IsQuotation v (literal v).toList) ∧ (∀ v w, literal v = literal w ↔ v = w) ∧
      ∀ v w, (literal v).toList <+: (literal w).toList ↔ v = w := by
  refine ⟨fun v => ?_, fun _ _ => literal_inj, fun _ _ => literal_prefix_iff⟩
  rw [literal, String.toList_ofList]
  exact isQuotation_literalChars v

end Text
end AmpComponents
