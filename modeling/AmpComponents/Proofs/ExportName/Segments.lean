/-
Tag names fall into parts at their hyphens.

Whether a sigma is final is decided by the nearest character with a case on either side, and a
hyphen ends the search both ways, since it has no case and is not ignored.  So the lower case of a
text with a hyphen is made of the lower cases of its two sides (`lower_append_hyphen`).  The scan for
capitals starts anew behind the hyphen as it starts at the front of a text, provided it takes this
hyphen for a word start: none stands before it, and behind it stands neither another one nor a line
feed.  Hence

  `exportChars_append_hyphen`: the name of `a-b` is the name of `a` followed by the name of `b`.

A segment is what can stand between two such hyphens.  It is exported as its lower case with the
first character in upper case, and a tag name made of segments as its segments.
-/
import AmpComponents.Proofs.ExportName

namespace AmpComponents

open Text

/-! ## Lower case -/

theorem startsCased_hyphen (s : List Char) : startsCased ('-' :: s) = false := by
  have hignorable : isCaseIgnorable '-' = false := by decide +kernel
  have hcased : isCased '-' = false := by decide +kernel
  simp [startsCased, hignorable, hcased]

/-- What lies behind a place without a case does not matter to the text in front of it. -/
theorem lowerAfter_append_left {t : List Char} (h : startsCased t = false) (before s : List Char) :
    lowerAfter (before ++ t) s = lowerAfter before s := by
  induction s generalizing before with
  | nil => rfl
  | cons c s ih =>
    have hrest := ih (c :: before)
    rw [List.cons_append] at hrest
    simp only [lowerAfter, smallSigma, startsCased_append h, hrest]

theorem lower_append_hyphen (a b : List Char) :
    lower (a ++ '-' :: b) = lower a ++ '-' :: lower b := by
  have hbehind := lowerAfter_append_left (startsCased_hyphen (a.reverse ++ [])) [] b
  rw [List.nil_append] at hbehind
  rw [lower, lowerAfter_append (startsCased_hyphen b), lowerAfter_cons, hbehind]
  rfl

theorem lower_ne_nil {s : List Char} (h : s ≠ []) : lower s ≠ [] := by
  obtain ⟨c, rest, rfl⟩ := List.exists_cons_of_ne_nil h
  rw [lower, lowerAfter_cons]
  exact List.append_ne_nil_of_left_ne_nil (lowerBetween_ne_nil _ _ _) _

theorem hyphen_not_mem_lowerAfter {s : List Char} (h : '-' ∉ s) (before : List Char) :
    '-' ∉ lowerAfter before s := by
  induction s generalizing before with
  | nil => exact List.not_mem_nil
  | cons c s ih =>
    rw [List.mem_cons, not_or] at h
    rw [lowerAfter_cons, List.mem_append, not_or]
    exact ⟨not_mem_lowerBetween (by decide) (Ne.symm h.1) _ _, ih h.2 _⟩

/-! ## Places where a word starts -/

/-- Whether a text can follow a hyphen that is to be taken for a word start. -/
def Opens (s : List Char) : Prop := ∃ c rest, s = c :: rest ∧ c ≠ '-' ∧ c ≠ '\n'

theorem opens_iff {s : List Char} :
    Opens s ↔ s ≠ [] ∧ s.head? ≠ some '-' ∧ s.head? ≠ some '\n' := by
  cases s <;> simp [Opens]

/-- The lower case starts a word where the text does. -/
theorem opens_lower {s : List Char} (h : Opens s) : Opens (lower s) := by
  obtain ⟨c, rest, rfl, hhyphen, hfeed⟩ := h
  obtain ⟨d, tail, hfirst⟩ := List.exists_cons_of_ne_nil (lowerBetween_ne_nil [] c rest)
  have hd : ∀ m : Char, 0 < m.toNat ∧ m.toNat ≤ 0x2D → c ≠ m → d ≠ m := by
    rintro m hm hc rfl
    exact not_mem_lowerBetween hm hc [] rest (hfirst ▸ List.mem_cons_self)
  refine ⟨d, tail ++ lowerAfter [c] rest, ?_, hd _ (by decide) hhyphen, hd _ (by decide) hfeed⟩
  rw [lower, lowerAfter_cons, hfirst, List.cons_append]

theorem capitaliseAfterHyphens_of_opens {s : List Char} (h : Opens s) :
    capitaliseAfterHyphens ('-' :: s) = capitalise s := by
  obtain ⟨c, rest, rfl, hhyphen, hfeed⟩ := h
  rw [capitaliseAfterHyphens_hyphen hfeed, capitalise, if_neg hfeed, if_neg hhyphen]

/-- A hyphen between two words takes the name apart. -/
theorem exportChars_append_hyphen {a b : List Char} (hne : a ≠ []) (ha : a.getLast? ≠ some '-')
    (hb : Opens b) : exportChars (a ++ '-' :: b) = exportChars a ++ exportChars b := by
  rw [exportChars, lower_append_hyphen,
    capitalise_append (lower_ne_nil hne) (getLast?_lowerAfter_ne ha []),
    capitaliseAfterHyphens_of_opens (opens_lower hb)]
  rfl

/-! ## Segments -/

/-- What can stand between two hyphens that are word starts. -/
structure IsSegment (s : List Char) : Prop where
  ne_nil : s ≠ []
  no_hyphen : '-' ∉ s
  no_feed : s.head? ≠ some '\n'

instance (s : List Char) : Decidable (IsSegment s) :=
  decidable_of_iff (s ≠ [] ∧ '-' ∉ s ∧ s.head? ≠ some '\n')
    ⟨fun ⟨hne, hhyphen, hfeed⟩ => ⟨hne, hhyphen, hfeed⟩,
      fun h => ⟨h.ne_nil, h.no_hyphen, h.no_feed⟩⟩

/-- A segment as it is exported: its lower case, with the first character in full upper case. -/
def capitalSegment (s : List Char) : List Char :=
  match lower s with
  | [] => []
  | c :: rest => upperChar c ++ rest

namespace IsSegment

variable {s : List Char} (h : IsSegment s)

include h

theorem opens : Opens s := by
  refine opens_iff.2 ⟨h.ne_nil, fun hfirst => ?_, h.no_feed⟩
  exact h.no_hyphen (List.mem_of_mem_head? hfirst)

theorem getLast?_ne : s.getLast? ≠ some '-' := fun hlast =>
  h.no_hyphen (List.mem_of_getLast? hlast)

theorem exportChars_eq : exportChars s = capitalSegment s := by
  have hhyphen : '-' ∉ lower s := hyphen_not_mem_lowerAfter h.no_hyphen []
  obtain ⟨c, rest, hlower, hc, hfeed⟩ := opens_lower h.opens
  rw [hlower, List.mem_cons, not_or] at hhyphen
  rw [exportChars, capitalSegment, hlower, capitalise, if_neg hfeed, if_neg hc,
    capitaliseAfterHyphens_of_not_mem hhyphen.2]

end IsSegment

/-- A list of words with a hyphen before each but the first. -/
theorem intercalate_hyphen (w : List Char) (ws : List (List Char)) :
    ['-'].intercalate (w :: ws) = w ++ ws.flatMap ('-' :: ·) := by
  induction ws generalizing w with
  | nil => simp
  | cons v ws ih =>
    rw [List.intercalate_cons_cons, ih, List.flatMap_cons, List.append_assoc]
    rfl

/-- A text as what stands between its hyphens. -/
theorem exists_splitOn_eq_cons (s : List Char) :
    ∃ w ws, s.splitOn '-' = w :: ws ∧ s = w ++ ws.flatMap ('-' :: ·) := by
  obtain ⟨w, ws, hsplit⟩ := List.exists_cons_of_ne_nil (List.splitOn_ne_nil '-' s)
  refine ⟨w, ws, hsplit, ?_⟩
  rw [← intercalate_hyphen, ← hsplit, List.intercalate_splitOn]

/-- Each hyphen takes one segment off. -/
theorem exportChars_segments {w : List Char} {ws : List (List Char)} (hw : IsSegment w)
    (hws : ∀ v ∈ ws, IsSegment v) :
    exportChars (w ++ ws.flatMap ('-' :: ·)) = (w :: ws).flatMap capitalSegment := by
  induction ws generalizing w with
  | nil => rw [List.flatMap_nil, List.append_nil, hw.exportChars_eq, List.flatMap_singleton]
  | cons v ws ih =>
    obtain ⟨hv, hws⟩ := List.forall_mem_cons.1 hws
    have hopens : Opens (v ++ ws.flatMap ('-' :: ·)) := by
      obtain ⟨c, rest, rfl, hc⟩ := hv.opens
      exact ⟨c, rest ++ ws.flatMap ('-' :: ·), rfl, hc⟩
    rw [List.flatMap_cons, List.cons_append,
      exportChars_append_hyphen hw.ne_nil hw.getLast?_ne hopens, ih hv hws, hw.exportChars_eq]
    rfl

theorem exportChars_splitOn {s : List Char} (h : ∀ w ∈ s.splitOn '-', IsSegment w) :
    exportChars s = (s.splitOn '-').flatMap capitalSegment := by
  obtain ⟨w, ws, hsplit, hjoin⟩ := exists_splitOn_eq_cons s
  rw [hsplit] at h ⊢
  obtain ⟨hw, hws⟩ := List.forall_mem_cons.1 h
  exact hjoin ▸ exportChars_segments hw hws

/-! ## Names -/

/-- A way of naming tags that works on the parts between hyphens. -/
structure ComposesOverHyphens (name : String → String) : Prop where
  append : ∀ a b : String, a ≠ "" → a.toList.getLast? ≠ some '-' → b ≠ "" →
    b.toList.head? ≠ some '-' → b.toList.head? ≠ some '\n' →
    name (a ++ "-" ++ b) = name a ++ name b
  /-- One segment is put in lower case, and its first character in full upper case. -/
  segment : ∀ s : String, IsSegment s.toList →
    ∃ c rest, lower s.toList = c :: rest ∧ name s = String.ofList (upperChar c ++ rest)
  segments : ∀ tag : String, (∀ w ∈ tag.toList.splitOn '-', IsSegment w) →
    name tag = String.ofList ((tag.toList.splitOn '-').flatMap capitalSegment)

theorem composesOverHyphens_exportName : ComposesOverHyphens exportName where
  append a b hne ha hb hhyphen hfeed := by
    have hopens : Opens b.toList := opens_iff.2 ⟨by simpa using hb, hhyphen, hfeed⟩
    have hhyphens : "-".toList = ['-'] := String.toList_ofList
    rw [exportName, String.toList_append, String.toList_append, hhyphens, List.append_assoc,
      List.singleton_append, exportChars_append_hyphen (by simpa using hne) ha hopens,
      String.ofList_append]
    rfl
  segment s h := by
    obtain ⟨c, rest, hlower, -⟩ := opens_lower h.opens
    refine ⟨c, rest, hlower, ?_⟩
    rw [exportName, h.exportChars_eq, capitalSegment, hlower]
  segments tag h := by
    rw [exportName, exportChars_splitOn h]

/-- A capital sigma before a hyphen is final, and one letter may become two. -/
theorem composesOverHyphens_finalSigma :
    (∀ w ∈ "amp-ΟΔΟΣ-ßig".toList.splitOn '-', IsSegment w) ∧
      exportName "amp-ΟΔΟΣ-ßig" = "AmpΟδοςSSig" ∧
      exportName ("amp-ΟΔΟΣ" ++ "-" ++ "ßig") = exportName "amp-ΟΔΟΣ" ++ exportName "ßig" := by
  have hsegments : ∀ w ∈ "amp-ΟΔΟΣ-ßig".toList.splitOn '-', IsSegment w := by decide +kernel
  refine ⟨hsegments, ?_, ?_⟩
  · rw [composesOverHyphens_exportName.segments _ hsegments]
    decide +kernel
  · exact composesOverHyphens_exportName.append _ _ (by decide) (by decide +kernel) (by decide)
      (by decide +kernel) (by decide +kernel)

end AmpComponents
