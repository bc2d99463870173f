/-
How the parts of a tag name show in the exported name.

The capitals are set by one scan from the left, and the lower case of a character may depend on
both its neighbours, so a name does not fall into parts by itself.  It does at a place where no
hyphen stands in front and where what follows has no case at its start: `capitalise_append` and
`lowerAfter_append`.  The underscore in front of a variant's digits is such a place, hence

  `exportChars_variantChars`: the name of a variant is that of its tag, an underscore and the
  digits.
-/
import AmpComponents.ExportName
import AmpComponents.Proofs.Text.Spans
import Mathlib

namespace AmpComponents

open Text

/-! ## Capitals -/

theorem capitaliseAfterHyphens_hyphen {c : Char} (h : c ≠ '\n') (rest : List Char) :
    capitaliseAfterHyphens ('-' :: c :: rest) = upperChar c ++ capitaliseAfterHyphens rest := by
  rw [capitaliseAfterHyphens, if_neg h]

theorem capitaliseAfterHyphens_of_ne {c : Char} (h : c ≠ '-') (rest : List Char) :
    capitaliseAfterHyphens (c :: rest) = c :: capitaliseAfterHyphens rest := by
  rw [capitaliseAfterHyphens]
  intro _ _ heq
  exact absurd heq h

theorem capitaliseAfterHyphens_of_not_mem {s : List Char} (h : '-' ∉ s) :
    capitaliseAfterHyphens s = s := by
  induction s with
  | nil => rfl
  | cons c s ih =>
    rw [List.mem_cons, not_or] at h
    rw [capitaliseAfterHyphens_of_ne (Ne.symm h.1), ih h.2]

theorem getLast?_ne_of_cons {c d : Char} {s : List Char} (h : (c :: s).getLast? ≠ some d) :
    s.getLast? ≠ some d := by
  intro hlast
  rw [List.getLast?_cons, hlast] at h
  exact h rfl

/-- Behind a character that is no hyphen the scan starts anew. -/
theorem capitaliseAfterHyphens_append {s : List Char} (h : s.getLast? ≠ some '-')
    (t : List Char) :
    capitaliseAfterHyphens (s ++ t) = capitaliseAfterHyphens s ++ capitaliseAfterHyphens t := by
  induction s using capitaliseAfterHyphens.induct with
  | case1 rest ih =>
    simp only [List.cons_append, capitaliseAfterHyphens, if_true,
      ih (getLast?_ne_of_cons (getLast?_ne_of_cons h))]
  | case2 c rest hc ih =>
    simp only [List.cons_append, capitaliseAfterHyphens_hyphen hc,
      ih (getLast?_ne_of_cons (getLast?_ne_of_cons h)), List.append_assoc]
  | case3 c rest hpair ih =>
    have hc : c ≠ '-' := by
      rintro rfl
      cases rest with
      | nil => exact h rfl
      | cons d rest => exact hpair d rest rfl rfl
    rw [List.cons_append, capitaliseAfterHyphens_of_ne hc, capitaliseAfterHyphens_of_ne hc,
      ih (getLast?_ne_of_cons h), List.cons_append]
  | case4 => rfl

theorem capitalise_append {s : List Char} (hne : s ≠ []) (h : s.getLast? ≠ some '-')
    (t : List Char) : capitalise (s ++ t) = capitalise s ++ capitaliseAfterHyphens t := by
  obtain ⟨c, rest, rfl⟩ := List.exists_cons_of_ne_nil hne
  simp only [List.cons_append, capitalise,
    capitaliseAfterHyphens_append (getLast?_ne_of_cons h)]
  split
  · rfl
  split
  · rfl
  · rw [List.append_assoc]

/-! ## Letters and digits -/

theorem isAlphanum_of_isAlpha {c : Char} (h : c.isAlpha = true) : c.isAlphanum = true := by
  simp [Char.isAlphanum, h]

/-- Letters and digits are ASCII. -/
theorem toNat_lt_of_isAlphanum {c : Char} (h : c.isAlphanum = true) : c.toNat < 0x80 := by
  simp only [Char.isAlphanum, Char.isAlpha, Char.isUpper, Char.isLower, Char.isDigit,
    Bool.or_eq_true, decide_eq_true_eq, Bool.and_eq_true, UInt32.le_iff_toNat_le, ge_iff_le] at h
  unfold Char.toNat
  rcases h with (⟨-, h⟩ | ⟨-, h⟩) | ⟨-, h⟩
  · exact Nat.lt_of_le_of_lt h (by decide)
  · exact Nat.lt_of_le_of_lt h (by decide)
  · exact Nat.lt_of_le_of_lt h (by decide)

/-! ## Lower case -/

/-- What follows a text matters to its lower case by its first case only. -/
theorem startsCased_append {s t : List Char} (h : startsCased t = false) :
    startsCased (s ++ t) = startsCased s := by
  induction s with
  | nil => exact h
  | cons c s ih => simp only [List.cons_append, startsCased, ih]

theorem lowerAfter_append {t : List Char} (h : startsCased t = false) (before s : List Char) :
    lowerAfter before (s ++ t) = lowerAfter before s ++ lowerAfter (s.reverse ++ before) t := by
  induction s generalizing before with
  | nil => rfl
  | cons c s ih =>
    simp only [List.cons_append, lowerAfter, ih, smallSigma, startsCased_append h,
      List.reverse_cons, List.append_assoc, List.nil_append]

theorem lowerAfter_of_ascii {s : List Char} (h : ∀ c ∈ s, c.toNat < 0x80) (before : List Char) :
    lowerAfter before s = s.map Char.toLower := by
  induction s generalizing before with
  | nil => rfl
  | cons c s ih =>
    obtain ⟨hc, hs⟩ := List.forall_mem_cons.1 h
    have hsigma : c ≠ capitalSigma := by
      rintro rfl
      exact absurd hc (by decide)
    rw [lowerAfter, if_neg hsigma, lowerChar_of_ascii hc, ih hs]
    rfl

/-- No image in the table is a hyphen. -/
theorem hyphen_lt_target : ∀ r ∈ lowerRuns, 0x2D < r.target := by decide +kernel

theorem toLower_ne {c m : Char} (hm : m.isLower = false) (h : c ≠ m) : c.toLower ≠ m := by
  by_cases hupper : c.isUpper
  · intro heq
    have hlower : c.toLower.isLower = true := by simp [Char.isAlpha, hupper]
    rw [heq, hm] at hlower
    cases hlower
  · rwa [Char.toLower_eq_of_not_isUpper hupper]

theorem isLower_eq_false_of_le {m : Char} (hm : m.toNat ≤ 0x2D) : m.isLower = false := by
  rw [Bool.eq_false_iff]
  intro hlower
  have hbounds : 0x61 ≤ m.toNat ∧ m.toNat ≤ 0x7A := by
    simpa [Char.isLower, UInt32.le_iff_toNat_le, ← Char.toNat_val] using hlower
  omega

/-- What the lower case of a character is made of. -/
theorem lowerChar_cases {c d : Char} (h : d ∈ lowerChar c) :
    (c.toNat < 0x80 ∧ d = c.toLower) ∨ d = 'i' ∨ d = Char.ofNat 0x307 ∨
      (∃ r ∈ lowerRuns, ∃ n, r.target ≤ n ∧ d = Char.ofNat n) ∨ (¬c.toNat < 0x80 ∧ d = c) := by
  unfold lowerChar at h
  split at h
  · next hascii => exact .inl ⟨hascii, List.mem_singleton.1 h⟩
  split at h
  · simp only [List.mem_cons, List.not_mem_nil, or_false] at h
    exact h.elim (fun h => .inr (.inl h)) fun h => .inr (.inr (.inl h))
  split at h
  · next n hn =>
    obtain ⟨r, hr, hrun⟩ := List.exists_of_findSome?_eq_some hn
    have hle : r.target ≤ n := by
      unfold CaseRun.image? at hrun
      split at hrun
      · obtain rfl := Option.some.inj hrun
        exact Nat.le_add_right _ _
      · cases hrun
    exact .inr (.inr (.inr (.inl ⟨r, hr, n, hle, List.mem_singleton.1 h⟩)))
  · next hlarge _ _ _ => exact .inr (.inr (.inr (.inr ⟨hlarge, List.mem_singleton.1 h⟩)))

/-- Up to the hyphen a character is the lower case of itself only. -/
theorem not_mem_lowerChar {c m : Char} (hm : 0 < m.toNat ∧ m.toNat ≤ 0x2D) (h : c ≠ m) :
    m ∉ lowerChar c := by
  intro hmem
  rcases lowerChar_cases hmem with ⟨-, heq⟩ | rfl | rfl | ⟨r, hr, n, hn, rfl⟩ | ⟨-, heq⟩
  · exact toLower_ne (isLower_eq_false_of_le hm.2) h heq.symm
  · exact absurd hm (by decide)
  · exact absurd hm (by decide)
  · have htarget := hyphen_lt_target r hr
    rw [Char.toNat_ofNat] at hm
    split at hm <;> omega
  · exact h heq.symm

/-- The lower case of a character between its neighbours. -/
def lowerBetween (before : List Char) (c : Char) (after : List Char) : List Char :=
  if c = capitalSigma then [smallSigma before after] else lowerChar c

theorem lowerAfter_cons (before : List Char) (c : Char) (s : List Char) :
    lowerAfter before (c :: s) = lowerBetween before c s ++ lowerAfter (c :: before) s := rfl

theorem lowerBetween_ne_nil (before : List Char) (c : Char) (after : List Char) :
    lowerBetween before c after ≠ [] := by
  unfold lowerBetween lowerChar
  split
  · simp
  split
  · simp
  split
  · simp
  split <;> simp

theorem not_mem_lowerBetween {c m : Char} (hm : 0 < m.toNat ∧ m.toNat ≤ 0x2D) (h : c ≠ m)
    (before after : List Char) : m ∉ lowerBetween before c after := by
  unfold lowerBetween
  split
  · rw [List.mem_singleton, smallSigma]
    rintro rfl
    split at hm <;> exact absurd hm (by decide)
  · exact not_mem_lowerChar hm h

/-- Only a hyphen becomes a hyphen. -/
theorem getLast?_lowerAfter_ne {s : List Char} (h : s.getLast? ≠ some '-')
    (before : List Char) : (lowerAfter before s).getLast? ≠ some '-' := by
  induction s generalizing before with
  | nil => simp [lowerAfter]
  | cons c s ih =>
    rw [lowerAfter_cons]
    cases s with
    | nil =>
      have hc : c ≠ '-' := by simpa using h
      rw [lowerAfter, List.append_nil]
      exact fun hlast =>
        not_mem_lowerBetween (by decide) hc _ _ (List.mem_of_getLast? hlast)
    | cons d s =>
      have hne : lowerAfter (c :: before) (d :: s) ≠ [] := by
        rw [lowerAfter_cons]
        exact List.append_ne_nil_of_left_ne_nil (lowerBetween_ne_nil _ _ _) _
      rw [List.getLast?_append_of_ne_nil _ hne]
      exact ih (getLast?_ne_of_cons h) (c :: before)

/-! ## Variants -/

/-- A digit as the discriminators are written with. -/
def isHexDigit (c : Char) : Bool := c.isDigit || (decide ('a' ≤ c) && decide (c ≤ 'f'))

/-- What holds of the sixteen digits holds of every digit written. -/
theorem forall_mem_hex {P : Char → Prop} (h : ∀ n ∈ List.range 16, P (hexDigit n)) (s : String) :
    ∀ c ∈ hex s, P c := by
  intro c hc
  obtain ⟨b, -, hb⟩ := List.mem_flatMap.1 hc
  have bound := b.toNat_lt
  simp only [hexByte, List.mem_cons, List.not_mem_nil, or_false] at hb
  rcases hb with rfl | rfl
  · exact h _ (List.mem_range.2 (by omega))
  · exact h _ (List.mem_range.2 (by omega))

theorem startsCased_underscore (s : List Char) : startsCased ('_' :: s) = false := by
  have hignorable : isCaseIgnorable '_' = false := by decide +kernel
  have hcased : isCased '_' = false := by decide +kernel
  simp [startsCased, hignorable, hcased]

theorem lowerAfter_suffix (before : List Char) (discriminator : String) :
    lowerAfter before ('_' :: hex discriminator) = '_' :: hex discriminator := by
  have hascii : ∀ c ∈ '_' :: hex discriminator, c.toNat < 0x80 :=
    List.forall_mem_cons.2 ⟨by decide, forall_mem_hex (by decide) discriminator⟩
  have hlower : ∀ c ∈ hex discriminator, c.toLower = id c :=
    forall_mem_hex (by decide) discriminator
  rw [lowerAfter_of_ascii hascii, List.map_cons, List.map_congr_left hlower, List.map_id]
  rfl

theorem capitaliseAfterHyphens_hex (discriminator : String) :
    capitaliseAfterHyphens (hex discriminator) = hex discriminator :=
  capitaliseAfterHyphens_of_not_mem fun hmem =>
    forall_mem_hex (P := (· ≠ '-')) (by decide) discriminator _ hmem rfl

theorem lower_append_underscore (s : List Char) : lower (s ++ ['_']) = lower s ++ ['_'] := by
  rw [lower, lowerAfter_append (startsCased_underscore [])]
  rfl

theorem lower_variantChars (tag discriminator : String) :
    lower (variantChars tag discriminator) =
      lower (tag.toList ++ ['_']) ++ hex discriminator := by
  rw [lower, variantChars, lowerAfter_append (startsCased_underscore _), lowerAfter_suffix,
    lower_append_underscore, List.append_assoc, List.singleton_append, lower]

/-- The digits of a variant name stand in the exported name as they are, whatever the tag is. -/
theorem exportChars_variantChars_append (tag discriminator : String) :
    exportChars (variantChars tag discriminator) =
      exportChars (tag.toList ++ ['_']) ++ hex discriminator := by
  rw [exportChars, lower_variantChars, lower_append_underscore,
    capitalise_append (by simp) (by simp), capitaliseAfterHyphens_hex, exportChars,
    lower_append_underscore]

/-- A hyphen at the end would take the underscore along. -/
theorem exportChars_append_underscore {s : List Char} (h : s.getLast? ≠ some '-') :
    exportChars (s ++ ['_']) = exportChars s ++ ['_'] := by
  rw [exportChars, lower_append_underscore]
  by_cases hne : lower s = []
  · rw [exportChars, hne]
    rfl
  · rw [capitalise_append hne (getLast?_lowerAfter_ne h []),
      capitaliseAfterHyphens_of_ne (by decide), exportChars]
    rfl

theorem exportChars_variantChars {tag : String} (h : tag.toList.getLast? ≠ some '-')
    (discriminator : String) :
    exportChars (variantChars tag discriminator) =
      exportChars tag.toList ++ '_' :: hex discriminator := by
  rw [exportChars_variantChars_append, exportChars_append_underscore h, List.append_assoc,
    List.singleton_append]

end AmpComponents
