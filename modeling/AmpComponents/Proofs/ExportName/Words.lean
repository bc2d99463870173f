/-
Tag names made of words.

A word is a letter with letters and digits behind it, all of them ASCII.  It is a segment, and what
a segment is exported as is then the word with a capital (`capitalSegment_of_isTagWord`), so that a
name of words with hyphens between them is exported as its words (`exportChars_hyphenated`).  A
capital opens every word and stands nowhere else, so the words can be told from the exported name,
up to their case (`map_toLower_eq_of_exportChars_eq`).
-/
import AmpComponents.Proofs.ExportName.Segments

namespace AmpComponents

open Text

/-! ## Words -/

/-- A word of a tag name: a letter, then letters and digits. -/
def isTagWord : List Char → Bool
  | [] => false
  | c :: rest => c.isAlpha && rest.all Char.isAlphanum

/-- Whether a tag name is made of words with one hyphen between any two. -/
def isHyphenated (tag : String) : Bool := (tag.toList.splitOn '-').all isTagWord

/-- A word as it is exported. -/
def capitalWord : List Char → List Char
  | [] => []
  | c :: rest => c.toUpper :: rest.map Char.toLower

theorem isTagWord_cons {c : Char} {rest : List Char} :
    isTagWord (c :: rest) = true ↔ c.isAlpha = true ∧ ∀ d ∈ rest, d.isAlphanum = true := by
  simp [isTagWord]

theorem ne_hyphen_of_isAlphanum {c : Char} (h : c.isAlphanum = true) : c ≠ '-' := by
  rintro rfl
  cases h

theorem isAlphanum_of_isTagWord {w : List Char} (h : isTagWord w = true) :
    ∀ c ∈ w, c.isAlphanum = true := by
  cases w with
  | nil => simp
  | cons c rest =>
    obtain ⟨hc, hrest⟩ := isTagWord_cons.1 h
    exact List.forall_mem_cons.2 ⟨isAlphanum_of_isAlpha hc, hrest⟩

section Words

variable {w : List Char} (hw : isTagWord w = true)

include hw

theorem isSegment_of_isTagWord : IsSegment w where
  ne_nil := by
    rintro rfl
    cases hw
  no_hyphen hmem := ne_hyphen_of_isAlphanum (isAlphanum_of_isTagWord hw _ hmem) rfl
  no_feed hfirst := by
    have hfeed := isAlphanum_of_isTagWord hw _ (List.mem_of_mem_head? hfirst)
    cases hfeed

/-- The capital of a word in lower case is that of the word. -/
theorem capitalSegment_of_isTagWord : capitalSegment w = capitalWord w := by
  have hascii : ∀ c ∈ w, c.toNat < 0x80 := fun c hc =>
    toNat_lt_of_isAlphanum (isAlphanum_of_isTagWord hw c hc)
  rw [capitalSegment, lower, lowerAfter_of_ascii hascii]
  cases w with
  | nil => rfl
  | cons c rest =>
    have hc : c.toLower.isAlpha = true := by
      rw [Char.isAlpha_toLower_eq_isAlpha]
      exact (isTagWord_cons.1 hw).1
    show upperChar c.toLower ++ rest.map Char.toLower = c.toUpper :: rest.map Char.toLower
    rw [upperChar_of_ascii (toNat_lt_of_isAlphanum (isAlphanum_of_isAlpha hc)),
      Char.toUpper_toLower_eq_toUpper]
    rfl

end Words

theorem exists_words {tag : String} (h : isHyphenated tag = true) :
    ∃ w ws, isTagWord w = true ∧ (∀ v ∈ ws, isTagWord v = true) ∧
      tag.toList.splitOn '-' = w :: ws ∧ tag.toList = w ++ ws.flatMap ('-' :: ·) := by
  have hwords := List.all_eq_true.1 h
  obtain ⟨w, ws, hsplit, hjoin⟩ := exists_splitOn_eq_cons tag.toList
  rw [hsplit] at hwords
  obtain ⟨hw, hws⟩ := List.forall_mem_cons.1 hwords
  exact ⟨w, ws, hw, hws, hsplit, hjoin⟩

/-- A tag name made of words is exported as its words, each with a capital. -/
theorem exportChars_hyphenated {tag : String} (h : isHyphenated tag = true) :
    exportChars tag.toList = (tag.toList.splitOn '-').flatMap capitalWord := by
  have hwords := List.all_eq_true.1 h
  rw [exportChars_splitOn fun w hw => isSegment_of_isTagWord (hwords w hw), List.flatMap_def,
    List.map_congr_left fun w hw => capitalSegment_of_isTagWord (hwords w hw), List.flatMap_def]

theorem getLast?_words_ne {w : List Char} {ws : List (List Char)} (hw : isTagWord w = true)
    (hws : ∀ v ∈ ws, isTagWord v = true) :
    (w ++ ws.flatMap ('-' :: ·)).getLast? ≠ some '-' := by
  induction ws generalizing w with
  | nil =>
    rw [List.flatMap_nil, List.append_nil]
    intro hlast
    exact ne_hyphen_of_isAlphanum
      (isAlphanum_of_isTagWord hw _ (List.mem_of_getLast? hlast)) rfl
  | cons v ws ih =>
    obtain ⟨hv, hrest⟩ := List.forall_mem_cons.1 hws
    have htail := ih hv hrest
    cases v with
    | nil => cases hv
    | cons c rest =>
      rwa [List.flatMap_cons, List.getLast?_append_of_ne_nil _ (by simp), List.cons_append,
        List.cons_append, List.getLast?_cons_cons]

/-- A tag name made of words ends with a letter or a digit. -/
theorem getLast?_ne_of_isHyphenated {tag : String} (h : isHyphenated tag = true) :
    tag.toList.getLast? ≠ some '-' := by
  obtain ⟨w, ws, hw, hws, -, htag⟩ := exists_words h
  rw [htag]
  exact getLast?_words_ne hw hws

/-! ## Capitals tell the words apart -/

theorem isUpper_of_mem_head? {ws : List (List Char)} (h : ∀ w ∈ ws, isTagWord w = true) :
    Ends (fun c => !c.isUpper) (ws.flatMap capitalWord) := by
  cases ws with
  | nil => exact ends_nil
  | cons w ws =>
    cases w with
    | nil => cases h [] List.mem_cons_self
    | cons c rest =>
      obtain ⟨hc, -⟩ := isTagWord_cons.1 (h _ List.mem_cons_self)
      exact ends_cons (by simpa using hc) _

/-- The induction is on the words: a capital opens each, and the next capital ends it. -/
theorem map_toLower_eq_of_flatMap_eq {vs ws : List (List Char)}
    (hvs : ∀ v ∈ vs, isTagWord v = true) (hws : ∀ w ∈ ws, isTagWord w = true)
    (h : vs.flatMap capitalWord = ws.flatMap capitalWord) :
    vs.map (·.map Char.toLower) = ws.map (·.map Char.toLower) := by
  have hlower : ∀ s : List Char, ∀ c ∈ s.map Char.toLower, (!c.isUpper) = true := by
    intro s c hc
    obtain ⟨d, -, rfl⟩ := List.mem_map.1 hc
    simp
  induction vs generalizing ws with
  | nil =>
    cases ws with
    | nil => rfl
    | cons w ws =>
      cases w with
      | nil => cases hws [] List.mem_cons_self
      | cons d s => cases h
  | cons v vs ih =>
    cases v with
    | nil => cases hvs [] List.mem_cons_self
    | cons c r =>
      cases ws with
      | nil => cases h
      | cons w ws =>
        cases w with
        | nil => cases hws [] List.mem_cons_self
        | cons d s =>
          obtain ⟨-, hvs⟩ := List.forall_mem_cons.1 hvs
          obtain ⟨-, hws⟩ := List.forall_mem_cons.1 hws
          obtain ⟨hcapital, hrest⟩ := List.cons.inj h
          obtain ⟨hword, htail⟩ := span_append_inj (hlower r) (hlower s)
            (isUpper_of_mem_head? hvs) (isUpper_of_mem_head? hws) hrest
          have hfirst : c.toLower = d.toLower := by
            rw [← Char.toLower_toUpper_eq_toLower c, hcapital, Char.toLower_toUpper_eq_toLower]
          simp only [List.map_cons, hfirst, hword, ih hvs hws htail]

theorem map_toLower_eq_intercalate (s : List Char) : s.map Char.toLower =
    ['-'].intercalate ((s.splitOn '-').map (·.map Char.toLower)) := by
  obtain ⟨w, ws, hsplit, hjoin⟩ := exists_splitOn_eq_cons s
  rw [hsplit, List.map_cons, intercalate_hyphen, List.flatMap_map, hjoin, List.map_append,
    List.map_flatMap]
  rfl

/-- Tag names made of words are exported under one name only if they differ in case alone. -/
theorem map_toLower_eq_of_exportChars_eq {t u : String} (ht : isHyphenated t = true)
    (hu : isHyphenated u = true) (h : exportChars t.toList = exportChars u.toList) :
    t.toList.map Char.toLower = u.toList.map Char.toLower := by
  rw [exportChars_hyphenated ht, exportChars_hyphenated hu] at h
  have hwords := map_toLower_eq_of_flatMap_eq (List.all_eq_true.1 ht) (List.all_eq_true.1 hu) h
  rw [map_toLower_eq_intercalate, hwords, ← map_toLower_eq_intercalate]

end AmpComponents
