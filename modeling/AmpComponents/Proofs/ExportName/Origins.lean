/-
Which tag names are exported under a given name.

Case is lost on the way to an exported name, so what can be found again is the lower case of the
tag name.  `origins w` lists it for a name `w`: every capital has a hyphen in front of it, the
first one needs none, and a character without a case may have one.

The list is complete for names made of traceable characters (`exportName_eq_iff`).  A text in lower
case has no capital of its own, so a capital was set by the scan, and a traceable one is set for one
ASCII character only.  All ASCII capitals are traceable but three: `F`, `I` and `S` are also set for
ligatures, the dotless i, the sharp s and the long s.
-/
import AmpComponents.Proofs.ExportName

namespace AmpComponents

open Text

/-! ## Traceable characters -/

/-- Whether a character is set for an ASCII character only. -/
def isTraceable (c : Char) : Bool := (c.isAlpha || c = '_') && c ∉ ['F', 'I', 'S']

theorem exists_not_traceable_expansion : ∀ e ∈ upperExpansions,
    ∃ n ∈ e.2, isTraceable (Char.ofNat n) = false := by decide +kernel

theorem not_traceable_run : ∀ r ∈ upperRuns, 0x80 ≤ r.target ∨
    r.first = r.last ∧ isTraceable (Char.ofNat r.target) = false := by decide +kernel

theorem toNat_of_isTraceable {c : Char} (h : isTraceable c = true) :
    0 < c.toNat ∧ c.toNat < 0x80 := by
  rw [isTraceable, Bool.and_eq_true, Bool.or_eq_true, decide_eq_true_eq] at h
  rcases h.1 with halpha | rfl
  · refine ⟨Nat.pos_of_ne_zero fun hzero => ?_,
      toNat_lt_of_isAlphanum (isAlphanum_of_isAlpha halpha)⟩
    obtain rfl : c = '\x00' := Char.toNat_inj.1 hzero
    cases halpha
  · decide

theorem not_traceable_image {r : CaseRun} (hr : r ∈ upperRuns) {n m : Nat}
    (h : r.image? n = some m) : isTraceable (Char.ofNat m) = false := by
  unfold CaseRun.image? at h
  split at h
  · next hrun =>
    obtain rfl : r.target + (n - r.first) = m := Option.some.inj h
    rcases not_traceable_run r hr with htarget | ⟨hone, htarget⟩
    · rw [Bool.eq_false_iff]
      intro htraceable
      have hbounds := toNat_of_isTraceable htraceable
      rw [Char.toNat_ofNat] at hbounds
      split at hbounds <;> omega
    · rwa [show n - r.first = 0 by omega, Nat.add_zero]
  · cases h

/-- Characters outside ASCII have no upper case that is traceable throughout. -/
theorem toNat_lt_of_upperChar {x : Char} (h : ∀ c ∈ upperChar x, isTraceable c = true) :
    x.toNat < 0x80 := by
  by_contra hlarge
  rw [upperChar, if_neg hlarge] at h
  split at h
  · next images hlookup =>
    obtain ⟨before, after, htable, -⟩ := List.lookup_eq_some_iff.1 hlookup
    obtain ⟨n, hn, hplain⟩ := exists_not_traceable_expansion (x.toNat, images) (by simp [htable])
    exact Bool.false_ne_true (hplain.symm.trans (h _ (List.mem_map_of_mem hn)))
  split at h
  · next m hfind =>
    obtain ⟨r, hr, himage⟩ := List.exists_of_findSome?_eq_some hfind
    exact Bool.false_ne_true
      ((not_traceable_image hr himage).symm.trans (h _ (List.mem_singleton_self _)))
  · exact hlarge (toNat_of_isTraceable (h x (List.mem_singleton_self _))).2

/-! ## Lower case -/

theorem capital_lt_target : ∀ r ∈ lowerRuns, 0x5A < r.target := by decide +kernel

theorem isUpper_iff_toNat {c : Char} : c.isUpper = true ↔ 0x41 ≤ c.toNat ∧ c.toNat ≤ 0x5A := by
  simp [Char.isUpper, UInt32.le_iff_toNat_le, ← Char.toNat_val]

theorem isUpper_ofNat_of_lt {n : Nat} (h : 0x5A < n) : (Char.ofNat n).isUpper = false := by
  rw [Bool.eq_false_iff]
  intro hupper
  have hbounds := isUpper_iff_toNat.1 hupper
  rw [Char.toNat_ofNat] at hbounds
  split at hbounds <;> omega

theorem isUpper_of_mem_lowerChar {c d : Char} (h : d ∈ lowerChar c) : d.isUpper = false := by
  rcases lowerChar_cases h with ⟨-, rfl⟩ | rfl | rfl | ⟨r, hr, n, hn, rfl⟩ | ⟨hlarge, rfl⟩
  · exact Char.isUpper_toLower_eq_false c
  · rfl
  · exact isUpper_ofNat_of_lt (by decide)
  · exact isUpper_ofNat_of_lt (Nat.lt_of_lt_of_le (capital_lt_target r hr) hn)
  · rw [← Char.ofNat_toNat d]
    exact isUpper_ofNat_of_lt (by omega)

theorem isUpper_of_mem_lowerAfter {s : List Char} (before : List Char) :
    ∀ c ∈ lowerAfter before s, c.isUpper = false := by
  induction s generalizing before with
  | nil => exact List.forall_mem_nil _
  | cons c s ih =>
    rw [lowerAfter_cons, List.forall_mem_append]
    refine ⟨fun d hd => ?_, ih (c :: before)⟩
    unfold lowerBetween at hd
    split at hd
    · rw [List.mem_singleton, smallSigma] at hd
      split at hd
      all_goals
        subst hd
        decide
    · exact isUpper_of_mem_lowerChar hd

theorem isUpper_of_mem_lower {s : List Char} : ∀ c ∈ lower s, c.isUpper = false :=
  isUpper_of_mem_lowerAfter []

/-! ## Origins -/

/-- The texts without capitals that become `w` by capitals after their hyphens. -/
def hyphenations : List Char → List (List Char)
  | [] => [[]]
  | c :: w =>
    (if c.isUpper then [] else (hyphenations w).map (c :: ·)) ++
      (if c.isLower then [] else (hyphenations w).map fun s => '-' :: c.toLower :: s)

/-- The texts without capitals that become `w` as a tag name does. -/
def origins : List Char → List (List Char)
  | [] => [[], ['-']]
  | c :: w => (hyphenations (c :: w)).map ('-' :: ·) ++
      if c.isLower then [] else (hyphenations w).map (c.toLower :: ·)

theorem mem_hyphenations_cons {c : Char} {w s : List Char} : s ∈ hyphenations (c :: w) ↔
    ∃ rest ∈ hyphenations w, c.isUpper = false ∧ s = c :: rest ∨
      c.isLower = false ∧ s = '-' :: c.toLower :: rest := by
  rw [hyphenations, List.mem_append]
  cases c.isUpper <;> cases c.isLower <;> simp [and_or_left, exists_or, eq_comm]

theorem mem_origins_cons {c : Char} {w s : List Char} : s ∈ origins (c :: w) ↔
    (∃ rest ∈ hyphenations (c :: w), s = '-' :: rest) ∨
      ∃ rest ∈ hyphenations w, c.isLower = false ∧ s = c.toLower :: rest := by
  rw [origins, List.mem_append]
  cases c.isLower <;> simp [eq_comm]

theorem ne_of_isTraceable {c d : Char} (hc : isTraceable c = true) (hd : isTraceable d = false) :
    c ≠ d := by
  rintro rfl
  exact Bool.false_ne_true (hd.symm.trans hc)

theorem isTraceable_toLower {c : Char} (h : isTraceable c = true) :
    isTraceable c.toLower = true := by
  rw [isTraceable, Bool.and_eq_true, Bool.or_eq_true, decide_eq_true_eq, decide_eq_true_eq] at h ⊢
  refine ⟨h.1.imp (fun halpha => by rwa [Char.isAlpha_toLower_eq_isAlpha]) ?_, fun hcapital => ?_⟩
  · rintro rfl
    rfl
  · have hupper := Char.isUpper_toLower_eq_false c
    simp only [List.mem_cons, List.not_mem_nil, or_false] at hcapital
    rcases hcapital with heq | heq | heq
    all_goals
      rw [heq] at hupper
      cases hupper

/-- A traceable capital is set for its lower case. -/
theorem upperChar_toLower {c : Char} (hc : isTraceable c = true) (h : c.isLower = false) :
    upperChar c.toLower = [c] := by
  rw [upperChar_of_ascii (toNat_of_isTraceable (isTraceable_toLower hc)).2,
    Char.toUpper_toLower_eq_toUpper, Char.toUpper_eq_of_not_isLower (by simp [h])]

/-- And for nothing else. -/
theorem exists_of_upperChar {x : Char} (hx : x.isUpper = false)
    (h : ∀ c ∈ upperChar x, isTraceable c = true) :
    ∃ c, upperChar x = [c] ∧ c.isLower = false ∧ x = c.toLower := by
  have hascii := upperChar_of_ascii (toNat_lt_of_upperChar h)
  refine ⟨x.toUpper, hascii, Char.isLower_toUpper_eq_false x, ?_⟩
  rw [Char.toLower_toUpper_eq_toLower, Char.toLower_eq_of_not_isUpper (by simp [hx])]

/-- The induction follows the scan. -/
theorem mem_hyphenations {s : List Char} (hs : ∀ c ∈ s, c.isUpper = false)
    (hw : ∀ c ∈ capitaliseAfterHyphens s, isTraceable c = true) :
    s ∈ hyphenations (capitaliseAfterHyphens s) := by
  induction s using capitaliseAfterHyphens.induct with
  | case1 rest ih =>
    rw [capitaliseAfterHyphens, if_pos rfl] at hw
    exact absurd rfl (ne_of_isTraceable (hw '-' List.mem_cons_self) (by decide))
  | case2 x rest hx ih =>
    rw [capitaliseAfterHyphens_hyphen hx] at hw ⊢
    obtain ⟨hfirst, hrest⟩ := List.forall_mem_append.1 hw
    obtain ⟨hlower, hlowers⟩ := List.forall_mem_cons.1 (List.forall_mem_cons.1 hs).2
    obtain ⟨c, hc, hcapital, rfl⟩ := exists_of_upperChar hlower hfirst
    rw [hc]
    exact mem_hyphenations_cons.2 ⟨rest, ih hlowers hrest, .inr ⟨hcapital, rfl⟩⟩
  | case3 x rest hpair ih =>
    have hx : x ≠ '-' := by
      rintro rfl
      cases rest with
      | nil => exact absurd rfl (ne_of_isTraceable (hw '-' List.mem_cons_self) (by decide))
      | cons d rest => exact hpair d rest rfl rfl
    rw [capitaliseAfterHyphens_of_ne hx] at hw ⊢
    obtain ⟨hlower, hs⟩ := List.forall_mem_cons.1 hs
    obtain ⟨-, hrest⟩ := List.forall_mem_cons.1 hw
    exact mem_hyphenations_cons.2 ⟨rest, ih hs hrest, .inl ⟨hlower, rfl⟩⟩
  | case4 => exact List.mem_singleton_self _

theorem capitaliseAfterHyphens_of_mem {w : List Char} (hw : ∀ c ∈ w, isTraceable c = true)
    {s : List Char} (h : s ∈ hyphenations w) : capitaliseAfterHyphens s = w := by
  induction w generalizing s with
  | nil =>
    obtain rfl := List.mem_singleton.1 h
    rfl
  | cons c w ih =>
    obtain ⟨hc, hw⟩ := List.forall_mem_cons.1 hw
    obtain ⟨rest, hrest, ⟨-, rfl⟩ | ⟨hcapital, rfl⟩⟩ := mem_hyphenations_cons.1 h
    · rw [capitaliseAfterHyphens_of_ne (ne_of_isTraceable hc (by decide)), ih hw hrest]
    · have hfeed := ne_of_isTraceable (isTraceable_toLower hc) (d := '\n') (by decide)
      rw [capitaliseAfterHyphens_hyphen hfeed, upperChar_toLower hc hcapital, ih hw hrest,
        List.singleton_append]

theorem mem_origins {s : List Char} (hs : ∀ c ∈ s, c.isUpper = false)
    (hw : ∀ c ∈ capitalise s, isTraceable c = true) : s ∈ origins (capitalise s) := by
  cases s with
  | nil => exact List.mem_cons_self
  | cons x rest =>
    obtain ⟨hlower, hlowers⟩ := List.forall_mem_cons.1 hs
    rw [capitalise] at hw ⊢
    by_cases hfeed : x = '\n'
    · subst hfeed
      rw [if_pos rfl] at hw
      exact absurd rfl (ne_of_isTraceable (hw '\n' List.mem_cons_self) (by decide))
    rw [if_neg hfeed] at hw ⊢
    by_cases hhyphen : x = '-'
    · subst hhyphen
      rw [if_pos rfl] at hw ⊢
      have hrest := mem_hyphenations hlowers hw
      cases hname : capitaliseAfterHyphens rest with
      | nil =>
        rw [hname] at hrest
        obtain rfl := List.mem_singleton.1 hrest
        exact List.mem_cons_of_mem _ List.mem_cons_self
      | cons c w => exact mem_origins_cons.2 (.inl ⟨rest, hname ▸ hrest, rfl⟩)
    · rw [if_neg hhyphen] at hw ⊢
      obtain ⟨hfirst, hrest⟩ := List.forall_mem_append.1 hw
      obtain ⟨c, hc, hcapital, rfl⟩ := exists_of_upperChar hlower hfirst
      rw [hc]
      exact mem_origins_cons.2 (.inr ⟨rest, mem_hyphenations hlowers hrest, hcapital, rfl⟩)

theorem capitalise_of_mem {w : List Char} (hw : ∀ c ∈ w, isTraceable c = true) {s : List Char}
    (h : s ∈ origins w) : capitalise s = w := by
  cases w with
  | nil =>
    rcases List.mem_cons.1 h with rfl | h
    · rfl
    · obtain rfl := List.mem_singleton.1 h
      rfl
  | cons c w =>
    rcases mem_origins_cons.1 h with ⟨rest, hrest, rfl⟩ | ⟨rest, hrest, hcapital, rfl⟩
    · rw [capitalise, if_neg (by decide), if_pos rfl, capitaliseAfterHyphens_of_mem hw hrest]
    · obtain ⟨hc, hw⟩ := List.forall_mem_cons.1 hw
      have hlower := isTraceable_toLower hc
      rw [capitalise, if_neg (ne_of_isTraceable hlower (by decide)),
        if_neg (ne_of_isTraceable hlower (by decide)), upperChar_toLower hc hcapital,
        capitaliseAfterHyphens_of_mem hw hrest, List.singleton_append]

/-- A tag name is exported under a traceable name when its lower case is an origin of it. -/
theorem exportName_eq_iff {name : String} (h : ∀ c ∈ name.toList, isTraceable c = true)
    {tag : String} : exportName tag = name ↔ lower tag.toList ∈ origins name.toList := by
  rw [exportName, exportChars]
  constructor
  · rintro rfl
    rw [String.toList_ofList] at h ⊢
    exact mem_origins isUpper_of_mem_lower h
  · intro horigin
    rw [capitalise_of_mem h horigin, String.ofList_toList]

end AmpComponents
