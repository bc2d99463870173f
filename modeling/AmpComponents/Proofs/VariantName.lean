/-
A variant name is read back as a tag name and a discriminator.

The tag name stands in front as it is, so it may hold underscores, and its end may look like
digits.  The digits hold no underscore.  Hence the last underscore of a variant name is the one that
was put there (`splitLastUnderscore_eq_some_iff`), and what stands behind it are the bytes of the
discriminator:

  `splitVariantName_variantName : splitVariantName (variantName tag d) = some (tag, d)`.

So a variant name belongs to one tag name and one discriminator, and the variants of all tag names
of a table have different names (`nodup_variants_of_ofRules`), although a pass compares the names
under one tag name only.
-/
import AmpComponents.Proofs.ExportName
import AmpComponents.Proofs.Retention

namespace AmpComponents

open Text

/-! ## The last underscore -/

theorem splitLastUnderscore_append {before after : List Char} (h : '_' ∉ after) :
    splitLastUnderscore (before ++ '_' :: after) = some (before, after) := by
  have hreverse : (before ++ '_' :: after).reverse = after.reverse ++ '_' :: before.reverse := by
    simp
  have hafter : ∀ c ∈ after.reverse, decide (c ≠ '_') = true := by
    intro c hc
    refine decide_eq_true ?_
    rintro rfl
    exact h (List.mem_reverse.1 hc)
  have htake : (after.reverse ++ '_' :: before.reverse).takeWhile (· ≠ '_') = after.reverse :=
    takeWhile_append_of_ends hafter (ends_cons (by decide) _)
  have hdrop : (after.reverse ++ '_' :: before.reverse).dropWhile (· ≠ '_') =
      '_' :: before.reverse := by
    rw [List.dropWhile_append_of_pos hafter, List.dropWhile_cons_of_neg (by decide)]
  simp only [splitLastUnderscore, hreverse, htake, hdrop, List.reverse_reverse]

/-- A text is cut at the underscore behind which there is no other. -/
theorem splitLastUnderscore_eq_some_iff {s before after : List Char} :
    splitLastUnderscore s = some (before, after) ↔ s = before ++ '_' :: after ∧ '_' ∉ after := by
  refine ⟨fun h => ?_, fun ⟨hs, hafter⟩ => hs ▸ splitLastUnderscore_append hafter⟩
  have hspan : s = (s.reverse.dropWhile (· ≠ '_')).reverse ++
      (s.reverse.takeWhile (· ≠ '_')).reverse := by
    rw [← List.reverse_append, List.takeWhile_append_dropWhile, List.reverse_reverse]
  have hfree : '_' ∉ (s.reverse.takeWhile (· ≠ '_')).reverse := by
    intro hmem
    exact absurd (List.mem_takeWhile_imp (List.mem_reverse.1 hmem)) (by decide)
  simp only [splitLastUnderscore] at h
  cases hdrop : s.reverse.dropWhile (· ≠ '_') with
  | nil =>
    rw [hdrop] at h
    cases h
  | cons c front =>
    have hc : c = '_' := by
      have hhead := List.head?_dropWhile_not (· ≠ '_') s.reverse
      rw [hdrop] at hhead
      simpa using hhead
    rw [hdrop] at h hspan
    cases h
    rw [hc, List.reverse_cons, List.append_assoc, List.singleton_append] at hspan
    exact ⟨hspan, hfree⟩

/-! ## Reading a variant name -/

theorem underscore_not_mem_hex (discriminator : String) : '_' ∉ hex discriminator := fun hmem =>
  forall_mem_hex (P := (· ≠ '_')) (by decide) discriminator _ hmem rfl

theorem splitVariantName_variantName (tag discriminator : String) :
    splitVariantName (variantName tag discriminator) = some (tag, discriminator) := by
  have hcut : splitLastUnderscore (variantName tag discriminator).toList =
      some (tag.toList, hex discriminator) := by
    rw [variantName, String.toList_ofList, variantChars]
    exact splitLastUnderscore_append (underscore_not_mem_hex discriminator)
  simp only [splitVariantName, hcut, bind, Option.bind, unhex?_hex, String.ofList_toList]
  rfl

/-- A variant name tells the tag name and the discriminator. -/
theorem variantName_inj {t u d e : String} : variantName t d = variantName u e ↔ t = u ∧ d = e := by
  refine ⟨fun h => ?_, fun ⟨ht, hd⟩ => ht ▸ hd ▸ rfl⟩
  have hread := congrArg splitVariantName h
  rw [splitVariantName_variantName, splitVariantName_variantName] at hread
  exact Prod.mk.inj (Option.some.inj hread)

/-! ## The variants of a table -/

theorem variant_ofRule_eq_some_iff {all : List TagRule} {rule : TagRule} {name : String} :
    (RetainedTag.ofRule all rule).variant = some name ↔
      1 < occurrences rule.tagName all ∧
        variantName rule.tagName rule.discriminator = name := by
  unfold RetainedTag.ofRule
  split
  · next h => simp [RetainedTag.renamed, h]
  · next h => simp [RetainedTag.unchanged, h]

/-- Variants have different names, also those of different tag names. -/
theorem nodup_variants_of_ofRules {rules : List TagRule} {r : Retention}
    (h : Retention.ofRules rules = .ok r) : (r.tags.filterMap (·.variant)).Nodup := by
  have htracks := Retention.tracks_of_ofRules h
  have hapart := Retention.pairwise_tellsApart htracks (List.Sublist.refl rules)
  rw [htracks.tags, List.filterMap_map, List.Nodup, List.pairwise_filterMap]
  refine (hapart.sublist List.filter_sublist).imp_of_mem ?_
  intro a b _ hb hab name hname other hother heq
  rw [Function.comp_apply, variant_ofRule_eq_some_iff] at hname hother
  obtain ⟨htag, hdiscriminator⟩ := variantName_inj.1 ((hname.2.trans heq).trans hother.2.symm)
  exact hab (mem_allowedRules_iff.1 hb).2 htag hdiscriminator

/-! ## Both parts -/

/-- A way of naming pairs of texts that loses neither of them. -/
structure KeepsBoth (name : String → String → String) : Prop where
  inj : ∀ t u d e, name t d = name u e → t = u ∧ d = e
  /-- There is an underscore with none behind it. -/
  cut : ∀ t d, ∃ before digits, (name t d).toList = before ++ '_' :: digits ∧ '_' ∉ digits
  /-- In front of it stands the tag name, and behind it the UTF-8 of the discriminator. -/
  parts : ∀ t d before digits, (name t d).toList = before ++ '_' :: digits → '_' ∉ digits →
    String.ofList before = t ∧
      ∃ bytes, unhexBytes? digits = some bytes ∧ ofUtf8? bytes = some d
  split : ∀ t d, splitVariantName (name t d) = some (t, d)
  /-- So no two rules of a table that passes have variants of one name. -/
  retained : ∀ rules r, Retention.ofRules rules = .ok r → (r.tags.filterMap (·.variant)).Nodup

theorem keepsBoth_variantName : KeepsBoth variantName where
  inj _ _ _ _ := variantName_inj.1
  cut t d := ⟨t.toList, hex d, String.toList_ofList, underscore_not_mem_hex d⟩
  parts t d before digits hname hdigits := by
    have hcut : splitLastUnderscore (t.toList ++ '_' :: hex d) = some (t.toList, hex d) :=
      splitLastUnderscore_append (underscore_not_mem_hex d)
    rw [variantName, String.toList_ofList, variantChars] at hname
    rw [hname, splitLastUnderscore_append hdigits] at hcut
    obtain ⟨rfl, rfl⟩ := Prod.mk.inj (Option.some.inj hcut)
    exact ⟨String.ofList_toList, utf8 d, unhexBytes?_hexBytes (utf8 d), ofUtf8?_utf8 d⟩
  split := splitVariantName_variantName
  retained _ _ := nodup_variants_of_ofRules

/-- A tag name that is itself made like a variant name, and a discriminator of one letter in two
bytes. -/
theorem keepsBoth_nestedName :
    variantName "amp-ad_61" "é" = "amp-ad_61_c3a9" ∧
      variantName "amp-ad" "a" = "amp-ad_61" ∧
      (variantName "amp-ad_61" "é").toList = "amp-ad_61".toList ++ '_' :: "c3a9".toList ∧
      '_' ∉ "c3a9".toList ∧
      String.ofList "amp-ad_61".toList = "amp-ad_61" ∧
      ∃ bytes, unhexBytes? "c3a9".toList = some bytes ∧ ofUtf8? bytes = some "é" := by
  have hname : (variantName "amp-ad_61" "é").toList =
      "amp-ad_61".toList ++ '_' :: "c3a9".toList := by decide +kernel
  have hdigits : '_' ∉ "c3a9".toList := by decide +kernel
  exact ⟨by decide +kernel, by decide +kernel, hname, hdigits,
    keepsBoth_variantName.parts _ _ _ _ hname hdigits⟩

end AmpComponents
