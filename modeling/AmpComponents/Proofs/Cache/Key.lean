/-
What is stored is read back, and keys tell their parts.

The compact text of a cache entry is parsed to this entry (`parse_compact`).

A key is the version, the fingerprint and the rules with NULs between them.  The fingerprint
holds no control and so no NUL, while the rules are the last part and may hold anything:
`cacheKey_inj` cuts at the first NUL behind the version.  So a key tells the rules and every
setting (`cacheKey_determines_parts`).
-/
import AmpComponents.Cache
import AmpComponents.Proofs.Settings

namespace AmpComponents

open Json (Reads)

/-! ## Entries -/

namespace CacheEntry

theorem labelled_schema : schema.Labelled := by
  refine ⟨by decide, fun k => ?_⟩
  cases k <;> exact ⟨by decide, by decide +kernel⟩

def content (e : CacheEntry) : Field → String
  | .hash => e.hash
  | .code => e.code

/-- An entry is found as it was stored. -/
theorem parse_compact (e : CacheEntry) : parse e.toValue.compact = .ok e := by
  have hread : ∀ k, Reads (schema.read 126 k) (Json.Value.text (e.content k)).chars
      (e.content k) := by
    intro k
    rw [Json.Value.chars]
    exact Json.reads_text (e.content k)
  rw [parse, Json.Input.ofText, Json.Value.compact, String.toList_ofList]
  exact Json.parse_of_reads (Json.reads_record labelled_schema hread rfl)

end CacheEntry

/-! ## Keys -/

theorem utf8_eq_flatMap (s : String) : Text.utf8 s = s.toList.flatMap String.utf8EncodeChar := by
  rw [Text.utf8, ← String.utf8Encode_toList, List.utf8Encode, List.data_toByteArray]

theorem utf8_inj {s t : String} : Text.utf8 s = Text.utf8 t ↔ s = t := by
  constructor
  · intro h
    have hread := Text.ofUtf8?_utf8 s
    rw [h, Text.ofUtf8?_utf8] at hread
    exact (Option.some.inj hread).symm
  · intro h
    rw [h]

/-- Only the NUL has a zero byte. -/
theorem zero_not_mem_utf8EncodeChar {c : Char} (h : c ≠ '\x00') :
    0 ∉ String.utf8EncodeChar c := by
  have hpos : 0 < c.val.toNat := by
    rcases Nat.eq_zero_or_pos c.val.toNat with hzero | hpos
    · have hnul : c.toNat = '\x00'.toNat := hzero
      exact absurd (Char.toNat_inj.1 hnul) h
    · exact hpos
  have hbyte : ∀ n, 0 < n → n < 256 → 0 ≠ UInt8.ofNat n := by
    intro n hn hlt heq
    have hnat := congrArg UInt8.toNat heq
    rw [UInt8.toNat_ofNat_of_lt' hlt] at hnat
    exact absurd hnat (Nat.ne_of_lt hn)
  unfold String.utf8EncodeChar
  simp only
  split
  · simp only [List.mem_singleton]
    exact hbyte _ hpos (by omega)
  split
  · simp only [List.mem_cons, List.not_mem_nil, or_false, not_or]
    exact ⟨hbyte _ (by omega) (by omega), hbyte _ (by omega) (by omega)⟩
  split
  · simp only [List.mem_cons, List.not_mem_nil, or_false, not_or]
    exact ⟨hbyte _ (by omega) (by omega), hbyte _ (by omega) (by omega),
      hbyte _ (by omega) (by omega)⟩
  · simp only [List.mem_cons, List.not_mem_nil, or_false, not_or]
    exact ⟨hbyte _ (by omega) (by omega), hbyte _ (by omega) (by omega),
      hbyte _ (by omega) (by omega), hbyte _ (by omega) (by omega)⟩

theorem zero_not_mem_utf8 {s : String} (h : '\x00' ∉ s.toList) : 0 ∉ Text.utf8 s := by
  rw [utf8_eq_flatMap, List.mem_flatMap]
  rintro ⟨c, hc, hzero⟩
  exact zero_not_mem_utf8EncodeChar (fun e => h (e ▸ hc)) hzero

/-- Two lists that are cut at their first zeros. -/
theorem append_zero_inj {x y u v : List UInt8} (hx : 0 ∉ x) (hy : 0 ∉ y)
    (h : x ++ 0 :: u = y ++ 0 :: v) : x = y ∧ u = v := by
  induction x generalizing y with
  | nil =>
    cases y with
    | nil => exact ⟨rfl, (List.cons.inj h).2⟩
    | cons b y => exact absurd ((List.cons.inj h).1 ▸ List.mem_cons_self) hy
  | cons a x ih =>
    cases y with
    | nil => exact absurd ((List.cons.inj h).1 ▸ List.mem_cons_self) hx
    | cons b y =>
      obtain ⟨hhead, htail⟩ := List.cons.inj h
      rw [List.mem_cons, not_or] at hx hy
      obtain ⟨hxy, huv⟩ := ih hx.2 hy.2 htail
      exact ⟨by rw [hhead, hxy], huv⟩

/-- Keys are the same for the same settings and the same rules only. -/
theorem cacheKey_inj {rules rules' : String} {c c' : Settings} :
    cacheKey rules c = cacheKey rules' c' ↔ rules = rules' ∧ c = c' := by
  constructor
  · intro h
    rw [cacheKey, cacheKey, List.append_assoc, List.append_assoc] at h
    have hparts := (List.cons.inj (List.append_cancel_left h)).2
    obtain ⟨hfingerprint, hrules⟩ := append_zero_inj
      (zero_not_mem_utf8 c.nul_not_mem_fingerprint) (zero_not_mem_utf8 c'.nul_not_mem_fingerprint)
      hparts
    exact ⟨utf8_inj.1 hrules, Settings.fingerprint_inj.1 (utf8_inj.1 hfingerprint)⟩
  · rintro ⟨rfl, rfl⟩
    rfl

/-- A key is cut in one way only, although the rules and every text of the settings may hold
NULs. -/
theorem cacheKey_determines_parts :
    (∀ rules rules' c c', cacheKey rules c = cacheKey rules' c' ↔
      rules = rules' ∧ c.contextModule = c'.contextModule ∧ c.overridesDir = c'.overridesDir ∧
        c.overrides = c'.overrides ∧ c.verify = c'.verify) ∧
      (∀ c : Settings, '\x00' ∉ c.fingerprint.toList ∧ 0 ∉ Text.utf8 c.fingerprint) ∧
      ∀ c d : Settings, c.fingerprint = d.fingerprint ↔ c = d := by
  refine ⟨fun rules rules' c c' => ?_, fun c => ?_, fun _ _ => Settings.fingerprint_inj⟩
  · rw [cacheKey_inj, Settings.eq_iff]
  · exact ⟨c.nul_not_mem_fingerprint, zero_not_mem_utf8 c.nul_not_mem_fingerprint⟩

end AmpComponents
