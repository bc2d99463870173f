/-
Settings are read back from their fingerprint, and checked.

The fingerprint of settings is a source of these settings (`read_fingerprint`), so different
settings have different fingerprints.  What `check` says is told in two ways: by what the
settings hold (`Reported`), and by what reading the fingerprint gives, since a source is
checked after it is read (`isReadBack_fingerprint`).
-/
import AmpComponents.Proofs.Json.Compact
import AmpComponents.Proofs.Json.Controls
import AmpComponents.Settings

namespace AmpComponents

open Json (Reads)

/-! ## Names of components -/

namespace Text

def IsNameLetter (c : Char) : Prop :=
  'A' ≤ c ∧ c ≤ 'Z' ∨ 'a' ≤ c ∧ c ≤ 'z' ∨ c = '_' ∨ c = '$'

def IsNameDigit (c : Char) : Prop := '0' ≤ c ∧ c ≤ '9'

/-- `[A-Za-z_$][A-Za-z0-9_$]*` -/
def IsAsciiName (s : String) : Prop :=
  ∃ c rest, s.toList = c :: rest ∧ IsNameLetter c ∧ ∀ d ∈ rest, IsNameLetter d ∨ IsNameDigit d

section Classes

variable {c : Char}

theorem isUpper_iff : c.isUpper = true ↔ 'A' ≤ c ∧ c ≤ 'Z' := decide_eq_true_iff

theorem isLower_iff : c.isLower = true ↔ 'a' ≤ c ∧ c ≤ 'z' := by
  show (decide ('a' ≤ c) && decide (c ≤ 'z')) = true ↔ _
  rw [Bool.and_eq_true, decide_eq_true_eq, decide_eq_true_eq]

theorem isDigit_iff : c.isDigit = true ↔ IsNameDigit c := by
  show (decide ('0' ≤ c) && decide (c ≤ '9')) = true ↔ _
  rw [Bool.and_eq_true, decide_eq_true_eq, decide_eq_true_eq, IsNameDigit]

theorem isAsciiIdStart_iff : isAsciiIdStart c = true ↔ IsNameLetter c := by
  show (c.isUpper || c.isLower || c == '_' || c == '$') = true ↔ _
  simp only [Bool.or_eq_true, beq_iff_eq, isUpper_iff, isLower_iff, or_assoc, IsNameLetter]

theorem isAsciiIdContinue_iff : isAsciiIdContinue c = true ↔ IsNameLetter c ∨ IsNameDigit c := by
  have hsplit : isAsciiIdContinue c = (isAsciiIdStart c || c.isDigit) := by
    show (c.isAlpha || c.isDigit || c == '_' || c == '$') =
      (c.isAlpha || c == '_' || c == '$' || c.isDigit)
    ac_rfl
  rw [hsplit, Bool.or_eq_true, isAsciiIdStart_iff, isDigit_iff]

end Classes

theorem isAsciiIdentifier_iff {s : String} : isAsciiIdentifier s = true ↔ IsAsciiName s := by
  rw [isAsciiIdentifier, IsAsciiName]
  cases s.toList with
  | nil => simp [isWord]
  | cons c rest =>
    simp [isWord, isAsciiIdStart_iff, isAsciiIdContinue_iff]

end Text

/-! ## Fingerprints -/

namespace Settings

theorem labelled_schema : schema.Labelled := by
  refine ⟨by decide, fun k => ?_⟩
  cases k <;> exact ⟨by decide, by decide +kernel⟩

/-- What a field holds, as a value. -/
def fieldValue (c : Settings) : Field → Json.Value
  | .contextModule => .text c.contextModule
  | .overridesDir => .text c.overridesDir
  | .overrides => .texts c.overrides
  | .verify => .boolean c.verify

def content (c : Settings) : (k : Field) → schema.Content k
  | .contextModule => c.contextModule
  | .overridesDir => c.overridesDir
  | .overrides => c.overrides
  | .verify => c.verify

theorem reads_field (c : Settings) (room : Nat) (k : Field) :
    Reads (schema.read (room + 1) k) (c.fieldValue k).chars (c.content k) := by
  cases k with
  | contextModule =>
    rw [fieldValue, Json.Value.chars]
    exact Json.reads_text c.contextModule
  | overridesDir =>
    rw [fieldValue, Json.Value.chars]
    exact Json.reads_text c.overridesDir
  | overrides => exact Json.reads_texts room c.overrides
  | verify => exact Json.reads_boolean c.verify

/-- The fingerprint of settings is a source of these settings. -/
theorem read_fingerprint (c : Settings) :
    Json.parse schema.readRecord (.ofText c.fingerprint) = .ok c := by
  rw [Json.Input.ofText, fingerprint, Json.Value.compact, String.toList_ofList]
  exact Json.parse_of_reads (Json.reads_record labelled_schema (c.reads_field _) rfl)

theorem fingerprint_inj {c d : Settings} : c.fingerprint = d.fingerprint ↔ c = d := by
  constructor
  · intro h
    have hread := c.read_fingerprint
    rw [h, d.read_fingerprint] at hread
    exact (Except.ok.inj hread).symm
  · intro h
    rw [h]

theorem eq_iff {c d : Settings} :
    c = d ↔ c.contextModule = d.contextModule ∧ c.overridesDir = d.overridesDir ∧
      c.overrides = d.overrides ∧ c.verify = d.verify := by
  cases c
  cases d
  simp

theorem nul_not_mem_fingerprint (c : Settings) : '\x00' ∉ c.fingerprint.toList := by
  rw [fingerprint, Json.Value.compact, String.toList_ofList]
  exact Text.not_mem_of_noControls (Json.noControls_chars _) (by decide)

/-! ## Checks -/

/-- What a check has to say of settings.  A blank context module is reported before any name, and
of the names the first that is none. -/
inductive Reported (c : Settings) : Except SettingsProblem Unit → Prop where
  | usable : (∃ ch ∈ c.contextModule.toList, Text.isBlank ch = false) →
      (∀ name ∈ c.overrides, Text.IsAsciiName name) → Reported c (.ok ())
  | blank : (∀ ch ∈ c.contextModule.toList, Text.isBlank ch = true) →
      Reported c (.error .blankContextModule)
  | badName {before after : List String} {name : String} :
      (∃ ch ∈ c.contextModule.toList, Text.isBlank ch = false) →
      c.overrides = before ++ name :: after → (∀ other ∈ before, Text.IsAsciiName other) →
      ¬Text.IsAsciiName name → Reported c (.error (.badOverrideName name))

theorem isBlankText_eq_false_iff {s : String} :
    Text.isBlankText s = false ↔ ∃ ch ∈ s.toList, Text.isBlank ch = false := by
  simp [Text.isBlankText]

theorem not_isAsciiIdentifier_iff {s : String} :
    (!Text.isAsciiIdentifier s) = true ↔ ¬Text.IsAsciiName s := by
  rw [Bool.not_eq_true', ← Text.isAsciiIdentifier_iff, Bool.not_eq_true]

theorem reported_check (c : Settings) : c.Reported c.check := by
  unfold check
  split
  · next hblank => exact .blank (Text.isBlankText_iff.1 hblank)
  · next hshown =>
    have hcontext := isBlankText_eq_false_iff.1 (Bool.eq_false_iff.2 hshown)
    split
    · next name hfind =>
      obtain ⟨hname, before, after, hsplit, hbefore⟩ := List.find?_eq_some_iff_append.1 hfind
      refine .badName hcontext hsplit (fun other hother => ?_) (not_isAsciiIdentifier_iff.1 hname)
      exact Text.isAsciiIdentifier_iff.1 (by simpa using hbefore other hother)
    · next hnone =>
      refine .usable hcontext fun name hname => ?_
      exact Text.isAsciiIdentifier_iff.1 (by simpa using List.find?_eq_none.1 hnone name hname)

theorem check_eq_of_reported {c : Settings} {report : Except SettingsProblem Unit}
    (h : c.Reported report) : c.check = report := by
  cases h with
  | usable hcontext hnames =>
    have hnone : c.overrides.find? (fun name => !Text.isAsciiIdentifier name) = none := by
      refine List.find?_eq_none.2 fun name hname => ?_
      simpa using Text.isAsciiIdentifier_iff.2 (hnames name hname)
    simp [check, isBlankText_eq_false_iff.2 hcontext, hnone]
  | blank hblank => rw [check, if_pos (Text.isBlankText_iff.2 hblank)]
  | @badName before after name hcontext hsplit hbefore hname =>
    have hfind : c.overrides.find? (fun name => !Text.isAsciiIdentifier name) = some name := by
      refine List.find?_eq_some_iff_append.2
        ⟨not_isAsciiIdentifier_iff.2 hname, before, after, hsplit, fun other hother => ?_⟩
      simpa using Text.isAsciiIdentifier_iff.2 (hbefore other hother)
    simp [check, isBlankText_eq_false_iff.2 hcontext, hfind]

theorem check_eq_iff_reported {c : Settings} {report : Except SettingsProblem Unit} :
    c.check = report ↔ c.Reported report :=
  ⟨fun h => h ▸ c.reported_check, check_eq_of_reported⟩

theorem check_eq_ok_iff {c : Settings} :
    c.check = .ok () ↔ (∃ ch ∈ c.contextModule.toList, Text.isBlank ch = false) ∧
      ∀ name ∈ c.overrides, Text.IsAsciiName name := by
  rw [check_eq_iff_reported]
  constructor
  · rintro ⟨hcontext, hnames⟩
    exact ⟨hcontext, hnames⟩
  · rintro ⟨hcontext, hnames⟩
    exact .usable hcontext hnames

/-- A fingerprint is a source whose only fault can be what the check reports. -/
theorem parse_fingerprint (c : Settings) :
    parse c.fingerprint = (c.check.map fun _ => c).mapError .settings := by
  rw [parse, c.read_fingerprint]
  simp only [Except.mapError, bind, Except.bind]
  cases c.check with
  | ok done => rfl
  | error problem => rfl

/-- Reading the fingerprint of settings is checking them. -/
structure IsReadBack (c : Settings) : Prop where
  /-- Usable settings come back. -/
  ok : parse c.fingerprint = .ok c ↔ c.check = .ok ()
  /-- Others are refused with what the check reports. -/
  error (failure : Failure) : parse c.fingerprint = .error failure ↔
    ∃ problem, c.check = .error problem ∧ failure = .settings problem
  usable : c.check = .ok () ↔ (∃ ch ∈ c.contextModule.toList, Text.isBlank ch = false) ∧
    ∀ name ∈ c.overrides, Text.IsAsciiName name
  reported (report : Except SettingsProblem Unit) : c.check = report ↔ c.Reported report

theorem isReadBack_fingerprint (c : Settings) : c.IsReadBack := by
  refine ⟨?_, fun failure => ?_, check_eq_ok_iff, fun _ => check_eq_iff_reported⟩
  · rw [c.parse_fingerprint]
    cases c.check with
    | ok done => simp [Except.map, Except.mapError]
    | error problem => simp [Except.map, Except.mapError]
  · rw [c.parse_fingerprint]
    cases c.check with
    | ok done => simp [Except.map, Except.mapError]
    | error problem => simp [Except.map, Except.mapError, eq_comm]

end Settings
end AmpComponents
