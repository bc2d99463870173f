/-
What a run does, step by step.

`Request.answer` is the module that the files there were before a run make, or the first thing
in its way: the settings, then the rules, then the generation.  A run that uses no cache, or one
that is coherent with it, makes just this (`answer_of_produce`), and one that makes no module does
no more to the files than a lookup in the cache does (`leavesFiles_of_produce`).  A module is then
handed over, or a fault keeps it from that (`run_deliver_cases`).  `runOn_eq` is the whole run.

A cache can answer for another source only by an entry that has the hash of this one and not its
module.  `CacheIsCoherent` excludes that, and it asks nothing when there is no cache, or when
the settings or the rules cannot be read.
-/
import AmpComponents.CommandLine.Run
import AmpComponents.Proofs.Cache.Transparency

namespace AmpComponents
namespace CommandLine

open FileStore (Holds)

/-! ## What a run answers -/

namespace Request

section Answer

variable {σ : Type} [FileAccess (StateM σ)] (parser : ScriptParser) (r : Request) (s : σ)

/-- What the configuration file holds, or the default without one. -/
def configOn : Except Failure Settings :=
  match r.config with
  | none => .ok .default
  | some config => do
    let text ← (textIn s (Path.ofText config)).mapError .file
    Settings.parse text

def settingsOn : Except Failure Settings := do
  let c ← r.configOn s
  return if r.noVerify then { c with verify := false } else c

def rulesOn : Except Failure String := (textIn s (Path.ofText r.rules)).mapError .file

/-- The module that is generated from the files there are, or what stands first in its way. -/
def answer : Except Failure String := do
  let c ← r.settingsOn s
  let rules ← r.rulesOn s
  generateText parser rules c

/-- An entry that the cache has for the run, with the hash of its rules and settings, holds the
module that these make. -/
def CacheIsCoherent [FileStore σ] : Prop :=
  ∀ dir c rules, r.cacheDir = some dir → r.settingsOn s = .ok c → r.rulesOn s = .ok rules →
    Coherent parser (Path.ofText dir) [⟨rules, c, r.outputName⟩] s

end Answer

end Request

/-! ## The steps of a run -/

/-- A step goes on with its value, in the state it leaves, or ends the run. -/
theorem runExcept_bind {σ α β : Type} (x : ExceptT Failure (StateM σ) α)
    (f : α → ExceptT Failure (StateM σ) β) (s : σ) :
    (x >>= f).run s =
      match x.run s with
      | (.ok a, u) => (f a).run u
      | (.error failure, u) => (.error failure, u) := by
  rw [ExceptT.run_bind, run_bind]
  cases x.run s with
  | mk result u =>
    cases result with
    | error failure => rfl
    | ok a => rfl

theorem run_faultStep {σ α : Type} (action : StateM σ (Except FileFault α)) (s : σ) :
    (faultStep action).run s = ((action s).1.mapError .file, (action s).2) := rfl

namespace Request

section Module

variable {σ : Type} [FileAccess (StateM σ)] [SteadyStore σ] {parser : ScriptParser}

theorem run_settings (r : Request) (s : σ) :
    (r.settings (m := StateM σ)).run s = (r.settingsOn s, s) := by
  unfold settings settingsOn configOn
  cases r.config with
  | none => rfl
  | some config =>
    simp only [runExcept_bind]
    have hload : (ExceptT.mk (Settings.load (Path.ofText config)) :
        ExceptT Failure (StateM σ) Settings).run s =
          ((textIn s (Path.ofText config)).mapError .file >>= Settings.parse, s) := by
      show Settings.load (m := StateM σ) (Path.ofText config) s = _
      rw [Settings.load, loadWith, run_bind, run_readText]
      cases textIn s (Path.ofText config) with
      | error fault => rfl
      | ok text => rfl
    rw [hload]
    cases (textIn s (Path.ofText config)).mapError .file >>= Settings.parse with
    | error failure => rfl
    | ok c => rfl

theorem run_readRules (r : Request) (s : σ) :
    (faultStep (FileAccess.readText (m := StateM σ) (Path.ofText r.rules))).run s =
      (r.rulesOn s, s) := by
  rw [run_faultStep, run_readText]
  rfl

/-- The settings come first, then the rules, then the module. -/
theorem run_produce (parser : ScriptParser) (r : Request) (s : σ) :
    (r.produce (m := StateM σ) parser).run s =
      match r.settingsOn s with
      | .error failure => (.error failure, s)
      | .ok c =>
        match r.rulesOn s with
        | .error failure => (.error failure, s)
        | .ok rules =>
          match r.cacheDir with
          | none => (generateText parser rules c, s)
          | some dir =>
            generateCached (m := StateM σ) parser rules c (Path.ofText dir) r.outputName s := by
  rw [produce, runExcept_bind, run_settings]
  cases r.settingsOn s with
  | error failure => rfl
  | ok c =>
    simp only
    rw [runExcept_bind, run_readRules]
    cases r.rulesOn s with
    | error failure => rfl
    | ok rules =>
      cases r.cacheDir with
      | none => rfl
      | some dir => rfl

/-- The cache changes nothing about the module. -/
theorem answer_of_produce {r : Request} {s : σ} (h : r.CacheIsCoherent parser s) :
    ((r.produce (m := StateM σ) parser).run s).1 = r.answer parser s := by
  rw [run_produce, answer]
  cases hsettings : r.settingsOn s with
  | error failure => rfl
  | ok c =>
    cases hrules : r.rulesOn s with
    | error failure => rfl
    | ok rules =>
      cases hdir : r.cacheDir with
      | none => rfl
      | some dir =>
        have hcoherent := h dir c rules hdir hsettings hrules
        refine (answer_of_run ?_ hcoherent (List.mem_singleton_self _)).1
        intro a ha b hb _
        rw [List.mem_singleton.1 ha, List.mem_singleton.1 hb]

/-- What a run that has no module to hand over does to the files: only the lookup in the cache,
for which the settings and the rules are known, does anything. -/
inductive LeavesFiles (r : Request) (s : σ) : σ → Prop where
  | kept : LeavesFiles r s s
  | lookup {dir rules : String} {c : Settings} {u : σ} :
      r.cacheDir = some dir → r.settingsOn s = .ok c → r.rulesOn s = .ok rules →
      Cache.LooksUp ⟨Path.ofText dir⟩ r.outputName s u → LeavesFiles r s u

theorem leavesFiles_of_produce {r : Request} {s u : σ} {f : Failure}
    (h : (r.produce (m := StateM σ) parser).run s = (.error f, u)) : r.LeavesFiles s u := by
  rw [run_produce] at h
  cases hsettings : r.settingsOn s with
  | error failure =>
    rw [hsettings] at h
    cases h
    exact .kept
  | ok c =>
    cases hrules : r.rulesOn s with
    | error failure =>
      rw [hsettings, hrules] at h
      cases h
      exact .kept
    | ok rules =>
      cases hdir : r.cacheDir with
      | none =>
        simp only [hsettings, hrules, hdir] at h
        obtain rfl : s = u := congrArg Prod.snd h
        exact .kept
      | some dir =>
        simp only [hsettings, hrules, hdir] at h
        exact .lookup hdir hsettings hrules (looksUp_of_generateCached h)

/-- No file holds anything that it did not hold before. -/
theorem LeavesFiles.holds {r : Request} {s u : σ} (h : r.LeavesFiles s u) {p : Path}
    {bytes : ByteArray} (hholds : Holds u p bytes) : Holds s p bytes := by
  cases h with
  | kept => exact hholds
  | lookup _ _ _ hlookup => exact hlookup.holds hholds

end Module

/-! ## Handing over -/

section Deliver

variable {σ ω : Type} [FileAccess (StateM σ)] [Sink ω]

theorem run_deliver_of_file {r : Request} {out : String} (hout : r.out = some out) (code : String)
    (before : Session σ ω) :
    (r.deliver (StateM σ) code : ExceptT Failure (StateM (Session σ ω)) Unit).run before =
      (((save (m := StateM σ) (Path.ofText out) code).run before.files).1,
        { before with
          files := ((save (m := StateM σ) (Path.ofText out) code).run before.files).2 }) := by
  unfold deliver
  rw [hout]
  rfl

theorem run_deliver_of_no_file {r : Request} (hout : r.out = none) (code : String)
    (before : Session σ ω) :
    (r.deliver (StateM σ) code : ExceptT Failure (StateM (Session σ ω)) Unit).run before =
      ((Sink.write before.out code.toByteArray).1.mapError .file,
        { before with out := (Sink.write before.out code.toByteArray).2 }) := by
  unfold deliver
  rw [hout]
  rfl

end Deliver

section Delivery

variable {σ ω : Type} [FileAccess (StateM σ)] [SteadyStore σ] [Sink ω]

/-- The module is where the request wants it, and nowhere else. -/
def HandsOver (r : Request) (code : String) (before after : Session σ ω) : Prop :=
  match r.out with
  | none => Sink.received after.out = Sink.received before.out ++ code.toByteArray
  | some out => after.out = before.out ∧
      ∀ bytes, Holds after.files (Path.ofText out) bytes ↔ bytes = code.toByteArray

/-- The file holds the module, or a fault ends the run. -/
theorem run_writeStep_cases {p : Path} {code : String} {s u : σ} {result : Except Failure Unit}
    (h : (faultStep (FileAccess.writeText (m := StateM σ) p code)).run s = (result, u)) :
    (result = .ok () ∧ ∀ bytes, Holds u p bytes ↔ bytes = code.toByteArray) ∨
      ∃ fault, result = .error (.file fault) := by
  rw [run_faultStep] at h
  cases hwritten : FileAccess.writeText (m := StateM σ) p code s with
  | mk written next =>
    rw [hwritten] at h
    cases written with
    | error fault =>
      cases h
      exact .inr ⟨fault, rfl⟩
    | ok done =>
      cases h
      exact .inl ⟨rfl, holds_writeText_iff hwritten⟩

theorem run_save_cases {p : Path} {code : String} {s u : σ} {result : Except Failure Unit}
    (h : (save (m := StateM σ) p code).run s = (result, u)) :
    (result = .ok () ∧ ∀ bytes, Holds u p bytes ↔ bytes = code.toByteArray) ∨
      ∃ fault, result = .error (.file fault) := by
  unfold save at h
  cases hparent : p.parent? with
  | none =>
    rw [hparent] at h
    exact run_writeStep_cases h
  | some outer =>
    simp only [hparent] at h
    rw [runExcept_bind, run_faultStep] at h
    cases hmade : (FileAccess.makeDirectories (m := StateM σ) outer s).1 with
    | error fault =>
      rw [hmade] at h
      cases h
      exact .inr ⟨fault, rfl⟩
    | ok done =>
      rw [hmade] at h
      exact run_writeStep_cases h

/-- The module is handed over, or a fault ends the run; with a file for it, nothing goes to the
standard output either way. -/
theorem run_deliver_cases {r : Request} {code : String} {before after : Session σ ω}
    {result : Except Failure Unit}
    (h : (r.deliver (StateM σ) code : ExceptT Failure (StateM (Session σ ω)) Unit).run before =
      (result, after)) :
    ((result = .ok () ∧ r.HandsOver code before after) ∨ ∃ fault, result = .error (.file fault)) ∧
      (r.out.isSome → after.out = before.out) := by
  unfold HandsOver
  cases hout : r.out with
  | none =>
    rw [run_deliver_of_no_file hout] at h
    refine ⟨?_, fun hsome => nomatch hsome⟩
    cases hwrite : Sink.write before.out code.toByteArray with
    | mk written next =>
      rw [hwrite] at h
      cases written with
      | error fault =>
        cases h
        exact .inr ⟨fault, rfl⟩
      | ok done =>
        cases h
        exact .inl ⟨rfl, Sink.received_of_write hwrite⟩
  | some out =>
    rw [run_deliver_of_file hout] at h
    cases hsave : (save (m := StateM σ) (Path.ofText out) code).run before.files with
    | mk saved files =>
      rw [hsave] at h
      cases h
      refine ⟨?_, fun _ => rfl⟩
      rcases run_save_cases hsave with ⟨hok, hholds⟩ | hfault
      · exact .inl ⟨hok, rfl, hholds⟩
      · exact .inr hfault

end Delivery

/-! ## Runs -/

/-- What is shown of a module. -/
def listing (r : Request) (code : String) : String :=
  if r.numbered then Text.numberedListing code ++ "\n" else ""

theorem run_showListing {σ ω : Type} [Sink ω] (r : Request) (code : String) (before : Session σ ω) :
    (r.showListing code : StateM (Session σ ω) Unit) before =
      ((), { before with err := before.err ++ r.listing code }) := by
  unfold showListing listing
  split
  · rfl
  · rw [String.append_empty]
    rfl

section Steps

variable {σ ω : Type} [FileAccess (StateM σ)] [Sink ω]

/-- The result of a run and what it leaves. -/
abbrev runOn (parser : ScriptParser) (r : Request) (before : Session σ ω) :
    Except Failure Unit × Session σ ω :=
  (r.run (StateM σ) parser : ExceptT Failure (StateM (Session σ ω)) Unit).run before

/-- A run makes its module, and shows and delivers it if there is one. -/
theorem runOn_eq (parser : ScriptParser) (r : Request) (before : Session σ ω) :
    r.runOn parser before =
      match (r.produce (m := StateM σ) parser).run before.files with
      | (.error failure, files) => (.error failure, { before with files := files })
      | (.ok code, files) =>
        (r.deliver (StateM σ) code : ExceptT Failure (StateM (Session σ ω)) Unit).run
          { before with files := files, err := before.err ++ r.listing code } := by
  have hproduce : (ExceptT.mk (liftM (r.produce (m := StateM σ) parser).run) :
      ExceptT Failure (StateM (Session σ ω)) String).run before =
        Session.onFiles (r.produce (m := StateM σ) parser).run before := rfl
  rw [runOn, Request.run, runExcept_bind, hproduce, Session.onFiles]
  cases (r.produce (m := StateM σ) parser).run before.files with
  | mk produced files =>
    cases produced with
    | error failure => rfl
    | ok code =>
      simp only
      rw [runExcept_bind]
      have hshow : (ExceptT.lift (r.showListing code) :
          ExceptT Failure (StateM (Session σ ω)) Unit).run { before with files := files } =
            (.ok (), { before with files := files, err := before.err ++ r.listing code }) := by
        rw [ExceptT.run_lift]
        show (Except.ok <$> (r.showListing code : StateM (Session σ ω) Unit)) _ = _
        rw [map_eq_pure_bind, run_bind, run_showListing]
        rfl
      rw [hshow]

end Steps

end Request
end CommandLine
end AmpComponents
