/-
A run hands over the module or nothing.

`isFaithful_run` says that a run results in its answer, whichever of its options are given, whatever
the parser of scripts accepts, in every steady store and with every standard output, also one that
fails.  A run that succeeds has put the module in its file or on the standard output.  A run without
a module results in what stood in the way, writes nothing, and does no more to the files than a
lookup in the cache does; in a tree of files that is said place by place.

What the command makes of the result, an exit code and a report, is `reports_execute`.
-/
import AmpComponents.Proofs.CommandLine.Steps
import AmpComponents.Proofs.Files.Guarded

namespace AmpComponents
namespace CommandLine

open FileStore (Holds)

namespace Request

/-! ## Faithful runs -/

section Faithful

variable {σ ω : Type} [FileAccess (StateM σ)] [SteadyStore σ] [Sink ω] {parser : ScriptParser}

/-- The result of a run and what it leaves are the answer of the files there were before. -/
structure IsFaithful (parser : ScriptParser) (r : Request) (before : Session σ ω)
    (result : Except Failure Unit) (after : Session σ ω) : Prop where
  /-- A run that succeeds hands the answer over. -/
  succeeds : result = .ok () →
    ∃ code, r.answer parser before.files = .ok code ∧ r.HandsOver code before after
  /-- Only a fault of its file or of the standard output can keep a module from being handed
  over. -/
  stops {code : String} : r.answer parser before.files = .ok code →
    result = .ok () ∨ ∃ fault, result = .error (.file fault)
  fails {f : Failure} : r.answer parser before.files = .error f → result = .error f
  /-- The standard output is for a module that has no file. -/
  quiet : r.out.isSome ∨ (r.answer parser before.files).isOk = false → after.out = before.out
  /-- After a failure no file holds what it did not hold before, -/
  unwritten {f : Failure} {p : Path} {bytes : ByteArray} : r.answer parser before.files = .error f →
    Holds after.files p bytes → Holds before.files p bytes
  /-- and nothing else was done than a lookup does. -/
  changes {f : Failure} : r.answer parser before.files = .error f →
    r.LeavesFiles before.files after.files

theorem isFaithful_of_failure {r : Request} {before after : Session σ ω} {f : Failure}
    (hanswer : r.answer parser before.files = .error f) (hout : after.out = before.out)
    (hfiles : r.LeavesFiles before.files after.files) :
    r.IsFaithful parser before (.error f) after := by
  constructor
  case succeeds => exact fun h => nomatch h
  case stops =>
    intro code hcode
    rw [hanswer] at hcode
    cases hcode
  case fails =>
    intro g hg
    rw [hanswer] at hg
    cases hg
    rfl
  case quiet => exact fun _ => hout
  case unwritten => exact fun _ hholds => hfiles.holds hholds
  case changes => exact fun _ => hfiles

theorem isFaithful_of_module {r : Request} {before after : Session σ ω}
    {result : Except Failure Unit} {code : String}
    (hanswer : r.answer parser before.files = .ok code)
    (hresult : (result = .ok () ∧ r.HandsOver code before after) ∨
      ∃ fault, result = .error (.file fault))
    (hout : r.out.isSome → after.out = before.out) :
    r.IsFaithful parser before result after := by
  -- what is said of failures has nothing to say here
  have hnone : ∀ {f : Failure}, r.answer parser before.files ≠ .error f := by
    intro f hf
    rw [hanswer] at hf
    cases hf
  constructor
  case succeeds =>
    intro hok
    rcases hresult with ⟨-, hhanded⟩ | ⟨fault, hfault⟩
    · exact ⟨code, hanswer, hhanded⟩
    · rw [hfault] at hok
      cases hok
  case stops => exact fun _ => hresult.imp_left And.left
  case fails => exact fun hf => absurd hf hnone
  case quiet =>
    rintro (hfile | hfailed)
    · exact hout hfile
    · rw [hanswer] at hfailed
      cases hfailed
  case unwritten => exact fun hf => absurd hf hnone
  case changes => exact fun hf => absurd hf hnone

theorem isFaithful_runOn {r : Request} {before : Session σ ω}
    (h : r.CacheIsCoherent parser before.files) :
    r.IsFaithful parser before (r.runOn parser before).1 (r.runOn parser before).2 := by
  have hanswer := answer_of_produce h
  rw [runOn_eq]
  cases hproduced : (r.produce (m := StateM σ) parser).run before.files with
  | mk produced files =>
    rw [hproduced] at hanswer
    cases produced with
    | error f => exact isFaithful_of_failure hanswer.symm rfl (leavesFiles_of_produce hproduced)
    | ok code =>
      simp only
      cases hdelivered : (r.deliver (StateM σ) code :
          ExceptT Failure (StateM (Session σ ω)) Unit).run
            { before with files := files, err := before.err ++ r.listing code } with
      | mk result after =>
        obtain ⟨hresult, hout⟩ := run_deliver_cases hdelivered
        exact isFaithful_of_module hanswer.symm hresult hout

end Faithful

/-! ## Places -/

/-- What may be at a place of a tree after a run that has no module to hand over. -/
inductive FailureChange (r : Request) (t : FileTree) (place : Place) : Option FileNode → Prop where
  | kept : FailureChange r t place (t.node? place)
  | lookup {dir rules : String} {c : Settings} {node : Option FileNode} :
      r.cacheDir = some dir → r.settingsOn t = .ok c → r.rulesOn t = .ok rules →
      Cache.LookupChange ⟨Path.ofText dir⟩ r.outputName t place node →
      FailureChange r t place node

theorem FailureChange.node?_writePlace {r : Request} {t : FileTree} {place : Place}
    {node : Option FileNode} {out : String} (h : r.FailureChange t place node)
    (hout : r.out = some out) (hplace : t.writePlace (Path.ofText out) = .ok place) :
    node = t.node? place ∨ t.node? place = none ∧ node = some .directory := by
  cases h with
  | kept => exact .inl rfl
  | lookup _ _ _ hlookup =>
    have hname : r.outputName = out := by rw [outputName, hout, Option.getD_some]
    rw [hname] at hlookup
    exact hlookup.node?_writePlace hplace

/-- A tree after a run without a module against the tree before it. -/
structure KeepsPlaces (r : Request) (t u : FileTree) : Prop where
  current : u.current = t.current
  changes (place : Place) : r.FailureChange t place (u.node? place)
  /-- The place of the module is as it was, or has become a directory. -/
  module {out : String} {place : Place} : r.out = some out →
    t.writePlace (Path.ofText out) = .ok place →
    u.node? place = t.node? place ∨ t.node? place = none ∧ u.node? place = some .directory

theorem LeavesFiles.keepsPlaces {r : Request} {t u : FileTree} (h : r.LeavesFiles t u) :
    r.KeepsPlaces t u := by
  have hplaces : u.current = t.current ∧ ∀ place, r.FailureChange t place (u.node? place) := by
    cases h with
    | kept => exact ⟨rfl, fun _ => .kept⟩
    | lookup hdir hsettings hrules hlookup =>
      obtain ⟨hcurrent, hchanges⟩ := hlookup.lookupChange
      exact ⟨hcurrent, fun place => .lookup hdir hsettings hrules (hchanges place)⟩
  exact ⟨hplaces.1, hplaces.2, fun hout => (hplaces.2 _).node?_writePlace hout⟩

/-! ## Every run -/

/-- The first part is for any store and any standard output, the second says of trees what their
places hold after a failure. -/
theorem isFaithful_run (parser : ScriptParser) (r : Request) :
    (∀ {σ ω : Type} [FileAccess (StateM σ)] [SteadyStore σ] [Sink ω] {before : Session σ ω},
      r.CacheIsCoherent parser before.files →
        r.IsFaithful parser before (r.runOn parser before).1 (r.runOn parser before).2) ∧
    ∀ {ω : Type} [Sink ω] {before : Session FileTree ω} {f : Failure},
      r.CacheIsCoherent parser before.files → r.answer parser before.files = .error f →
        r.KeepsPlaces before.files (r.runOn parser before).2.files :=
  ⟨isFaithful_runOn, fun h hanswer => ((isFaithful_runOn h).changes hanswer).keepsPlaces⟩

/-- A module for a file in a directory that is missing, with a cache that holds another one. -/
def sampleRequest : Request := ⟨"rules.json", some "gen/out.js", none, some "cache", false, true⟩

def sampleFiles : FileTree :=
  ⟨.ofList [(["rules.json"], .file emptyTable.toByteArray), (["cache"], .directory),
    (["cache", "gen_out.js.json"], .file staleEntry.toValue.compact.toByteArray)], []⟩

/-- The same files, of which none may be written. -/
def readOnlyFiles : GuardedTree where
  tree := sampleFiles
  refusal operation _ := if operation = .writeBytes then some .permissionDenied else none

theorem coherent_sampleFiles (parser : ScriptParser) (rules : String) (c : Settings) :
    Coherent parser (Path.ofText "cache") [⟨rules, c, "gen/out.js"⟩] sampleFiles := by
  refine coherent_of_staleEntry parser fun call hcall => ?_
  obtain rfl := List.mem_singleton.1 hcall
  have hplace : sampleFiles.place (Cache.entryPath ⟨Path.ofText "cache"⟩ "gen/out.js") =
      ["cache", "gen_out.js.json"] := by
    decide +kernel
  show sampleFiles.nodes.find? (sampleFiles.place
    (Cache.entryPath ⟨Path.ofText "cache"⟩ "gen/out.js")) = _
  rw [hplace]
  rfl

theorem cacheIsCoherent_sampleFiles (parser : ScriptParser) :
    sampleRequest.CacheIsCoherent parser sampleFiles := by
  intro dir c rules hdir _ _
  obtain rfl : "cache" = dir := Option.some.inj hdir
  exact coherent_sampleFiles parser rules c

theorem cacheIsCoherent_readOnlyFiles (parser : ScriptParser) :
    sampleRequest.CacheIsCoherent parser readOnlyFiles := by
  intro dir c rules hdir _ _
  obtain rfl : "cache" = dir := Option.some.inj hdir
  exact fun call hcall bytes entry hholds =>
    coherent_sampleFiles parser rules c call hcall bytes entry hholds

/-- An output that nobody reads. -/
inductive BrokenPipe where
  | broken

instance : Sink BrokenPipe where
  received _ := .empty
  write w _ := (.error (.other "Broken pipe (os error 32)"), w)
  received_of_write h := nomatch h

/-- The module for the standard output, without a cache. -/
def plainRequest : Request := ⟨"rules.json", none, none, none, false, false⟩

def sampleSession : Session FileTree ByteArray := ⟨sampleFiles, .empty, ""⟩

def readOnlySession : Session GuardedTree ByteArray := ⟨readOnlyFiles, .empty, ""⟩

def brokenSession : Session FileTree BrokenPipe := ⟨sampleFiles, .broken, ""⟩

/-- A run that succeeds, one whose file is refused, one whose output is broken, and one whose module
is not accepted. -/
theorem isFaithful_run_sampleFiles :
    ((sampleRequest.runOn acceptingParser sampleSession).1 = .ok () ∧
      sampleRequest.IsFaithful acceptingParser sampleSession
        (sampleRequest.runOn acceptingParser sampleSession).1
        (sampleRequest.runOn acceptingParser sampleSession).2) ∧
    ((sampleRequest.runOn acceptingParser readOnlySession).1 = .error (.file .permissionDenied) ∧
      sampleRequest.IsFaithful acceptingParser readOnlySession
        (sampleRequest.runOn acceptingParser readOnlySession).1
        (sampleRequest.runOn acceptingParser readOnlySession).2) ∧
    ((plainRequest.runOn acceptingParser brokenSession).1.isOk = false ∧
      plainRequest.IsFaithful acceptingParser brokenSession
        (plainRequest.runOn acceptingParser brokenSession).1
        (plainRequest.runOn acceptingParser brokenSession).2) ∧
    sampleRequest.KeepsPlaces sampleFiles
      (sampleRequest.runOn abortingParser sampleSession).2.files := by
  have hrefused : (sampleRequest.runOn acceptingParser readOnlySession).1 =
      .error (.file .permissionDenied) := by
    decide +kernel
  have haborted : sampleRequest.answer abortingParser sampleSession.files =
      .error (.unreadableScript ["parser aborted"]) := by
    decide +kernel
  refine ⟨⟨by decide +kernel, ?_⟩, ⟨hrefused, ?_⟩, ⟨by decide +kernel, ?_⟩, ?_⟩
  · exact (isFaithful_run acceptingParser sampleRequest).1 (cacheIsCoherent_sampleFiles _)
  · exact (isFaithful_run acceptingParser sampleRequest).1 (cacheIsCoherent_readOnlyFiles _)
  · exact (isFaithful_run acceptingParser plainRequest).1 fun _ _ _ hdir => nomatch hdir
  · exact (isFaithful_run abortingParser sampleRequest).2 (cacheIsCoherent_sampleFiles _) haborted

/-! ## Reports -/

section Reports

variable {σ ω : Type} [FileAccess (StateM σ)] [Sink ω]

/-- What is shown of the module of a run, if it makes one. -/
def shown (parser : ScriptParser) (r : Request) (s : σ) : String :=
  match ((r.produce (m := StateM σ) parser).run s).1 with
  | .ok code => r.listing code
  | .error _ => ""

/-- What is reported of a result. -/
def complaint : Except Failure Unit → String
  | .ok () => ""
  | .error failure => report failure

/-- The exit code tells success, and the standard error has a report of the failure behind what the
run shows there. -/
structure Reports (parser : ScriptParser) (r : Request) (before : Session σ ω) (exit : UInt32)
    (after : Session σ ω) : Prop where
  exit_eq_zero_iff : exit = 0 ↔ (r.runOn parser before).1 = .ok ()
  files : after.files = (r.runOn parser before).2.files
  out : after.out = (r.runOn parser before).2.out
  err : after.err =
    before.err ++ r.shown parser before.files ++ complaint (r.runOn parser before).1

theorem err_deliver (r : Request) (code : String) (before : Session σ ω) :
    ((r.deliver (StateM σ) code : ExceptT Failure (StateM (Session σ ω)) Unit).run before).2.err =
      before.err := by
  cases hout : r.out with
  | none => rw [run_deliver_of_no_file hout]
  | some out => rw [run_deliver_of_file hout]

theorem err_runOn (parser : ScriptParser) (r : Request) (before : Session σ ω) :
    (r.runOn parser before).2.err = before.err ++ r.shown parser before.files := by
  rw [runOn_eq, shown]
  cases (r.produce (m := StateM σ) parser).run before.files with
  | mk produced files =>
    cases produced with
    | error failure => exact String.append_empty.symm
    | ok code => exact err_deliver ..

theorem run_execute (parser : ScriptParser) (r : Request) (before : Session σ ω) :
    (r.execute (StateM σ) parser : StateM (Session σ ω) UInt32) before =
      match r.runOn parser before with
      | (.ok (), after) => (0, after)
      | (.error failure, after) => (1, { after with err := after.err ++ report failure }) := by
  have hrun : (r.run (StateM σ) parser : ExceptT Failure (StateM (Session σ ω)) Unit).run before =
      r.runOn parser before := rfl
  rw [execute, run_bind, hrun]
  cases r.runOn parser before with
  | mk result after =>
    cases result with
    | ok done => rfl
    | error failure => rfl

theorem reports_execute (parser : ScriptParser) (r : Request) (before : Session σ ω) :
    r.Reports parser before
      ((r.execute (StateM σ) parser : StateM (Session σ ω) UInt32) before).1
      ((r.execute (StateM σ) parser : StateM (Session σ ω) UInt32) before).2 := by
  have herr := err_runOn parser r before
  rw [run_execute]
  cases hrun : r.runOn parser before with
  | mk result after =>
    rw [hrun] at herr
    have hshown : after.err = before.err ++ r.shown parser before.files := herr
    cases result with
    | ok done =>
      constructor
      case exit_eq_zero_iff => simp only [hrun]
      case files => rw [hrun]
      case out => rw [hrun]
      case err => rw [hrun, complaint, String.append_empty, hshown]
    | error failure =>
      constructor
      case exit_eq_zero_iff => simp [hrun]
      case files => rw [hrun]
      case out => rw [hrun]
      case err =>
        rw [hrun, complaint]
        exact congrArg (· ++ report failure) hshown

end Reports

end Request
end CommandLine
end AmpComponents
