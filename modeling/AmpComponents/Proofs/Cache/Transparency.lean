/-
The cache changes no answer.

A run is a list of calls that share a cache directory and a parser of scripts, whichever this is.
What a call answers without a cache is `CachedCall.answer`, and the run answers that at every call
(`answers_of_run`), whatever the files held before that the calls could not take for their own.

The invariant is `Coherent`: an entry in a file of the run that has the hash of a call holds the
answer of this call.  It says nothing about names, so calls may share a file.  A call takes an
entry only for its own hash, and it stores its own answer under its own hash; as hashes of the
run tell its keys apart, what is stored suits the other calls too.
-/
import AmpComponents.Proofs.Cache.Lookup
import AmpComponents.Proofs.Generation

namespace AmpComponents

open FileStore (Holds)

/-! ## Entries in files -/

/-- The entry that the bytes of a file stand for. -/
def entryOfBytes? (bytes : ByteArray) : Option CacheEntry := do
  let text ← String.fromUTF8? bytes
  (CacheEntry.parse text).toOption

theorem entryOfBytes?_compact (e : CacheEntry) :
    entryOfBytes? e.toValue.compact.toByteArray = some e := by
  rw [entryOfBytes?, Text.fromUTF8?_toByteArray]
  simp only [bind, Option.bind, CacheEntry.parse_compact]
  rfl

namespace Cache

variable {σ : Type} [FileAccess (StateM σ)] [FileStore σ] (cache : Cache)

theorem addsNothing_prepare (directory : Path) :
    AddsNothing Holds (prepare directory : StateM σ Cache) := by
  refine addsNothing_bind (addsNothing_makeDirectories directory) ?_
  intro made
  exact addsNothing_pure _

theorem addsNothing_get (outputName hash : String) :
    AddsNothing Holds (cache.get outputName hash : StateM σ (Option String)) := by
  refine addsNothing_bind (addsNothing_readText _) fun result => ?_
  cases result with
  | error fault => exact addsNothing_pure _
  | ok text =>
    simp only
    split
    · refine addsNothing_bind (FileStore.addsNothing_removeFile _) ?_
      intro removed
      exact addsNothing_pure _
    · exact addsNothing_pure _

/-- What is got for a hash is the code of an entry that a file holds. -/
theorem holds_of_get {s : σ} {outputName hash code : String}
    (h : (cache.get (m := StateM σ) outputName hash s).1 = some code) :
    ∃ bytes, Holds s (cache.entryPath outputName) bytes ∧
      entryOfBytes? bytes = some ⟨hash, code⟩ := by
  have htextIn : (FileAccess.readText (m := StateM σ) (cache.entryPath outputName) s).1 =
      textIn s (cache.entryPath outputName) := rfl
  rw [get, run_bind, htextIn] at h
  cases hread : textIn s (cache.entryPath outputName) with
  | error fault =>
    rw [hread] at h
    cases h
  | ok text =>
    obtain ⟨bytes, hholds, htext⟩ := holds_of_textIn hread
    refine ⟨bytes, hholds, ?_⟩
    rw [hread] at h
    cases hparse : CacheEntry.parse text with
    | error fault =>
      simp only [hparse] at h
      cases h
    | ok entry =>
      simp only [hparse] at h
      have hcode : (if entry.hash = hash then some entry.code else none) = some code := h
      split at hcode
      · next hhash =>
        obtain rfl := Option.some.inj hcode
        subst hhash
        simp only [entryOfBytes?, htext, bind, Option.bind, hparse]
        rfl
      · cases hcode

/-- A file holds after a store what it held before, or the entry that was stored. -/
theorem holds_of_set {s : σ} {outputName hash code : String} {p : Path} {bytes : ByteArray}
    (h : Holds (cache.set (m := StateM σ) outputName hash code s).2 p bytes) :
    Holds s p bytes ∨ entryOfBytes? bytes = some ⟨hash, code⟩ := by
  rcases FileStore.holds_of_writeBytes h with hold | hbytes
  · exact .inl hold
  · rw [hbytes]
    exact .inr (entryOfBytes?_compact ⟨hash, code⟩)

end Cache

/-! ## Runs -/

/-- One use of the cache. -/
structure CachedCall where
  rules : String
  settings : Settings
  outputName : String

namespace CachedCall

section

variable (parser : ScriptParser)

/-- What the call answers without a cache. -/
def answer (call : CachedCall) : Except Failure String :=
  generateText parser call.rules call.settings

def run {m : Type → Type} [Monad m] [FileAccess m] (directory : Path) (call : CachedCall) :
    m (Except Failure String) :=
  generateCached parser call.rules call.settings directory call.outputName

end

def key (call : CachedCall) : List UInt8 := cacheKey call.rules call.settings

def hash (call : CachedCall) : String := cacheHash call.rules call.settings

/-- The file of a call. -/
def path (directory : Path) (call : CachedCall) : Path :=
  Cache.entryPath ⟨directory⟩ call.outputName

/-- A key is the key of one answer. -/
theorem answer_eq_of_key_eq (parser : ScriptParser) {a b : CachedCall} (h : a.key = b.key) :
    a.answer parser = b.answer parser := by
  obtain ⟨hrules, hsettings⟩ := cacheKey_inj.1 h
  rw [answer, answer, hrules, hsettings]

end CachedCall

/-- An entry is the answer of every call that would take it. -/
def CacheEntry.Suits (parser : ScriptParser) (entry : CacheEntry) (calls : List CachedCall) :
    Prop :=
  ∀ call ∈ calls, entry.hash = call.hash → call.answer parser = .ok entry.code

section Runs

variable {σ : Type} [FileAccess (StateM σ)] [FileStore σ]

/-- Every entry in a file of the calls suits the calls. -/
def Coherent (parser : ScriptParser) (directory : Path) (calls : List CachedCall) (s : σ) : Prop :=
  ∀ call ∈ calls, ∀ bytes entry, Holds s (call.path directory) bytes →
    entryOfBytes? bytes = some entry → entry.Suits parser calls

variable {parser : ScriptParser} {directory : Path} {calls : List CachedCall} {s : σ}

theorem coherent_of_addsNothing {α : Type} {action : StateM σ α}
    (h : Coherent parser directory calls s) (haction : AddsNothing Holds action) : Coherent parser directory calls (action s).2 := by
  intro call hcall bytes entry hholds hentry
  have hbefore : Holds s (call.path directory) bytes := haction s _ bytes hholds
  exact h call hcall bytes entry hbefore hentry

/-- A call stores an answer that suits every call with its hash. -/
theorem coherent_set (hkeys : ∀ a ∈ calls, ∀ b ∈ calls, a.hash = b.hash → a.key = b.key)
    (h : Coherent parser directory calls s) {call : CachedCall} (hcall : call ∈ calls)
    {code : String} (hanswer : call.answer parser = .ok code) :
    Coherent parser directory calls
      (Cache.set (m := StateM σ) ⟨directory⟩ call.outputName call.hash code s).2 := by
  intro reader hreader bytes entry hholds hentry
  rcases Cache.holds_of_set _ hholds with hold | hstored
  · exact h reader hreader bytes entry hold hentry
  · obtain rfl := Option.some.inj (hstored.symm.trans hentry)
    intro other hother hhash
    rw [← CachedCall.answer_eq_of_key_eq parser (hkeys call hcall other hother hhash)]
    exact hanswer

/-- One call: the answer is the one without a cache, and the files stay coherent. -/
theorem answer_of_run (hkeys : ∀ a ∈ calls, ∀ b ∈ calls, a.hash = b.hash → a.key = b.key)
    (h : Coherent parser directory calls s) {call : CachedCall} (hcall : call ∈ calls) :
    (call.run parser (m := StateM σ) directory s).1 = call.answer parser ∧
      Coherent parser directory calls (call.run parser (m := StateM σ) directory s).2 := by
  have hprepared := coherent_of_addsNothing h (Cache.addsNothing_prepare directory)
  have hgot := coherent_of_addsNothing hprepared
    (Cache.addsNothing_get ⟨directory⟩ call.outputName call.hash)
  have hcache : (Cache.prepare (m := StateM σ) directory s).1 = ⟨directory⟩ := rfl
  have hhash : cacheHash call.rules call.settings = call.hash := rfl
  have hgenerate : generateText parser call.rules call.settings = call.answer parser := rfl
  rw [CachedCall.run, generateCached, run_bind, hcache]
  simp only [run_bind, hhash, hgenerate]
  cases hfound : (Cache.get (m := StateM σ) ⟨directory⟩ call.outputName call.hash
      (Cache.prepare (m := StateM σ) directory s).2).1 with
  | some code =>
    obtain ⟨bytes, hholds, hentry⟩ := Cache.holds_of_get _ hfound
    have hsuits := hprepared call hcall bytes _ hholds hentry
    have hanswer : call.answer parser = .ok code := hsuits call hcall rfl
    exact ⟨hanswer.symm, hgot⟩
  | none =>
    cases hanswer : call.answer parser with
    | error failure => exact ⟨rfl, hgot⟩
    | ok code => exact ⟨rfl, coherent_set hkeys hgot hcall hanswer⟩

/-- The answers of a run are the answers without a cache. -/
theorem answers_of_run (hkeys : ∀ a ∈ calls, ∀ b ∈ calls, a.hash = b.hash → a.key = b.key)
    (h : Coherent parser directory calls s) :
    (calls.mapM (CachedCall.run parser (m := StateM σ) directory) s).1 =
      calls.map (CachedCall.answer parser) := by
  suffices hpart : ∀ todo : List CachedCall, (∀ call ∈ todo, call ∈ calls) → ∀ s : σ,
      Coherent parser directory calls s →
      (todo.mapM (CachedCall.run parser (m := StateM σ) directory) s).1 =
        todo.map (CachedCall.answer parser) from
    hpart calls (fun _ hcall => hcall) s h
  intro todo
  induction todo with
  | nil => exact fun _ _ _ => rfl
  | cons call todo ih =>
    intro htodo s h
    obtain ⟨hcall, hrest⟩ := List.forall_mem_cons.1 htodo
    obtain ⟨hanswer, hcoherent⟩ := answer_of_run hkeys h hcall
    rw [List.mapM_cons, run_bind, run_bind, List.map_cons, ← ih hrest _ hcoherent, ← hanswer]
    rfl

end Runs

/-- A module that a call stored is found by every call with its hash whose name has its file. -/
theorem get_of_run {parser : ScriptParser} {directory : Path} (stored call : CachedCall)
    {t u : FileTree} {code : String}
    (hmiss : Cache.get (m := StateM FileTree) ⟨directory⟩ stored.outputName stored.hash
      (Cache.prepare (m := StateM FileTree) directory t).2 = (none, u))
    (hanswer : stored.answer parser = .ok code)
    (hstores : Cache.Stores ⟨directory⟩ stored.outputName stored.hash code u)
    (hhash : stored.hash = call.hash)
    (hname : Cache.safeName call.outputName = Cache.safeName stored.outputName) :
    (Cache.get (m := StateM FileTree) ⟨directory⟩ call.outputName call.hash
      (stored.run parser (m := StateM FileTree) directory t).2).1 = some code := by
  have hrun : (stored.run parser (m := StateM FileTree) directory t).2 =
      (Cache.set (m := StateM FileTree) ⟨directory⟩ stored.outputName stored.hash code
        (Cache.get (m := StateM FileTree) ⟨directory⟩ stored.outputName stored.hash
          (Cache.prepare (m := StateM FileTree) directory t).2).2).2 :=
    congrArg Prod.snd (run_generateCached_of_ok (congrArg Prod.fst hmiss) hanswer)
  rw [hrun, hmiss, Cache.run_get_of_stores hstores hname, if_pos hhash]

/-! ## A run over one file -/

/-- An entry that no call takes, since no hash has an odd number of digits. -/
def staleEntry : CacheEntry := ⟨"stale", ""⟩

theorem hash_ne_stale (call : CachedCall) : call.hash ≠ "stale" := by
  intro h
  have hlength := congrArg (fun s : String => s.toList.length) h
  simp only [CachedCall.hash, cacheHash, Sha256.hexDigest, String.toList_ofList,
    Text.length_hexBytes] at hlength
  have hfive : "stale".toList.length = 5 := rfl
  omega

theorem coherent_of_staleEntry (parser : ScriptParser) {directory : Path}
    {calls : List CachedCall} {t : FileTree}
    (h : ∀ call ∈ calls, t.nodes.find? (t.place (call.path directory)) =
      some (.file staleEntry.toValue.compact.toByteArray)) :
    Coherent parser directory calls t := by
  intro call hcall bytes entry hholds hentry other _ hhash
  have hnode : t.nodes.find? (t.place (call.path directory)) = some (.file bytes) := hholds
  rw [h call hcall] at hnode
  obtain rfl := FileNode.file.inj (Option.some.inj hnode)
  obtain rfl := Option.some.inj ((entryOfBytes?_compact staleEntry).symm.trans hentry)
  exact absurd hhash.symm (hash_ne_stale other)

def sampleTree : FileTree :=
  ⟨.ofList [(["cache"], .directory),
    (["cache", "a_b.json"], .file staleEntry.toValue.compact.toByteArray)], []⟩

def sampleDirectory : Path := ⟨false, ["cache"], false⟩

def emptyTable : String := "\x7b\"tags\":[],\"attrs\":[],\"internedStrings\":[]\x7d"

def imageTable : String :=
  "\x7b\"tags\":[\x7b\"tagName\":\"amp-img\",\"attrs\":[]\x7d],\"attrs\":[],"
    ++ "\"internedStrings\":[]\x7d"

def sampleSources : List String := [emptyTable, imageTable, "no table"]

/-- Five calls for one file.  The first stores its module and the second, which has another name,
takes it; the third fails; the last two each replace what is stored. -/
def sampleCalls : List CachedCall :=
  [⟨emptyTable, {}, "a/b"⟩, ⟨emptyTable, {}, "a:b"⟩, ⟨"no table", {}, "a_b"⟩,
    ⟨imageTable, {}, "a\\b"⟩, ⟨emptyTable, {}, "a_b"⟩]

theorem nodup_hashes_sampleSources : (sampleSources.map (cacheHash · {})).Nodup := by
  decide +kernel

theorem key_eq_of_hash_eq_sampleCalls : ∀ a ∈ sampleCalls, ∀ b ∈ sampleCalls,
    a.hash = b.hash → a.key = b.key := by
  have hsources : ∀ call ∈ sampleCalls, call.settings = {} ∧ call.rules ∈ sampleSources := by
    decide
  intro a ha b hb h
  obtain ⟨hsettings, hrules⟩ := hsources a ha
  obtain ⟨hsettings', hrules'⟩ := hsources b hb
  rw [CachedCall.hash, CachedCall.hash, hsettings, hsettings'] at h
  have hsame : a.rules = b.rules :=
    List.inj_on_of_nodup_map nodup_hashes_sampleSources hrules hrules' h
  rw [CachedCall.key, CachedCall.key, hsettings, hsettings', hsame]

theorem coherent_sampleTree (parser : ScriptParser) :
    Coherent parser sampleDirectory sampleCalls sampleTree := by
  refine coherent_of_staleEntry parser fun call hcall => ?_
  have hplace : ∀ call ∈ sampleCalls,
      sampleTree.place (call.path sampleDirectory) = ["cache", "a_b.json"] := by
    decide +kernel
  rw [hplace call hcall]
  rfl

theorem run_prepare_sampleTree :
    (Cache.prepare (m := StateM FileTree) sampleDirectory sampleTree).2 = sampleTree := by
  rw [Cache.prepare, run_bind, FileAccess.makeDirectories]
  rfl

theorem run_get_sampleTree (call : CachedCall) :
    Cache.get (m := StateM FileTree) ⟨sampleDirectory⟩ "a/b" call.hash
      (Cache.prepare (m := StateM FileTree) sampleDirectory sampleTree).2 =
        (none, sampleTree) := by
  have hread : textIn sampleTree (Cache.entryPath ⟨sampleDirectory⟩ "a/b") =
      .ok staleEntry.toValue.compact :=
    textIn_eq_ok_iff.2 ⟨staleEntry.toValue.compact.toByteArray, rfl,
      Text.fromUTF8?_toByteArray _⟩
  have hhash : staleEntry.hash ≠ call.hash := Ne.symm (hash_ne_stale call)
  rw [run_prepare_sampleTree,
    Cache.run_get_of_entry hread (CacheEntry.parse_compact staleEntry), if_neg hhash]

theorem stores_sampleTree (hash code : String) :
    Cache.Stores ⟨sampleDirectory⟩ "a/b" hash code sampleTree := by
  unfold Cache.Stores
  rfl

theorem isSome_generateText_emptyTable :
    (generateText acceptingParser emptyTable {}).toOption.isSome := by
  decide +kernel

/-- The second call finds what the first stores, and all answers are as without a cache. -/
theorem answers_of_run_sampleTree :
    (∃ code, generateText acceptingParser emptyTable {} = .ok code ∧
      (Cache.get (m := StateM FileTree) ⟨sampleDirectory⟩ "a:b" (cacheHash emptyTable {})
        (CachedCall.run acceptingParser (m := StateM FileTree) sampleDirectory
          ⟨emptyTable, {}, "a/b"⟩ sampleTree).2).1 = some code) ∧
      (sampleCalls.mapM (CachedCall.run acceptingParser (m := StateM FileTree) sampleDirectory)
          sampleTree).1 =
        sampleCalls.map (CachedCall.answer acceptingParser) := by
  refine ⟨?_, answers_of_run key_eq_of_hash_eq_sampleCalls (coherent_sampleTree _)⟩
  have hgenerates := isSome_generateText_emptyTable
  cases hcode : generateText acceptingParser emptyTable {} with
  | error failure =>
    rw [hcode] at hgenerates
    cases hgenerates
  | ok code =>
    have hhash : CachedCall.hash ⟨emptyTable, {}, "a/b"⟩ =
        CachedCall.hash ⟨emptyTable, {}, "a:b"⟩ := by
      rw [CachedCall.hash, CachedCall.hash]
    have hfound := get_of_run ⟨emptyTable, {}, "a/b"⟩ ⟨emptyTable, {}, "a:b"⟩
      (run_get_sampleTree _) hcode (stores_sampleTree _ code) hhash (by decide)
    exact ⟨code, rfl, hfound⟩

end AmpComponents
