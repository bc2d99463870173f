/-
What a lookup in the cache does.

Before anything is generated the cache directory is made, with those it lies in, and the file of
the output name is read.  If it is text and no entry it is removed, and whatever comes of that, the
lookup finds nothing.  `LooksUp` says that this is all, in every steady store: there are attempts to
make directories and at most one to remove the entry, and each may fail.  A module that cannot be
generated is not stored, so then nothing else is done (`looksUp_of_generateCached`).

In a tree of files the attempts are known to change one place each.  `LookupChange` says what may
be at a place after a lookup.
-/
import AmpComponents.Proofs.Cache.Key
import AmpComponents.Proofs.Files.Changes

namespace AmpComponents

/-- The bytes are those of a text that is no entry. -/
def IsCorrupt (bytes : ByteArray) : Prop :=
  ∃ text fault, String.fromUTF8? bytes = some text ∧ CacheEntry.parse text = .error fault

namespace Cache

section Store

variable {σ : Type} [FileAccess (StateM σ)] {cache : Cache} {outputName : String} {s u : σ}

/-- The file of the name is text and no entry. -/
def HoldsCorrupt (cache : Cache) (outputName : String) (s : σ) : Prop :=
  ∃ text fault, textIn s (cache.entryPath outputName) = .ok text ∧
    CacheEntry.parse text = .error fault

/-- What the lookup of a name does, from the directory that may be missing to the entry. -/
inductive LooksUp (cache : Cache) (outputName : String) (s : σ) : σ → Prop where
  | kept {made : σ} : TriesDirectories cache.directory.LiesIn s made →
      ¬cache.HoldsCorrupt outputName made → LooksUp cache outputName s made
  | removed {made : σ} : TriesDirectories cache.directory.LiesIn s made →
      cache.HoldsCorrupt outputName made →
      LooksUp cache outputName s
        (FileAccess.removeFile (m := StateM σ) (cache.entryPath outputName) made).2

/-- A lookup puts nothing into a file. -/
theorem LooksUp.holds [FileStore σ] (h : cache.LooksUp outputName s u) {p : Path}
    {bytes : ByteArray} (hholds : FileStore.Holds u p bytes) : FileStore.Holds s p bytes := by
  cases h with
  | kept hmade _ => exact holds_of_triesDirectories hmade hholds
  | removed hmade _ =>
    exact holds_of_triesDirectories hmade (FileStore.addsNothing_removeFile _ _ p bytes hholds)

/-! ### What is found

There may be no text, or a text that is no entry, or an entry. -/

section Found

variable [SteadyStore σ] {hash : String}

theorem run_get_of_unreadable {fault : FileFault}
    (h : textIn s (cache.entryPath outputName) = .error fault) :
    cache.get (m := StateM σ) outputName hash s = (none, s) := by
  rw [get, run_bind, run_readText, h]
  rfl

theorem run_get_of_entry {text : String} {entry : CacheEntry}
    (hread : textIn s (cache.entryPath outputName) = .ok text)
    (hparse : CacheEntry.parse text = .ok entry) :
    cache.get (m := StateM σ) outputName hash s =
      (if entry.hash = hash then some entry.code else none, s) := by
  rw [get, run_bind, run_readText, hread]
  simp only [hparse]
  rfl

/-- Nothing is found in a corrupt file, and the store is left as the attempt to remove the file
leaves it. -/
theorem run_get_of_holdsCorrupt (h : cache.HoldsCorrupt outputName s) (hash : String) :
    cache.get (m := StateM σ) outputName hash s =
      (none, (FileAccess.removeFile (m := StateM σ) (cache.entryPath outputName) s).2) := by
  obtain ⟨text, fault, hread, hparse⟩ := h
  rw [get, run_bind, run_readText, hread]
  simp only [hparse]
  rfl

theorem run_get_of_not_holdsCorrupt (h : ¬cache.HoldsCorrupt outputName s) (hash : String) :
    (cache.get (m := StateM σ) outputName hash s).2 = s := by
  cases hread : textIn s (cache.entryPath outputName) with
  | error fault => rw [run_get_of_unreadable hread]
  | ok text =>
    cases hparse : CacheEntry.parse text with
    | error fault => exact absurd ⟨text, fault, hread, hparse⟩ h
    | ok entry => rw [run_get_of_entry hread hparse]

theorem looksUp_get (directory : Path) (outputName hash : String) (s : σ) :
    LooksUp ⟨directory⟩ outputName s
      (get (m := StateM σ) ⟨directory⟩ outputName hash
        (prepare (m := StateM σ) directory s).2).2 := by
  have hmade : TriesDirectories directory.LiesIn s (prepare (m := StateM σ) directory s).2 :=
    triesDirectories_makeDirectories directory s
  by_cases h : HoldsCorrupt ⟨directory⟩ outputName (prepare (m := StateM σ) directory s).2
  · rw [run_get_of_holdsCorrupt h]
    exact .removed hmade h
  · rw [run_get_of_not_holdsCorrupt h]
    exact .kept hmade h

end Found

end Store

/-! ## Places

What a lookup does to a tree of files. -/

/-- What may be at a place after a lookup. -/
inductive LookupChange (cache : Cache) (outputName : String) (t : FileTree) (place : Place) :
    Option FileNode → Prop where
  | kept : LookupChange cache outputName t place (t.node? place)
  /-- A directory of the path to the cache, where nothing was. -/
  | made {q : Path} : cache.directory.LiesIn q → place = t.place q → t.node? place = none →
      LookupChange cache outputName t place (some .directory)
  /-- Nothing, where the entry was. -/
  | removed {bytes : ByteArray} : place = t.place (cache.entryPath outputName) →
      t.node? place = some (.file bytes) → IsCorrupt bytes →
      LookupChange cache outputName t place none

theorem lookupChange_of_tries {cache : Cache} {outputName : String} {t u : FileTree}
    (h : TriesDirectories cache.directory.LiesIn t u) (place : Place) :
    LookupChange cache outputName t place (u.node? place) := by
  rcases (FileTree.addsDirectories_of_tries h).node? place with
    hsame | ⟨q, hq, hplace, hfree, hmade⟩
  · rw [hsame]
    exact .kept
  · rw [hmade]
    exact .made hq hplace hfree

theorem HoldsCorrupt.exists_readBytes {cache : Cache} {outputName : String} {t : FileTree}
    (h : cache.HoldsCorrupt outputName t) :
    ∃ bytes, t.readBytes (cache.entryPath outputName) = .ok bytes ∧ IsCorrupt bytes := by
  obtain ⟨text, fault, hread, hparse⟩ := h
  obtain ⟨bytes, hbytes, htext⟩ := textIn_eq_ok_iff.1 hread
  exact ⟨bytes, hbytes, text, fault, htext, hparse⟩

/-- A lookup in a tree, from the directory that may be missing to the entry. -/
theorem LooksUp.lookupChange {cache : Cache} {outputName : String} {t u : FileTree}
    (h : cache.LooksUp outputName t u) :
    u.current = t.current ∧ ∀ place, LookupChange cache outputName t place (u.node? place) := by
  cases h with
  | kept hmade _ =>
    exact ⟨(FileTree.addsDirectories_of_tries hmade).current, lookupChange_of_tries hmade⟩
  | @removed made hmade hcorrupt =>
    have hadds := FileTree.addsDirectories_of_tries hmade
    obtain ⟨bytes, hread, hbytes⟩ := hcorrupt.exists_readBytes
    -- only directories were made, so the file that is read was there before
    have hfile := FileTree.node?_of_readBytes hread
    have hplaces := FileTree.place_eq_of_current hadds.current (cache.entryPath outputName)
    rw [hplaces] at hfile
    rw [FileTree.run_removeFile hread, FileTree.withoutFile, hplaces]
    refine ⟨hadds.current, fun place => ?_⟩
    by_cases hplace : place = t.place (cache.entryPath outputName)
    · have hne : place ≠ [] := by
        rintro rfl
        rw [← hplace] at hfile
        cases hfile
      rw [← hplace] at hfile ⊢
      rw [FileTree.node?_erase_self made hne]
      exact .removed hplace (hadds.file hfile) hbytes
    · rw [FileTree.node?_erase_of_ne made hplace]
      exact lookupChange_of_tries hmade place

/-! ## What is found after a store -/

/-- The file of the module was written. -/
def Stores (cache : Cache) (outputName hash code : String) (t : FileTree) : Prop :=
  (FileAccess.writeText (m := StateM FileTree) (cache.entryPath outputName)
    (CacheEntry.toValue ⟨hash, code⟩).compact t).1 = .ok ()

instance (cache : Cache) (outputName hash code : String) (t : FileTree) :
    Decidable (cache.Stores outputName hash code t) :=
  inferInstanceAs (Decidable (_ = _))

section Stored

variable {cache : Cache} {outputName hash code : String} {t : FileTree}

theorem writeBytes_of_stores (h : cache.Stores outputName hash code t) :
    t.writeBytes (cache.entryPath outputName)
        (CacheEntry.toValue ⟨hash, code⟩).compact.toByteArray =
      .ok (cache.set (m := StateM FileTree) outputName hash code t).2 := by
  have hwritten : FileTree.update (·.writeBytes (cache.entryPath outputName)
      (CacheEntry.toValue ⟨hash, code⟩).compact.toByteArray) t =
        (.ok (), (cache.set (m := StateM FileTree) outputName hash code t).2) := Prod.ext h rfl
  exact FileTree.eq_ok_of_update hwritten

theorem run_get_of_stores (h : cache.Stores outputName hash code t) {name' : String}
    (hname : safeName name' = safeName outputName) (hash' : String) :
    cache.get (m := StateM FileTree) name' hash'
        (cache.set (m := StateM FileTree) outputName hash code t).2 =
      (if hash = hash' then some code else none,
        (cache.set (m := StateM FileTree) outputName hash code t).2) := by
  have hpath : cache.entryPath name' = cache.entryPath outputName := by
    rw [entryPath, entryPath, hname]
  have hread := FileTree.readBytes_of_writeBytes (writeBytes_of_stores h)
  rw [← hpath] at hread
  exact run_get_of_entry (textIn_eq_ok_iff.2 ⟨_, hread, Text.fromUTF8?_toByteArray _⟩)
    (CacheEntry.parse_compact ⟨hash, code⟩)

end Stored

/-! ## The file of the module -/

theorem length_safeName (outputName : String) :
    (safeName outputName).toList.length = outputName.toList.length := by
  simp [safeName]

theorem place_entryPath (cache : Cache) (outputName : String) (t : FileTree) :
    t.place (cache.entryPath outputName) =
      t.place cache.directory ++ [safeName outputName ++ ".json"] := by
  have hlength : (safeName outputName ++ ".json").toList.length ≥ 5 := by
    simp
  have hdot : safeName outputName ++ ".json" ≠ "." := by
    intro h
    rw [h] at hlength
    simp at hlength
  have hdots : safeName outputName ++ ".json" ≠ ".." := by
    intro h
    rw [h] at hlength
    simp at hlength
  rw [entryPath, FileTree.place, Path.child, List.foldl_append, List.foldl_cons, List.foldl_nil,
    FileTree.follow, if_neg hdot, if_neg hdots]
  rfl

end Cache

theorem length_le_of_mem_splitSlashes {piece part chars : List Char}
    (h : part ∈ splitSlashes piece chars) : part.length ≤ piece.length + chars.length := by
  induction chars generalizing piece with
  | nil =>
    obtain rfl := List.mem_singleton.1 h
    simp
  | cons c rest ih =>
    rw [splitSlashes] at h
    split at h
    · rcases List.mem_cons.1 h with rfl | hrest
      · simp
      · have hle := ih hrest
        simp only [List.length_nil, List.length_cons] at hle ⊢
        omega
    · have hle := ih h
      simp only [List.length_cons] at hle ⊢
      omega

theorem Path.length_le_of_mem_ofText {s name : String} (h : name ∈ (ofText s).parts) :
    name.toList.length ≤ s.toList.length := by
  obtain ⟨part, hpart, rfl⟩ := List.mem_map.1 h
  have hle := length_le_of_mem_splitSlashes (List.mem_filter.1 hpart).1
  simpa using hle

namespace Cache

/-- The name of an entry is longer than each name in the path of the module, so a lookup keeps
what is at the place of the module. -/
theorem LookupChange.node?_writePlace {cache : Cache} {out : String} {t : FileTree}
    {place : Place} {node : Option FileNode} (h : LookupChange cache out t place node)
    (hplace : t.writePlace (Path.ofText out) = .ok place) :
    node = t.node? place ∨ t.node? place = none ∧ node = some .directory := by
  cases h with
  | kept => exact .inl rfl
  | made _ _ hfree => exact .inr ⟨hfree, rfl⟩
  | removed hentry _ _ =>
    obtain ⟨outer, name, hname, rfl⟩ := FileTree.place_of_writePlace hplace
    rw [place_entryPath] at hentry
    have hsame : name = safeName out ++ ".json" :=
      List.singleton_inj.1 (List.append_inj_right' hentry rfl)
    have hle := Path.length_le_of_mem_ofText (List.mem_of_getLast? hname)
    rw [hsame, String.toList_append, List.length_append, length_safeName] at hle
    have hfive : ".json".toList.length = 5 := rfl
    omega

end Cache

section Generation

variable {σ : Type} [FileAccess (StateM σ)] {parser : ScriptParser} {rules : String}
  {c : Settings} {directory : Path} {outputName : String} {s u : σ}

/-- A module that is generated is stored. -/
theorem run_generateCached_of_ok {code : String}
    (hget : (Cache.get (m := StateM σ) ⟨directory⟩ outputName (cacheHash rules c)
      (Cache.prepare (m := StateM σ) directory s).2).1 = none)
    (hcode : generateText parser rules c = .ok code) :
    generateCached (m := StateM σ) parser rules c directory outputName s =
      (.ok code, (Cache.set (m := StateM σ) ⟨directory⟩ outputName (cacheHash rules c) code
        (Cache.get (m := StateM σ) ⟨directory⟩ outputName (cacheHash rules c)
          (Cache.prepare (m := StateM σ) directory s).2).2).2) := by
  have hcache : (Cache.prepare (m := StateM σ) directory s).1 = ⟨directory⟩ := rfl
  rw [generateCached, run_bind, hcache]
  simp only [run_bind, hget, hcode]
  rfl

/-- A module that cannot be generated is not. -/
theorem run_generateCached_of_error {f : Failure}
    (h : (generateCached (m := StateM σ) parser rules c directory outputName s).1 = .error f) :
    (generateCached (m := StateM σ) parser rules c directory outputName s).2 =
      (Cache.get (m := StateM σ) ⟨directory⟩ outputName (cacheHash rules c)
        (Cache.prepare (m := StateM σ) directory s).2).2 := by
  have hcache : (Cache.prepare (m := StateM σ) directory s).1 = ⟨directory⟩ := rfl
  rw [generateCached, run_bind, hcache] at h ⊢
  simp only [run_bind] at h ⊢
  cases hfound : (Cache.get (m := StateM σ) ⟨directory⟩ outputName (cacheHash rules c)
      (Cache.prepare (m := StateM σ) directory s).2).1 with
  | some code => rfl
  | none =>
    simp only [hfound] at h ⊢
    cases hanswer : generateText parser rules c with
    | error failure => rfl
    | ok code =>
      simp only [hanswer, run_bind] at h
      cases h

theorem looksUp_of_generateCached [SteadyStore σ] {f : Failure}
    (h : generateCached (m := StateM σ) parser rules c directory outputName s = (.error f, u)) :
    Cache.LooksUp ⟨directory⟩ outputName s u := by
  have hafter := run_generateCached_of_error (congrArg Prod.fst h)
  rw [h] at hafter
  have hu : u = _ := hafter
  rw [hu]
  exact Cache.looksUp_get directory outputName _ s

end Generation

end AmpComponents
