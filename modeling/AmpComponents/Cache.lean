/-
The cache of generated modules.

A module is kept in one file per output name, together with a hash of everything it depends on:
the version, the settings and the source of the rules.  It is used again only when the hash is
the same.  The file lies directly in the cache directory, whatever the output name is, because
the separators in the name are replaced.

A cache that cannot be read or written is no failure: the module is generated as it would be
without one.
-/
import AmpComponents.Files.Access
import AmpComponents.Generation
import AmpComponents.Sha256

namespace AmpComponents

open Json (Value Schema)

def version : String := "0.1.0"

/-! ## Keys -/

/-- What a module depends on, as bytes.  NUL separates the parts, and neither the version nor a
fingerprint holds one. -/
def cacheKey (rules : String) (c : Settings) : List UInt8 :=
  Text.utf8 version ++ 0 :: Text.utf8 c.fingerprint ++ 0 :: Text.utf8 rules

def cacheHash (rules : String) (c : Settings) : String := Sha256.hexDigest (cacheKey rules c)

/-! ## Entries -/

structure CacheEntry where
  hash : String
  code : String
  deriving DecidableEq, Repr

namespace CacheEntry

inductive Field where
  | hash
  | code
  deriving DecidableEq

def schema : Schema Field CacheEntry where
  title := "CacheEntry"
  fields := [.hash, .code]
  label
    | .hash => "hash"
    | .code => "code"
  Content _ := String
  read _ _ := Json.readText
  fill _ := none
  closed := false
  build get := do return ⟨← get .hash, ← get .code⟩

def toValue (e : CacheEntry) : Value := .object [("hash", .text e.hash), ("code", .text e.code)]

def parse (source : String) : Except Json.Fault CacheEntry :=
  Json.parse schema.readRecord (.ofText source)

end CacheEntry

/-! ## The directory -/

structure Cache where
  directory : Path
  deriving DecidableEq, Repr

namespace Cache

/-- The output name as a file name, in which no character separates. -/
def safeName (outputName : String) : String :=
  String.ofList (outputName.toList.map fun c => if c = '/' || c = '\\' || c = ':' then '_' else c)

def entryPath (cache : Cache) (outputName : String) : Path :=
  cache.directory.child (safeName outputName ++ ".json")

variable {m : Type → Type} [Monad m] [FileAccess m]

/-- The cache in a directory, which is made when it is missing. -/
def prepare (directory : Path) : m Cache := do
  let _ ← FileAccess.makeDirectories directory
  return ⟨directory⟩

/-- The module kept under a name with this hash.  A file that holds text and no entry is
removed. -/
def get (cache : Cache) (outputName hash : String) : m (Option String) := do
  match ← FileAccess.readText (cache.entryPath outputName) with
  | .error _ => return none
  | .ok text =>
    match CacheEntry.parse text with
    | .error _ =>
      let _ ← FileAccess.removeFile (cache.entryPath outputName)
      return none
    | .ok entry => return if entry.hash = hash then some entry.code else none

/-- Keeps a module.  A file that cannot be written leaves things as they are. -/
def set (cache : Cache) (outputName hash code : String) : m Unit := do
  let entry : CacheEntry := ⟨hash, code⟩
  let _ ← FileAccess.writeText (cache.entryPath outputName) entry.toValue.compact

end Cache

/-- The text of the module, from the cache when it has it. -/
def generateCached {m : Type → Type} [Monad m] [FileAccess m] (parser : ScriptParser)
    (rules : String) (c : Settings) (directory : Path) (outputName : String) :
    m (Except Failure String) := do
  let cache ← Cache.prepare directory
  let hash := cacheHash rules c
  match ← cache.get outputName hash with
  | some code => return .ok code
  | none =>
    match generateText parser rules c with
    | .error failure => return .error failure
    | .ok code =>
      cache.set outputName hash code
      return .ok code

end AmpComponents
