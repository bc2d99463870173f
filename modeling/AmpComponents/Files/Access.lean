/-
Access to files.

`FileAccess` is what the library needs of the place it runs in: five operations, each of which
does its work or reports a fault.  Everything else is built from them: reading a text, and
making a directory together with those it lies in.
-/
import AmpComponents.Files.Fault
import AmpComponents.Files.Path

namespace AmpComponents

class FileAccess (m : Type → Type) where
  readBytes : Path → m (Except FileFault ByteArray)
  /-- Makes the file or replaces what it holds. -/
  writeBytes : Path → ByteArray → m (Except FileFault Unit)
  /-- Makes one directory, in a directory that is there. -/
  makeDirectory : Path → m (Except FileFault Unit)
  isDirectory : Path → m Bool
  removeFile : Path → m (Except FileFault Unit)

namespace FileAccess

variable {m : Type → Type} [Monad m] [FileAccess m]

/-- The text a file holds. -/
def readText (p : Path) : m (Except FileFault String) := do
  match ← readBytes p with
  | .error fault => return .error fault
  | .ok bytes =>
    match String.fromUTF8? bytes with
    | some text => return .ok text
    | none => return .error .notText

def writeText (p : Path) (text : String) : m (Except FileFault Unit) :=
  writeBytes p text.toByteArray

/-- Settles an attempt to make a directory: a directory that is there already will do. -/
def settle (p : Path) (attempt : Except FileFault Unit) : m (Except FileFault Unit) := do
  match attempt with
  | .ok () => return .ok ()
  | .error fault => if ← isDirectory p then return .ok () else return .error fault

/-- Makes a directory, and the directories it lies in where they are missing. -/
def makeDirectories (p : Path) : m (Except FileFault Unit) := do
  if p.isEmpty then return .ok ()
  match ← makeDirectory p with
  | .error .notFound =>
    match h : p.parent? with
    | none => return .error .notFound
    | some outer =>
      have _shorter := Path.length_parts_of_parent? h
      match ← makeDirectories outer with
      | .error fault => return .error fault
      | .ok () => settle p (← makeDirectory p)
  | attempt => settle p attempt
termination_by p.parts.length

end FileAccess
end AmpComponents
