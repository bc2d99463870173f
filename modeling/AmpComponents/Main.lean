/-
The command itself: the library run on the files and the terminal of the system.
-/
import AmpComponents.CommandLine.Run
import AmpComponents.CommandLine.Scan

namespace AmpComponents

/-- The number of a system error, whichever sign it comes with. -/
def errorNumber (code : UInt32) : Nat :=
  if code.toNat < 0x80000000 then code.toNat else 0x100000000 - code.toNat

def FileFault.ofError (e : IO.Error) : FileFault :=
  match e with
  | .noFileOrDirectory .. => .notFound
  | .alreadyExists .. => .alreadyExists
  | .permissionDenied .. => .permissionDenied
  | .inappropriateType _ code _ => if errorNumber code = 20 then .notDirectory else .isDirectory
  | .invalidArgument _ code text =>
    if errorNumber code = 36 then .nameTooLong
    else if errorNumber code = 22 then .nulInName
    else .other text
  | e => .other (toString e)

/-- An action with its complaint as a value. -/
def attempt {α : Type} (action : IO α) : IO (Except FileFault α) := do
  try
    return .ok (← action)
  catch e =>
    return .error (.ofError e)

instance : FileAccess IO where
  readBytes p := attempt (IO.FS.readBinFile p.text)
  writeBytes p bytes := attempt (IO.FS.writeBinFile p.text bytes)
  makeDirectory p := attempt (IO.FS.createDir p.text)
  isDirectory p := do
    match ← attempt (IO.FS.readBinFile (p.text ++ "/.")) with
    | .error .isDirectory => return true
    | _ => return false
  removeFile p := attempt (IO.FS.removeFile p.text)

instance : Console IO where
  writeOut bytes := attempt do
    let out ← IO.getStdout
    out.write bytes
    out.flush
  writeErr text := do (← IO.getStderr).putStr text

end AmpComponents

open AmpComponents in
def main (args : List String) : IO UInt32 :=
  CommandLine.run IO CommandLine.scanScript args
