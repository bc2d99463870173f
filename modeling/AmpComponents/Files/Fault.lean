/-
What can go wrong with a file.

`FileFault.message` words a fault the way the system does, with its error number.
-/
namespace AmpComponents

inductive FileFault where
  | notFound
  | alreadyExists
  | notDirectory
  | isDirectory
  | nameTooLong
  | permissionDenied
  /-- A file name with a NUL in it. -/
  | nulInName
  /-- A file that should hold text and does not. -/
  | notText
  /-- Any other complaint of the system, in its words. -/
  | other (text : String)
  deriving DecidableEq, Repr

namespace FileFault

def message : FileFault → String
  | notFound => "No such file or directory (os error 2)"
  | alreadyExists => "File exists (os error 17)"
  | notDirectory => "Not a directory (os error 20)"
  | isDirectory => "Is a directory (os error 21)"
  | nameTooLong => "File name too long (os error 36)"
  | permissionDenied => "Permission denied (os error 13)"
  | nulInName => "file name contained an unexpected NUL byte"
  | notText => "stream did not contain valid UTF-8"
  | other text => text

end FileFault
end AmpComponents
