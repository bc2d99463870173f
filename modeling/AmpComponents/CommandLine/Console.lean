/-
Where a command writes.

Besides files, a command needs a standard output and a standard error.  `Console` is what it needs
of them.  Writing to the standard output can fail, and then a part of the text may have gone out;
what is shown on the standard error is not looked after.

A `Session` has all this as a value: its files are a state of their own, its standard output is a
`Sink`, and its standard error a text.  Work on the files is work on the session.
-/
import AmpComponents.Files.Access

namespace AmpComponents

class Console (n : Type → Type) where
  writeOut : ByteArray → n (Except FileFault Unit)
  writeErr : String → n Unit

/-- What bytes are written to.  A write that succeeds adds the bytes to what was received; one that
fails may have added anything. -/
class Sink (ω : Type) where
  received : ω → ByteArray
  write : ω → ByteArray → Except FileFault Unit × ω
  received_of_write {w u : ω} {bytes : ByteArray} :
    write w bytes = (.ok (), u) → received u = received w ++ bytes

/-- A sink that takes everything. -/
instance : Sink ByteArray where
  received := id
  write w bytes := (.ok (), w ++ bytes)
  received_of_write h := (congrArg Prod.snd h).symm

/-- Files, a standard output and a standard error. -/
structure Session (σ ω : Type) where
  files : σ
  out : ω
  err : String

namespace Session

variable {σ ω α : Type}

def onFiles (action : StateM σ α) : StateM (Session σ ω) α := fun s =>
  ((action s.files).1, { s with files := (action s.files).2 })

instance : MonadLift (StateM σ) (StateM (Session σ ω)) := ⟨onFiles⟩

instance [Sink ω] : Console (StateM (Session σ ω)) where
  writeOut bytes := fun s =>
    ((Sink.write s.out bytes).1, { s with out := (Sink.write s.out bytes).2 })
  writeErr text := fun s => ((), { s with err := s.err ++ text })

end Session
end AmpComponents
