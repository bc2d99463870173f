/-
Running the command.

A run reads the settings, then the rules, generates the module or takes it from the cache, and
hands it over: to a file, whose directory is made if it is missing, or to the standard output.  Its
result is nothing but success or the failure that ended it.  Outside of the run the failure is
reported on the standard error and becomes an exit code.  What is logged on the way, warnings about
the cache for one, is left out.
-/
import AmpComponents.Cache
import AmpComponents.CommandLine.Arguments
import AmpComponents.CommandLine.Console
import AmpComponents.Loading
import AmpComponents.Text.Listing

namespace AmpComponents
namespace CommandLine

def versionText : String := "amphtml-codegen " ++ version ++ "\n"

def helpText : String :=
  renderLines
    ["Generate React components from AMP validator rules",
     "",
     "Usage: amphtml-codegen [OPTIONS] --rules <RULES>",
     "",
     "Options:",
     "  -r, --rules <RULES>            Validator rule table as JSON (`tags`, `attrs`, "
       ++ "`internedStrings`)",
     "  -o, --out <OUT>                Write the module here instead of stdout",
     "  -c, --config <CONFIG>          Generator configuration JSON",
     "      --cache-dir [<CACHE_DIR>]  Reuse output from this cache directory when inputs "
       ++ "are unchanged",
     "      --no-verify                Skip parsing the emitted module",
     "      --numbered                 Print the module with line numbers to stderr",
     "  -h, --help                     Print help",
     "  -V, --version                  Print version"]

def usageText : String :=
  renderLines
    ["Usage: amphtml-codegen [OPTIONS] --rules <RULES>",
     "",
     "For more information, try '--help'."]

/-- A failure as the user sees it. -/
def report (f : Failure) : String := "Error [" ++ f.code ++ "]: " ++ f.message ++ "\n"

/-- A step of a run, which ends it when it has a fault. -/
def faultStep {m : Type → Type} [Monad m] {α : Type} (action : m (Except FileFault α)) :
    ExceptT Failure m α :=
  ExceptT.mk do return (← action).mapError .file

/-! ## Work on files -/

namespace Request

section Files

variable {m : Type → Type} [Monad m] [FileAccess m]

/-- The settings of the run. -/
def settings (r : Request) : ExceptT Failure m Settings := do
  let c ← match r.config with
    | none => pure .default
    | some config => ExceptT.mk (Settings.load (Path.ofText config))
  return if r.noVerify then { c with verify := false } else c

/-- The name under which the cache keeps the module. -/
def outputName (r : Request) : String := r.out.getD "stdout"

/-- The text of the module. -/
def produce (parser : ScriptParser) (r : Request) : ExceptT Failure m String := do
  let c ← r.settings
  let rules ← faultStep (FileAccess.readText (Path.ofText r.rules))
  match r.cacheDir with
  | some dir => ExceptT.mk (generateCached parser rules c (Path.ofText dir) r.outputName)
  | none => ExceptT.mk (pure (generateText parser rules c))

/-- Puts the module into its file, whose directory is made if it is missing. -/
def save (path : Path) (code : String) : ExceptT Failure m Unit := do
  match path.parent? with
  | some outer => faultStep (FileAccess.makeDirectories outer)
  | none => pure ()
  faultStep (FileAccess.writeText path code)

end Files

/-! ## Runs -/

section Runs

variable (m : Type → Type) [Monad m] [FileAccess m] {n : Type → Type} [Monad n] [MonadLiftT m n]
  [Console n]

/-- Hands the module over. -/
def deliver (r : Request) (code : String) : ExceptT Failure n Unit :=
  match r.out with
  | some out => ExceptT.mk (liftM (save (m := m) (Path.ofText out) code).run)
  | none => faultStep (Console.writeOut code.toByteArray)

/-- Shows the module with line numbers, if that is asked for. -/
def showListing (r : Request) (code : String) : n Unit :=
  if r.numbered then Console.writeErr (Text.numberedListing code ++ "\n") else pure ()

/-- The run itself; `m` is where its files are. -/
def run (parser : ScriptParser) (r : Request) : ExceptT Failure n Unit := do
  let code ← ExceptT.mk (liftM (r.produce (m := m) parser).run)
  ExceptT.lift (r.showListing code)
  r.deliver m code

/-- The run with a report of its failure, and its exit code. -/
def execute (parser : ScriptParser) (r : Request) : n UInt32 := do
  match ← (r.run m parser).run with
  | .ok () => return 0
  | .error failure =>
    Console.writeErr (report failure)
    return 1

end Runs

end Request

/-- Runs the command with the given arguments. -/
def run (m : Type → Type) [Monad m] [FileAccess m] {n : Type → Type} [Monad n] [MonadLiftT m n]
    [Console n] (parser : ScriptParser) (args : List String) : n UInt32 := do
  match Command.ofArguments args with
  | .generate r => r.execute m parser
  | .help =>
    discard (Console.writeOut helpText.toByteArray)
    return 0
  | .version =>
    discard (Console.writeOut versionText.toByteArray)
    return 0
  | .misuse =>
    Console.writeErr usageText
    return 2

end CommandLine
end AmpComponents
