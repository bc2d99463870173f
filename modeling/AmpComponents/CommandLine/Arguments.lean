/-
Arguments of the command.

An option takes its value attached, or as the next argument if that does not look like an
option.  No option and no flag may be given twice.  `--help` and `--version` end the reading
where they stand; any other fault of the arguments makes the command line a misuse.
-/
namespace AmpComponents
namespace CommandLine

/-- What a run is asked to do. -/
structure Request where
  rules : String
  out : Option String
  config : Option String
  cacheDir : Option String
  noVerify : Bool
  numbered : Bool
  deriving DecidableEq, Repr

inductive Command where
  | generate (r : Request)
  | help
  | version
  | misuse
  deriving DecidableEq, Repr

/-- Options that take a value. -/
inductive ValueOption where
  | rules
  | out
  | config
  | cacheDir
  deriving DecidableEq, Repr

inductive Flag where
  | noVerify
  | numbered
  deriving DecidableEq, Repr

def defaultCacheDir : String := ".amphtml/cache"

namespace ValueOption

def ofLong? : String → Option ValueOption
  | "rules" => some rules
  | "out" => some out
  | "config" => some config
  | "cache-dir" => some cacheDir
  | _ => none

def ofShort? : Char → Option ValueOption
  | 'r' => some rules
  | 'o' => some out
  | 'c' => some config
  | _ => none

/-- What an option means when no value follows it. -/
def bareValue? : ValueOption → Option String
  | cacheDir => some defaultCacheDir
  | _ => none

end ValueOption

def Flag.ofLong? : String → Option Flag
  | "no-verify" => some noVerify
  | "numbered" => some numbered
  | _ => none

/-! ## Gathering -/

/-- The options and flags met so far. -/
structure Draft where
  values : List (ValueOption × String)
  flags : List Flag
  deriving DecidableEq, Repr

namespace Draft

def empty : Draft := ⟨[], []⟩

def value? (d : Draft) (o : ValueOption) : Option String := d.values.lookup o

/-- An option may be given once, and its value is not empty. -/
def give (d : Draft) (o : ValueOption) (value : String) : Option Draft :=
  if value = "" ∨ (d.value? o).isSome then none
  else some { d with values := (o, value) :: d.values }

def raise (d : Draft) (f : Flag) : Option Draft :=
  if f ∈ d.flags then none else some { d with flags := f :: d.flags }

/-- Settles an option whose value did not come. -/
def settle (d : Draft) : Option ValueOption → Option Draft
  | none => some d
  | some o => do d.give o (← o.bareValue?)

/-- The rules are required. -/
def finish (d : Draft) : Command :=
  match d.value? .rules with
  | none => .misuse
  | some rules =>
    .generate {
      rules := rules
      out := d.value? .out
      config := d.value? .config
      cacheDir := d.value? .cacheDir
      noVerify := Flag.noVerify ∈ d.flags
      numbered := Flag.numbered ∈ d.flags }

end Draft

/-! ## Reading -/

/-- One argument by its form. -/
inductive Argument where
  /-- `--name` or `--name=value`. -/
  | long (name : String) (value : Option String)
  /-- `-c` and what is attached to it. -/
  | short (c : Char) (attached : List Char)
  /-- `--` alone. -/
  | separator
  | plain (text : String)
  deriving DecidableEq, Repr

def Argument.ofText (s : String) : Argument :=
  match s.toList with
  | ['-', '-'] => .separator
  | '-' :: '-' :: rest =>
    match rest.dropWhile (· ≠ '=') with
    | [] => .long (String.ofList rest) none
    | _ :: value => .long (String.ofList (rest.takeWhile (· ≠ '='))) (some (String.ofList value))
  | '-' :: c :: rest => .short c rest
  | _ => .plain s

/-- What one argument does: it ends the reading, or adds to the draft and may leave an option
that waits for its value. -/
inductive Effect where
  | stop (command : Command)
  | go (draft : Draft) (waiting : Option ValueOption)
  deriving DecidableEq, Repr

def Effect.ofDraft? : Option Draft → Effect
  | some d => .go d none
  | none => .stop .misuse

def readLong (d : Draft) (name : String) (value : Option String) : Effect :=
  match ValueOption.ofLong? name, Flag.ofLong? name, value with
  | some o, _, some value => .ofDraft? (d.give o value)
  | some o, _, none => .go d (some o)
  | none, some f, none => .ofDraft? (d.raise f)
  | none, none, none =>
    if name = "help" then .stop .help
    else if name = "version" then .stop .version
    else .stop .misuse
  | none, _, some _ => .stop .misuse

def readShort (d : Draft) (c : Char) (attached : List Char) : Effect :=
  match ValueOption.ofShort? c, attached with
  | some o, [] => .go d (some o)
  | some o, '=' :: value => .ofDraft? (d.give o (String.ofList value))
  | some o, value => .ofDraft? (d.give o (String.ofList value))
  | none, _ =>
    if c = 'h' then .stop .help
    else if c = 'V' then .stop .version
    else .stop .misuse

/-- Reads on with an option that waits for its value.  Nothing may follow the separator. -/
def readArguments : (waiting : Option ValueOption) → Draft → List String → Command
  | waiting, d, [] =>
    match d.settle waiting with
    | some d => d.finish
    | none => .misuse
  | waiting, d, arg :: rest =>
    match Argument.ofText arg, waiting with
    | .plain value, some o =>
      match d.give o value with
      | some d => readArguments none d rest
      | none => .misuse
    | .plain _, none => .misuse
    | .separator, _ =>
      match d.settle waiting with
      | some d => if rest = [] then d.finish else .misuse
      | none => .misuse
    | .long name value, _ =>
      match d.settle waiting with
      | none => .misuse
      | some d =>
        match readLong d name value with
        | .stop command => command
        | .go d waiting => readArguments waiting d rest
    | .short c attached, _ =>
      match d.settle waiting with
      | none => .misuse
      | some d =>
        match readShort d c attached with
        | .stop command => command
        | .go d waiting => readArguments waiting d rest

def Command.ofArguments (args : List String) : Command := readArguments none .empty args

end CommandLine
end AmpComponents
