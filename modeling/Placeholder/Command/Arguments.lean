/-
The arguments of the command line.

An option takes its value from behind an equals sign, from the rest of its cluster of letters, or
from the next argument, which then must not look like an option. Behind two minus signs everything
is the template. The first thing that is wrong, or the first request for help or the version,
settles the outcome.
-/
import Placeholder.Expansion

namespace Placeholder.Command

/-- Why arguments are refused. -/
inductive UsageFault
  | unknownOption
  | unexpectedValue
  | missingValue
  | repeated
  | badValue
  | missingTemplate
  | sectionWithoutConfig
  | quietAndVerbose
  deriving DecidableEq, Repr

def UsageFault.message : UsageFault → Text
  | unknownOption => "error: unexpected argument".toList
  | unexpectedValue => "error: unexpected value for a flag".toList
  | missingValue => "error: a value is required for an option".toList
  | repeated => "error: an argument cannot be used multiple times".toList
  | badValue => "error: invalid value for an option".toList
  | missingTemplate => "error: the template was not provided".toList
  | sectionWithoutConfig => "error: a section needs a configuration".toList
  | quietAndVerbose => "error: quiet and verbose cannot be used together".toList

/-- How secret values are shown. -/
inductive SecretMode
  | plain
  | mask
  | sha256
  deriving DecidableEq, Repr

def SecretMode.cipher : SecretMode → Secret.Cipher
  | plain => .plain
  | mask => .mask
  | sha256 => .sha256

/-- How tags are listed. -/
inductive ListFormat
  | plain
  | detailed
  | json
  deriving DecidableEq, Repr

/-- What is asked for. -/
structure Invocation where
  template : Text
  assignments : List Text := []
  values : Option Text := none
  config : Option Text := none
  narrowTo : Option Text := none
  standardTags : Bool := false
  strict : Bool := false
  keepBoolCase : Bool := false
  pattern : Option Text := none
  maxPasses : Nat := 64
  secretMode : SecretMode := .plain
  list : Option ListFormat := none
  output : Option Text := none
  deriving DecidableEq, Repr

inductive Request
  | process (i : Invocation)
  | version
  | help
  deriving DecidableEq, Repr

/-- The options that take a value. -/
inductive Valued
  | set
  | values
  | config
  | narrowTo
  | pattern
  | maxPasses
  | secretMode
  | list
  | output
  deriving DecidableEq, Repr

/-- The options that take none. -/
inductive Flag
  | standardTags
  | strict
  | keepBoolCase
  | verbose
  | quiet
  | version
  | help
  deriving DecidableEq, Repr

inductive OptionName
  | valued (o : Valued)
  | flag (f : Flag)
  deriving DecidableEq, Repr

def longNames : List (Text × OptionName) :=
  [("set".toList, .valued .set), ("values".toList, .valued .values),
   ("config".toList, .valued .config), ("section".toList, .valued .narrowTo),
   ("pattern".toList, .valued .pattern), ("max-iterations".toList, .valued .maxPasses),
   ("secret-mode".toList, .valued .secretMode), ("list".toList, .valued .list),
   ("output".toList, .valued .output), ("standard-tags".toList, .flag .standardTags),
   ("strict".toList, .flag .strict), ("no-bool-lowering".toList, .flag .keepBoolCase),
   ("verbose".toList, .flag .verbose), ("quiet".toList, .flag .quiet),
   ("version".toList, .flag .version), ("help".toList, .flag .help)]

def shortName? : Char → Option OptionName
  | 's' => some (.valued .set)
  | 'c' => some (.valued .config)
  | 'o' => some (.valued .output)
  | 'v' => some (.flag .verbose)
  | 'q' => some (.flag .quiet)
  | 'V' => some (.flag .version)
  | 'h' => some (.flag .help)
  | _ => none

/-- The arguments read so far. -/
structure Draft where
  template : Option Text := none
  assignments : List Text := []
  values : Option Text := none
  config : Option Text := none
  narrowTo : Option Text := none
  pattern : Option Text := none
  maxPasses : Option Nat := none
  secretMode : Option SecretMode := none
  list : Option ListFormat := none
  output : Option Text := none
  standardTags : Bool := false
  strict : Bool := false
  keepBoolCase : Bool := false
  verbose : Bool := false
  quiet : Bool := false
  /-- A flag that ends the reading. -/
  final : Option Request := none
  deriving DecidableEq, Repr

/-- A reading that goes on, or the fault that ends it. -/
abbrev Reading := Except UsageFault

/-- A place for a value that may be given once. -/
def once (current : Option α) (new : α) : Reading (Option α) :=
  if current.isSome then .error .repeated else .ok (some new)

/-- A flag that may be given once. -/
def onceFlag (current : Bool) : Reading Bool := if current then .error .repeated else .ok true

/-- The name of a file; it must not be empty. -/
def fileName (t : Text) : Reading Text := if t.isEmpty then .error .badValue else .ok t

def readListFormat (t : Text) : Reading ListFormat :=
  if t = "plain".toList then .ok .plain
  else if t = "detailed".toList then .ok .detailed
  else if t = "json".toList then .ok .json
  else .error .badValue

def readSecretMode (t : Text) : Reading SecretMode :=
  if t = "plain".toList then .ok .plain
  else if t = "mask".toList then .ok .mask
  else if t = "sha256".toList then .ok .sha256
  else .error .badValue

def readPasses (t : Text) : Reading Nat :=
  match Integer.readSize t with
  | .ok n => .ok n
  | .error _ => .error .badValue

namespace Draft

/-- Takes the value of an option. -/
def give (d : Draft) (o : Valued) (t : Text) : Reading Draft :=
  match o with
  | .set => .ok { d with assignments := d.assignments ++ [t] }
  | .values => do return { d with values := ← once d.values (← fileName t) }
  | .config => do return { d with config := ← once d.config (← fileName t) }
  | .narrowTo => do return { d with narrowTo := ← once d.narrowTo t }
  | .pattern => do return { d with pattern := ← once d.pattern t }
  | .maxPasses => do return { d with maxPasses := ← once d.maxPasses (← readPasses t) }
  | .secretMode => do return { d with secretMode := ← once d.secretMode (← readSecretMode t) }
  | .list => do return { d with list := ← once d.list (← readListFormat t) }
  | .output => do return { d with output := ← once d.output (← fileName t) }

/-- An option that got no value: only a list can do without. -/
def giveNothing (d : Draft) (o : Valued) : Reading Draft :=
  match o with
  | .list => do return { d with list := ← once d.list .plain }
  | _ => .error .missingValue

/-- Takes care of an option that waits for its value when something else comes. -/
def settle (d : Draft) : Option Valued → Reading Draft
  | none => .ok d
  | some o => d.giveNothing o

def raise (d : Draft) : Flag → Reading Draft
  | .standardTags => do return { d with standardTags := ← onceFlag d.standardTags }
  | .strict => do return { d with strict := ← onceFlag d.strict }
  | .keepBoolCase => do return { d with keepBoolCase := ← onceFlag d.keepBoolCase }
  | .verbose => .ok { d with verbose := true }
  | .quiet => do return { d with quiet := ← onceFlag d.quiet }
  | .version => .ok { d with final := some .version }
  | .help => .ok { d with final := some .help }

/-- Takes the template. -/
def place (d : Draft) (t : Text) : Reading Draft :=
  if d.template.isSome then .error .unknownOption
  else do return { d with template := some (← fileName t) }

end Draft

/-- A value behind an equals sign at the head of a text, or else the whole text. -/
def attached : Text → Text
  | '=' :: t => t
  | t => t

/-- Reads a cluster of letters; the second result is an option that waits for its value. -/
def readCluster : Text → Draft → Reading (Draft × Option Valued)
  | [], d => .ok (d, none)
  | c :: rest, d =>
    match shortName? c with
    | none => .error .unknownOption
    | some (.flag f) => do
      let d ← d.raise f
      if d.final.isSome then return (d, none) else readCluster rest d
    | some (.valued o) =>
      if rest.isEmpty then .ok (d, some o)
      else do return (← d.give o (attached rest), none)

/-- Reads an option with a long name, without its minus signs. -/
def readLong (t : Text) (d : Draft) : Reading (Draft × Option Valued) :=
  let (name, value) := match Text.splitAtFirst? '=' t with
    | some (name, value) => (name, some value)
    | none => (t, none)
  match longNames.lookup name, value with
  | none, _ => .error .unknownOption
  | some (.flag f), none => do return (← d.raise f, none)
  | some (.flag _), some _ => .error .unexpectedValue
  | some (.valued o), some v => do return (← d.give o v, none)
  | some (.valued o), none => .ok (d, some o)

/-- Reads arguments behind two minus signs. -/
def readTrailing : List Text → Draft → Reading Draft
  | [], d => .ok d
  | t :: rest, d => do readTrailing rest (← d.place t)

/-- Reads arguments; `waiting` is an option that waits for its value. -/
def readFrom : List Text → (waiting : Option Valued) → Draft → Reading Draft
  | [], waiting, d => d.settle waiting
  | t :: rest, waiting, d =>
    match t with
    | ['-', '-'] => do readTrailing rest (← d.settle waiting)
    | '-' :: '-' :: name => do
      let (d, waiting) ← readLong name (← d.settle waiting)
      if d.final.isSome then return d else readFrom rest waiting d
    | '-' :: c :: letters => do
      let (d, waiting) ← readCluster (c :: letters) (← d.settle waiting)
      if d.final.isSome then return d else readFrom rest waiting d
    | t => match waiting with
      | some o => do readFrom rest none (← d.give o t)
      | none => do readFrom rest none (← d.place t)

/-- What the arguments ask for. A configuration that is not among them may come from the
environment. -/
def request (configFromEnvironment : Option Text) (arguments : List Text) : Reading Request := do
  let d ← readFrom arguments none {}
  match d.final with
  | some r => return r
  | none =>
    let config ← match d.config, configFromEnvironment with
      | some c, _ => pure (some c)
      | none, some c => do pure (some (← fileName c))
      | none, none => pure none
    if d.quiet && d.verbose then throw .quietAndVerbose
    if d.narrowTo.isSome && config.isNone then throw .sectionWithoutConfig
    match d.template with
    | none => throw .missingTemplate
    | some template =>
      return .process
        { template, config
          assignments := d.assignments
          values := d.values
          narrowTo := d.narrowTo
          standardTags := d.standardTags
          strict := d.strict
          keepBoolCase := d.keepBoolCase
          pattern := d.pattern
          maxPasses := d.maxPasses.getD 64
          secretMode := d.secretMode.getD .plain
          list := d.list
          output := d.output }

end Placeholder.Command
