/-
One run of the command line.

The run reaches files, its input and its output through `Access`, so that it can be read as a
function of them. It fails with code 2 where the arguments, the pattern, the values or an assignment
are wrong, and with code 1 where the template, the configuration, the expansion or the output fails.
Printing comes last, and a run that is refused in the middle of it breaks off.
-/
import Placeholder.Command.Listing
import Placeholder.StandardTags

namespace Placeholder.Command

/-- How a run reaches the world outside; a text that cannot be read is `none`, and saving, printing
and flushing tell whether they were done. What is printed may be held back until it is flushed. -/
structure Access (m : Type → Type) [Pure m] where
  load : Text → m (Option Text)
  input : m (Option Text)
  save : Text → Text → m Bool
  print : Text → m Bool := fun _ => pure true
  flush : m Bool := pure true
  /-- What runs the pattern of a caller. -/
  engine : Pattern.Engine := .standard

/-- What a failed run complains about. -/
inductive Complaint
  | usage (f : UsageFault)
  | fault (f : Fault)
  | printing
  deriving DecidableEq, Repr

def Complaint.text : Complaint → Text
  | usage f => line f.message
  | fault f => line ("Error: ".toList ++ f.message)
  | printing => line "failed printing to stdout".toList

/-- How a run ends. One that is done tells what it has printed. -/
inductive Ending
  | done (printed : Text)
  | failed (code : Nat) (complaint : Complaint)
  deriving DecidableEq, Repr

namespace Ending

def code : Ending → Nat
  | done _ => 0
  | failed code _ => code

def printed : Ending → Text
  | done t => t
  | failed _ _ => []

end Ending

/-- The code of a run that breaks off while it prints. A program built to abort there is ended by a
signal instead. -/
def breakCode : Nat := 101

def versionText : Text := line ("tagbuilder ".toList ++ Environment.version)

def helpText : Text :=
  ["Resolve placeholder tags in text.",
   "",
   "Usage: tagbuilder [OPTIONS] <TEMPLATE>",
   "",
   "  -s, --set <KEY=VALUE>     set a value (repeatable)",
   "      --values <FILE>       JSON object with values",
   "  -c, --config <FILE>       JSON configuration",
   "      --section <PATH>      section of the configuration",
   "      --standard-tags       include the standard tags",
   "      --strict              fail when tags remain unresolved",
   "      --no-bool-lowering    keep the case of boolean values",
   "      --pattern <REGEX>     custom pattern for tags",
   "      --max-iterations <N>  maximum number of passes",
   "      --secret-mode <MODE>  plain, mask or sha256",
   "      --list [<FORMAT>]     list tags: plain, detailed or json",
   "  -o, --output <FILE>       output file",
   "  -v, --verbose             increase verbosity",
   "  -q, --quiet               suppress all output except errors",
   "  -h, --help                print help",
   "  -V, --version             print version"].flatMap fun s => line s.toList

/-- The builder that an invocation asks for. -/
def Invocation.builder (i : Invocation) (engine : Pattern.Engine) : Outcome Builder := do
  let b ← match i.pattern with
    | some p => Builder.withPattern p engine
    | none => .ok {}
  return { b with options := ⟨!i.keepBoolCase, i.maxPasses, true⟩ }

/-- Sets the value of an assignment `key=literal`. -/
def assign (m : ValueMap) (assignment : Text) : Outcome ValueMap :=
  match Text.splitAtFirst? '=' assignment with
  | none => .error (.notAssignment assignment)
  | some (key, literal) => do return m.insert (Text.trim key) (← Literal.read literal)

/-- The values of an invocation, over those of its file of values. -/
def Invocation.assigned (i : Invocation) (environment : Environment) (fromFile : ValueMap) :
    Outcome ValueMap := do
  let m ← i.assignments.foldlM assign fromFile
  return if i.standardTags then environment.standardTagsWith m else m

section Steps

variable {m : Type → Type} [Monad m] (access : Access m)

/-- The text of a file. -/
def readText (file : Text) : m (Outcome Text) := do
  match ← access.load file with
  | some t => return .ok t
  | none => return .error .io

/-- The values of the file of values. -/
def readValues (i : Invocation) : m (Outcome ValueMap) := do
  match i.values with
  | none => return .ok .empty
  | some file => return (← readText access file).bind fun t =>
      (ValueMap.readJson t).map ValueMap.empty.merge

/-- Whether a path stands for the input: a minus sign is all that it leads along. -/
def isInput (path : Text) : Bool :=
  match Text.splitOn (· == '/') path with
  | first :: rest => first == ['-'] && rest.all fun part => part.isEmpty || part == ['.']
  | [] => false

/-- The text of the template. -/
def readTemplate (i : Invocation) : m (Outcome Text) := do
  if isInput i.template then
    match ← access.input with
    | some t => return .ok t
    | none => return .error .io
  else readText access i.template

/-- The part of a configuration that an invocation narrows to. -/
def Invocation.narrowed (i : Invocation) (s : Section) : Section :=
  match i.narrowTo with
  | some path => s.narrow path
  | none => s

/-- The configuration of an invocation. -/
def readConfig (i : Invocation) : m (Outcome Config) := do
  match i.config with
  | none => return .ok .none
  | some file => return (← readText access file).bind fun t =>
      match Json.read t with
      | .ok json => .ok (i.narrowed ⟨json⟩).lookup
      | .error f => .error (.json f)

/-- Prints the list of the tags. -/
def showList (t : Text) : m Ending := do
  if ← access.print t then return .done t else return .failed breakCode .printing

/-- Prints a text and sees to it that it goes out, or writes it to the output file. -/
def deliver (i : Invocation) (t : Text) : m Ending := do
  match i.output with
  | none =>
    if ← access.print t then
      if ← access.flush then return .done t else return .failed 1 (.fault .io)
    else return .failed breakCode .printing
  | some file =>
    if ← access.save file t then return .done [] else return .failed 1 (.fault .io)

/-- Expands the template and delivers the result. -/
def render (supply : Generator.Supply) (i : Invocation) (b : Builder) (values : ValueMap)
    (template : Text) : m Ending := do
  let text := (← readConfig access i).bind fun config =>
    b.parse ⟨values, config, i.secretMode.cipher, supply⟩ i.strict template
  match text with
  | .ok t => deliver access i t
  | .error f => return .failed 1 (.fault f)

/-- Lists the tags of the template or expands it. -/
def processTemplate (supply : Generator.Supply) (i : Invocation) (b : Builder) (values : ValueMap) :
    m Ending := do
  match ← readTemplate access i with
  | .error f => return .failed 1 (.fault f)
  | .ok template => match i.list with
    | some format => showList access (listing format (Tag.locate b.pattern template))
    | none => render access supply i b values template

/-- Carries an invocation out. -/
def process (environment : Environment) (supply : Generator.Supply) (i : Invocation) : m Ending := do
  match i.builder access.engine with
  | .error f => return .failed 2 (.fault f)
  | .ok b =>
    match (← readValues access i).bind (i.assigned environment) with
    | .error f => return .failed 2 (.fault f)
    | .ok values => processTemplate access supply i b values

/-- Prints a text that the run has nothing to do with; it is not looked whether that was done. -/
def announce (t : Text) : m Ending := do
  let _ ← access.print t
  return .done t

/-- One run with the given arguments. -/
def run (environment : Environment) (supply : Generator.Supply)
    (configFromEnvironment : Option Text) (arguments : List Text) : m Ending :=
  match request configFromEnvironment arguments with
  | .error f => return .failed 2 (.usage f)
  | .ok .version => announce access versionText
  | .ok .help => announce access helpText
  | .ok (.process i) => process access environment supply i

end Steps

end Placeholder.Command
