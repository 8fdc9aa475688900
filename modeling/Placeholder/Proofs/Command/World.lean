/-
A run of the command line among files and before a console. A run reaches the world outside by loading files, taking
its input, saving one file and printing one text; here these are functions of a state of the files and of what was
printed, and every use of the files and the input is noted.

A run goes through its stages in one order: the pattern, the values, the template, the configuration, the
expansion, the output. `Course` tells for each of them how a run ends there, and `run_course` is all that the
later modules know of the steps themselves.
-/
import Placeholder.Command.Run
import Placeholder.Proofs.Command.Console
import Placeholder.Proofs.Text

namespace Placeholder.Command

variable {σ : Type}

/-! ## The path of the input -/

/-- A path that leads along a minus sign and nothing else, however often it stays where it is. -/
inductive NamesInput : Text → Prop
  | minus : NamesInput ['-']
  | slash {path : Text} (h : NamesInput path) : NamesInput (path ++ ['/'])
  | here {path : Text} (h : NamesInput path) : NamesInput (path ++ ['/', '.'])

theorem NamesInput.joinWith {path : Text} (h : NamesInput path) {rest : List Text}
    (hrest : ∀ part ∈ rest, part = [] ∨ part = ['.']) : NamesInput (Text.joinWith ['/'] (path :: rest)) := by
  induction rest generalizing path with
  | nil => exact h
  | cons part rest ih =>
    obtain ⟨hpart, hrest⟩ := List.forall_mem_cons.1 hrest
    have hlonger : NamesInput (path ++ '/' :: part) := by
      rcases hpart with rfl | rfl
      · exact h.slash
      · exact h.here
    have hjoin : Text.joinWith ['/'] (path :: part :: rest) = Text.joinWith ['/'] ((path ++ '/' :: part) :: rest) := by
      cases rest <;> simp [Text.joinWith]
    rw [hjoin]
    exact ih hlonger hrest

theorem isInput_iff_parts {path : Text} : isInput path = true ↔
    ∃ rest, Text.splitOn (· == '/') path = ['-'] :: rest ∧ ∀ part ∈ rest, part = [] ∨ part = ['.'] := by
  obtain ⟨first, rest, hparts⟩ := List.exists_cons_of_ne_nil (Text.splitOn_ne_nil (· == '/') path)
  rw [isInput, hparts]
  simp only [Bool.and_eq_true, beq_iff_eq, List.all_eq_true, Bool.or_eq_true, List.isEmpty_iff]
  constructor
  · rintro ⟨rfl, hrest⟩
    exact ⟨rest, rfl, hrest⟩
  · rintro ⟨rest', heq, hrest⟩
    cases heq
    exact ⟨rfl, hrest⟩

theorem isInput_iff {path : Text} : isInput path = true ↔ NamesInput path := by
  constructor
  · intro h
    obtain ⟨rest, hparts, hrest⟩ := isInput_iff_parts.1 h
    rw [← Text.joinWith_splitOn '/' path, hparts]
    exact NamesInput.minus.joinWith hrest
  · intro h
    induction h with
    | minus => rfl
    | slash _ ih =>
      obtain ⟨rest, hparts, hrest⟩ := isInput_iff_parts.1 ih
      refine isInput_iff_parts.2 ⟨rest ++ [[]], ?_, by simpa [or_imp, forall_and] using hrest⟩
      rw [Text.splitOn_append rfl, hparts]
      rfl
    | here _ ih =>
      obtain ⟨rest, hparts, hrest⟩ := isInput_iff_parts.1 ih
      refine isInput_iff_parts.2 ⟨rest ++ [['.']], ?_, by simpa [or_imp, forall_and] using hrest⟩
      rw [Text.splitOn_append rfl, hparts]
      rfl

instance (path : Text) : Decidable (NamesInput path) := decidable_of_iff _ isInput_iff

/-! ## Files and input -/

/-- What a run does to the world outside. -/
inductive Event
  | load (file : Text)
  | takeInput
  | save (file : Text)
  deriving DecidableEq, Repr

/-- Files in a state of theirs, the input of the run, its console, and what runs the pattern of a caller. -/
structure World (σ : Type) where
  /-- The text of a file, if it can be read. -/
  load : σ → (file : Text) → Option Text
  input : Option Text
  /-- The files after a text was saved; a file that cannot be written is left alone, and so are all others. -/
  save : σ → (file text : Text) → Option σ
  console : Console := .atOnce true
  engine : Pattern.Engine := .standard

/-- The state of the files, what the run has done so far, what it has printed, and what of it is held back. -/
structure Trace (σ : Type) where
  files : σ
  events : List Event := []
  printed : Text := []
  held : Text := []
  deriving DecidableEq, Repr

/-- The trace with more events. -/
def Trace.after (s : Trace σ) (events : List Event) : Trace σ := { s with events := s.events ++ events }

@[simp] theorem Trace.after_nil (s : Trace σ) : s.after [] = s := by simp [Trace.after]

namespace World

/-- The way to the files, the input and the console that notes its uses. -/
def access (w : World σ) : Access (StateM (Trace σ)) where
  load file := fun s => (w.load s.files file, s.after [.load file])
  input := fun s => (w.input, s.after [.takeInput])
  save file t := fun s => match w.save s.files file t with
    | some files => (true, { s.after [.save file] with files })
    | none => (false, s.after [.save file])
  print t := fun s =>
    let (pieces, rest) := w.console.cut (s.held ++ t)
    let (done, printed) := w.console.write s.printed pieces
    (done, { s with printed, held := if done then rest else [] })
  flush := fun s =>
    let (done, printed) := w.console.write s.printed [s.held]
    (done, { s with printed, held := if done then [] else s.held })
  engine := w.engine

/-- Files in a table, the latest text of a file first. -/
def table (input : Option Text) (writable : Text → Bool) : World (List (Text × Text)) where
  load files file := files.lookup file
  input := input
  save files file t := if writable file then some ((file, t) :: files) else none

/-- The text of a file, or the fault that it cannot be read. -/
def text (w : World σ) (files : σ) (file : Text) : Outcome Text :=
  match w.load files file with
  | some t => .ok t
  | none => .error .io

/-- The template, from the input or from its file. -/
def template (w : World σ) (i : Invocation) (files : σ) : Outcome Text :=
  if NamesInput i.template then
    match w.input with
    | some t => .ok t
    | none => .error .io
  else w.text files i.template

/-- The values of the file of values. -/
def fileValues (w : World σ) (i : Invocation) (files : σ) : Outcome ValueMap :=
  match i.values with
  | none => .ok .empty
  | some file => (w.text files file).bind ValueMap.readJson

/-- The values with all that the invocation puts over them. -/
def values (w : World σ) (environment : Environment) (i : Invocation) (files : σ) : Outcome ValueMap :=
  ((w.fileValues i files).map ValueMap.empty.merge).bind (i.assigned environment)

/-- The configuration, narrowed to the section if one is asked for. -/
def config (w : World σ) (i : Invocation) (files : σ) : Outcome Config :=
  match i.config with
  | none => .ok .none
  | some file => (w.text files file).bind fun t =>
    match Json.read t with
    | .error f => .error (.json f)
    | .ok json => match i.narrowTo with
      | some path => .ok (Section.narrow ⟨json⟩ path).lookup
      | none => .ok (Section.lookup ⟨json⟩)

end World

/-- What is done to get the values. -/
def valueEvents (i : Invocation) : List Event := i.values.toList.map .load

/-- What is done to get the template. -/
def templateEvent (i : Invocation) : Event := if NamesInput i.template then .takeInput else .load i.template

/-- What is done to get the configuration. -/
def configEvents (i : Invocation) : List Event := i.config.toList.map .load

/-! ## The steps -/

theorem bind_eq {α β : Type} {x : StateM (Trace σ) α} {f : α → StateM (Trace σ) β} {s s' : Trace σ} {a : α}
    (h : x s = (a, s')) : (x >>= f) s = f a s' := by
  have hbind : (x >>= f) s = f (x s).1 (x s).2 := rfl
  rw [hbind, h]

section Steps

variable (w : World σ) (i : Invocation) (s : Trace σ)

theorem readText_eq (file : Text) : readText w.access file s = (w.text s.files file, s.after [.load file]) := by
  have hload : w.access.load file s = (w.load s.files file, s.after [.load file]) := rfl
  rw [readText, bind_eq hload, World.text]
  cases w.load s.files file <;> rfl

theorem readTemplate_eq : readTemplate w.access i s = (w.template i s.files, s.after [templateEvent i]) := by
  rw [readTemplate, World.template, templateEvent]
  simp only [isInput_iff]
  split
  · have hinput : w.access.input s = (w.input, s.after [.takeInput]) := rfl
    rw [bind_eq hinput]
    cases w.input <;> rfl
  · exact readText_eq w s i.template

theorem readValues_eq : readValues w.access i s =
    ((w.fileValues i s.files).map ValueMap.empty.merge, s.after (valueEvents i)) := by
  rw [readValues, World.fileValues, valueEvents]
  cases i.values with
  | none =>
    rw [Option.toList_none, List.map_nil, Trace.after_nil]
    rfl
  | some file =>
    dsimp only
    rw [bind_eq (readText_eq w s file)]
    cases w.text s.files file <;> rfl

theorem readConfig_eq : readConfig w.access i s = (w.config i s.files, s.after (configEvents i)) := by
  rw [readConfig, World.config, configEvents]
  cases i.config with
  | none =>
    rw [Option.toList_none, List.map_nil, Trace.after_nil]
    rfl
  | some file =>
    dsimp only
    rw [bind_eq (readText_eq w s file)]
    cases w.text s.files file with
    | error f => rfl
    | ok t =>
      dsimp only [Except.bind]
      cases Json.read t with
      | error f => rfl
      | ok json =>
        dsimp only
        rw [Invocation.narrowed]
        cases i.narrowTo <;> rfl

end Steps

/-! ## The stages -/

section Stages

/-- What an invocation expands: all that it takes from the world is there, and it does not list tags. -/
structure Renders (w : World σ) (environment : Environment) (supply : Generator.Supply) (i : Invocation) (files : σ)
    (b : Builder) (s : Sources) (t : Text) : Prop where
  builder : i.builder w.engine = .ok b
  values : w.values environment i files = .ok s.values
  template : w.template i files = .ok t
  noList : i.list = none
  config : w.config i files = .ok s.config
  cipher : s.cipher = i.secretMode.cipher
  supply : s.supply = supply

/-- What is done before the configuration is needed. -/
def listEvents (i : Invocation) : List Event := valueEvents i ++ [templateEvent i]

/-- What is done before the output is written. -/
def renderEvents (i : Invocation) : List Event := listEvents i ++ configEvents i

/-- How an invocation ends among files, and the files, the events and the console behind it. The constructors stand in
the order of the stages. -/
inductive Course (w : World σ) (environment : Environment) (supply : Generator.Supply) (i : Invocation) (files : σ) :
    Ending → Trace σ → Prop
  | badPattern {f : Fault} (hb : i.builder w.engine = .error f) :
    Course w environment supply i files (.failed 2 (.fault f)) { files }
  | badValues {b : Builder} {f : Fault} (hb : i.builder w.engine = .ok b)
    (hv : w.values environment i files = .error f) :
    Course w environment supply i files (.failed 2 (.fault f)) { files, events := valueEvents i }
  | noTemplate {b : Builder} {values : ValueMap} {f : Fault} (hb : i.builder w.engine = .ok b)
    (hv : w.values environment i files = .ok values) (ht : w.template i files = .error f) :
    Course w environment supply i files (.failed 1 (.fault f)) { files, events := listEvents i }
  | listBroken {b : Builder} {values : ValueMap} {t : Text} {format : ListFormat} (hb : i.builder w.engine = .ok b)
    (hv : w.values environment i files = .ok values) (ht : w.template i files = .ok t) (hl : i.list = some format)
    {r : Text} (hr : r = listing format (Tag.locate b.pattern t)) (hprint : (w.console.print r).1 = false) :
    Course w environment supply i files (.failed breakCode .printing)
      { files, events := listEvents i, printed := (w.console.print r).2 }
  | listed {b : Builder} {values : ValueMap} {t : Text} {format : ListFormat} (hb : i.builder w.engine = .ok b)
    (hv : w.values environment i files = .ok values) (ht : w.template i files = .ok t) (hl : i.list = some format)
    {r : Text} (hr : r = listing format (Tag.locate b.pattern t)) (hprint : (w.console.print r).1 = true) :
    Course w environment supply i files (.done r)
      { files, events := listEvents i, printed := (w.console.print r).2, held := (w.console.cut r).2 }
  | noConfig {b : Builder} {values : ValueMap} {t : Text} {f : Fault} (hb : i.builder w.engine = .ok b)
    (hv : w.values environment i files = .ok values) (ht : w.template i files = .ok t) (hl : i.list = none)
    (hc : w.config i files = .error f) :
    Course w environment supply i files (.failed 1 (.fault f)) { files, events := renderEvents i }
  | noExpansion {b : Builder} {s : Sources} {t : Text} {f : Fault}
    (h : Renders w environment supply i files b s t) (hp : b.parse s i.strict t = .error f) :
    Course w environment supply i files (.failed 1 (.fault f)) { files, events := renderEvents i }
  | printBroken {b : Builder} {s : Sources} {t r : Text} (h : Renders w environment supply i files b s t)
    (hp : b.parse s i.strict t = .ok r) (ho : i.output = none) (hprint : (w.console.print r).1 = false) :
    Course w environment supply i files (.failed breakCode .printing)
      { files, events := renderEvents i, printed := (w.console.print r).2 }
  | notFlushed {b : Builder} {s : Sources} {t r : Text} (h : Renders w environment supply i files b s t)
    (hp : b.parse s i.strict t = .ok r) (ho : i.output = none) (hprint : (w.console.print r).1 = true)
    (hflush : (w.console.flush r).1 = false) :
    Course w environment supply i files (.failed 1 (.fault .io))
      { files, events := renderEvents i, printed := (w.console.flush r).2, held := (w.console.cut r).2 }
  | printed {b : Builder} {s : Sources} {t r : Text} (h : Renders w environment supply i files b s t)
    (hp : b.parse s i.strict t = .ok r) (ho : i.output = none) (hprint : (w.console.print r).1 = true)
    (hflush : (w.console.flush r).1 = true) :
    Course w environment supply i files (.done r) { files, events := renderEvents i, printed := r }
  | notSaved {b : Builder} {s : Sources} {t r file : Text} (h : Renders w environment supply i files b s t)
    (hp : b.parse s i.strict t = .ok r) (ho : i.output = some file) (hs : w.save files file r = none) :
    Course w environment supply i files (.failed 1 (.fault .io)) { files, events := renderEvents i ++ [.save file] }
  | saved {b : Builder} {s : Sources} {t r file : Text} {files' : σ} (h : Renders w environment supply i files b s t)
    (hp : b.parse s i.strict t = .ok r) (ho : i.output = some file) (hs : w.save files file r = some files') :
    Course w environment supply i files (.done []) { files := files', events := renderEvents i ++ [.save file] }

variable {w : World σ} {environment : Environment} {supply : Generator.Supply} {i : Invocation} {files : σ}
variable {b : Builder} {values : ValueMap} {t r : Text}

/-- A step that ends the invocation from a trace on. -/
def Ends (w : World σ) (environment : Environment) (supply : Generator.Supply) (i : Invocation) (files : σ)
    (x : StateM (Trace σ) Ending) (s : Trace σ) : Prop := Course w environment supply i files (x s).1 (x s).2

theorem access_print {s : Trace σ} (hprinted : s.printed = []) (hheld : s.held = []) (r : Text) :
    w.access.print r s = ((w.console.print r).1,
      { s with printed := (w.console.print r).2, held := if (w.console.print r).1 then (w.console.cut r).2 else [] }) := by
  simp only [World.access, hheld, hprinted, List.nil_append]
  rfl

theorem access_flush {s : Trace σ} (hprinted : s.printed = (w.console.print r).2)
    (hheld : s.held = (w.console.cut r).2) : w.access.flush s = ((w.console.flush r).1,
      { s with printed := (w.console.flush r).2, held := if (w.console.flush r).1 then [] else (w.console.cut r).2 }) := by
  simp only [World.access, hheld, hprinted]
  rfl

theorem showList_ends {format : ListFormat} (hb : i.builder w.engine = .ok b)
    (hv : w.values environment i files = .ok values) (ht : w.template i files = .ok t) (hl : i.list = some format) :
    Ends w environment supply i files (showList w.access (listing format (Tag.locate b.pattern t)))
      { files, events := listEvents i } := by
  rw [Ends, showList, bind_eq (access_print rfl rfl _)]
  cases hprint : (w.console.print (listing format (Tag.locate b.pattern t))).1 with
  | false => exact .listBroken hb hv ht hl rfl hprint
  | true => exact .listed hb hv ht hl rfl hprint

theorem print_ends {s : Sources} (h : Renders w environment supply i files b s t)
    (hp : b.parse s i.strict t = .ok r) (ho : i.output = none) :
    Ends w environment supply i files (deliver w.access i r) { files, events := renderEvents i } := by
  rw [Ends, deliver, ho]
  dsimp only
  rw [bind_eq (access_print rfl rfl _)]
  cases hprint : (w.console.print r).1 with
  | false => exact .printBroken h hp ho hprint
  | true =>
    rw [if_pos rfl, if_pos rfl, bind_eq (access_flush rfl rfl)]
    cases hdone : (w.console.flush r).1 with
    | false => exact .notFlushed h hp ho hprint hdone
    | true =>
      rw [Console.flush_ok hprint hdone]
      exact .printed h hp ho hprint hdone

theorem save_ends {s : Sources} {file : Text} (h : Renders w environment supply i files b s t)
    (hp : b.parse s i.strict t = .ok r) (ho : i.output = some file) :
    Ends w environment supply i files (deliver w.access i r) { files, events := renderEvents i } := by
  rw [Ends, deliver, ho]
  dsimp only
  cases hs : w.save files file r with
  | none =>
    have hsave : w.access.save file r { files, events := renderEvents i } =
        (false, { files, events := renderEvents i ++ [.save file] }) := by
      simp [World.access, hs, Trace.after]
    rw [bind_eq hsave]
    exact .notSaved h hp ho hs
  | some files' =>
    have hsave : w.access.save file r { files, events := renderEvents i } =
        (true, { files := files', events := renderEvents i ++ [.save file] }) := by
      simp [World.access, hs, Trace.after]
    rw [bind_eq hsave]
    exact .saved h hp ho hs

theorem deliver_ends {s : Sources} (h : Renders w environment supply i files b s t)
    (hp : b.parse s i.strict t = .ok r) :
    Ends w environment supply i files (deliver w.access i r) { files, events := renderEvents i } := by
  cases ho : i.output with
  | none => exact print_ends h hp ho
  | some file => exact save_ends h hp ho

theorem render_ends (hb : i.builder w.engine = .ok b) (hv : w.values environment i files = .ok values)
    (ht : w.template i files = .ok t) (hl : i.list = none) :
    Ends w environment supply i files (render w.access supply i b values t) { files, events := listEvents i } := by
  rw [Ends, render, bind_eq (readConfig_eq w i _)]
  cases hc : w.config i files with
  | error f => exact .noConfig hb hv ht hl hc
  | ok config =>
    have h : Renders w environment supply i files b ⟨values, config, i.secretMode.cipher, supply⟩ t :=
      ⟨hb, hv, ht, hl, hc, rfl, rfl⟩
    dsimp only [Except.bind]
    cases hp : b.parse ⟨values, config, i.secretMode.cipher, supply⟩ i.strict t with
    | error f => exact .noExpansion h hp
    | ok r => exact deliver_ends h hp

theorem processTemplate_ends (hb : i.builder w.engine = .ok b) (hv : w.values environment i files = .ok values) :
    Ends w environment supply i files (processTemplate w.access supply i b values) { files, events := valueEvents i } := by
  rw [Ends, processTemplate, bind_eq (readTemplate_eq w i _)]
  cases ht : w.template i files with
  | error f => exact .noTemplate hb hv ht
  | ok t =>
    dsimp only
    cases hl : i.list with
    | some format => exact showList_ends hb hv ht hl
    | none => exact render_ends hb hv ht hl

/-- **Every invocation runs through the stages.** -/
theorem process_ends : Ends w environment supply i files (process w.access environment supply i) { files } := by
  have hengine : w.access.engine = w.engine := rfl
  rw [Ends, process, hengine]
  cases hb : i.builder w.engine with
  | error f => exact .badPattern hb
  | ok b =>
    dsimp only
    rw [bind_eq (readValues_eq w i _)]
    dsimp only
    have hvalues : ((w.fileValues i files).map ValueMap.empty.merge).bind (i.assigned environment) =
      w.values environment i files := rfl
    rw [hvalues]
    cases hv : w.values environment i files with
    | error f => exact .badValues hb hv
    | ok values => exact processTemplate_ends hb hv

theorem run_course {configFromEnvironment : Option Text} {arguments : List Text} {ending : Ending} {s : Trace σ}
    (hrequest : request configFromEnvironment arguments = .ok (.process i))
    (hrun : run w.access environment supply configFromEnvironment arguments { files } = (ending, s)) :
    Course w environment supply i files ending s := by
  rw [run, hrequest] at hrun
  dsimp only at hrun
  have h : Ends w environment supply i files (process w.access environment supply i) { files } := process_ends
  rw [Ends, hrun] at h
  exact h

end Stages

end Placeholder.Command
