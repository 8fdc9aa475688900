/-
What a successful run of the command line delivers. Unless it lists tags, it is one expansion by the library, with
all that the options choose and the values in their layers (`Prepared`): it is printed, or written to the output file
and nowhere else (`run_delivers_expansion`).
-/
import Placeholder.Proofs.Command.Sources

namespace Placeholder.Command

variable {σ : Type}

/-- A text is all that a run puts out: it has gone out to the console and no file changes, or nothing is printed and it
is the one text that is saved. -/
def Delivered (w : World σ) (i : Invocation) (files : σ) (text : Text) (ending : Ending) (s : Trace σ) : Prop :=
  match i.output with
  | none =>
    ending = .done text ∧ s.printed = text ∧ s.held = [] ∧ s.files = files ∧ s.events = renderEvents i
  | some file =>
    ending = .done [] ∧ s.printed = [] ∧ s.held = [] ∧ w.save files file text = some s.files ∧
      s.events = renderEvents i ++ [.save file]

/-- A run that is done and does not list tags has come to its last stage. -/
theorem Course.delivered {w : World σ} {environment : Environment} {supply : Generator.Supply} {i : Invocation}
    {files : σ} {ending : Ending} {s : Trace σ} (h : Course w environment supply i files ending s)
    (hl : i.list = none) (hcode : ending.code = 0) :
    ∃ b sources t text, Prepared w environment supply i files b sources t ∧
      b.parse sources i.strict t = .ok text ∧ Delivered w i files text ending s := by
  cases h with
  | badPattern | badValues | noTemplate | noConfig | noExpansion | printBroken | notFlushed | notSaved => cases hcode
  | listBroken _ _ _ hsome | listed _ _ _ hsome =>
    rw [hl] at hsome
    cases hsome
  | printed h hp ho =>
    refine ⟨_, _, _, _, h.prepared, hp, ?_⟩
    rw [Delivered, ho]
    exact ⟨rfl, rfl, rfl, rfl, rfl⟩
  | saved h hp ho hs =>
    refine ⟨_, _, _, _, h.prepared, hp, ?_⟩
    rw [Delivered, ho]
    exact ⟨rfl, rfl, rfl, hs, rfl⟩

/-- **A run delivers the expansion of its template.** A run with code 0 that does not list tags puts out one text, on
its console or in the output file. Its template, its configuration and all its assignments could be read, and the text
is what the library expands the template to, with the pattern, the settings, the strictness and the cipher that the
options choose, the configuration narrowed to the section, and any map of values in which the entry of each key is
that of the first layer that has one: the last assignment to the key, the file of values, the standard tags. -/
theorem run_delivers_expansion (w : World σ) (environment : Environment) (supply : Generator.Supply)
    (configFromEnvironment : Option Text) (arguments : List Text) (i : Invocation) (files : σ)
    (hrequest : request configFromEnvironment arguments = .ok (.process i)) (ending : Ending) (s : Trace σ)
    (hrun : run w.access environment supply configFromEnvironment arguments { files } = (ending, s))
    (hl : i.list = none) (hcode : ending.code = 0) :
    ∃ text, Delivered w i files text ending s ∧
      (∃ b sources t, Prepared w environment supply i files b sources t) ∧
      ∀ b sources t, Prepared w environment supply i files b sources t → b.parse sources i.strict t = .ok text := by
  obtain ⟨b, sources, t, text, h, hp, hdelivered⟩ := (run_course hrequest hrun).delivered hl hcode
  refine ⟨text, hdelivered, ⟨b, sources, t, h⟩, fun b' sources' t' h' => ?_⟩
  rw [h.parse_eq h', hp]

/-- Two assignments to one key, of which the last counts, a null of the file that leaves the key of a standard tag to
the configuration, and a value of the file before a standard tag. -/
theorem run_delivers_expansion_layers :
    let w : World (List (Text × Text)) :=
      .table (some "$\x7ba\x7d|$\x7bHour\x7d|$\x7bHostName\x7d|$\x7bYear\x7d".toList) fun _ => true
    let environment : Environment := ⟨⟨⟨1970, 1, 1, by decide⟩, .midnight⟩, ['h'], ['u'], none⟩
    let arguments : List Text :=
      ["-", "--standard-tags", "-s", " A = 1=1", "--values", "v", "--set=a=x=y", "-cc", "--section", "S", "-o", "o"].map
        String.toList
    let i : Invocation :=
      { template := ['-'], assignments := [" A = 1=1".toList, "a=x=y".toList], values := some ['v'],
        config := some ['c'], narrowTo := some ['S'], standardTags := true, output := some ['o'] }
    let files : List (Text × Text) :=
      [(['v'], "\x7b\"hour\":null,\"hostname\":\"file\"\x7d".toList),
        (['c'], "\x7b\"S\":\x7b\"Hour\":\"none\"\x7d\x7d".toList)]
    let s : Trace (List (Text × Text)) :=
      { files := (['o'], "x=y|none|file|1970".toList) :: files,
        events := [.load ['v'], .takeInput, .load ['c'], .save ['o']] }
    request none arguments = .ok (.process i) ∧
    run w.access environment (fun _ => 0) none arguments { files } = (.done [], s) ∧
    ∃ b sources t, Prepared w environment (fun _ => 0) i files b sources t ∧
      b.parse sources false t = .ok "x=y|none|file|1970".toList := by
  intro w environment arguments i files s
  have hrequest : request none arguments = .ok (.process i) := rfl
  have hrun : run w.access environment (fun _ => 0) none arguments { files } = (.done [], s) := by
    change @Eq (Ending × Trace (List (Text × Text))) _ _
    decide +kernel
  obtain ⟨text, hdelivered, ⟨b, sources, t, h⟩, hparse⟩ :=
    run_delivers_expansion w environment _ none arguments i files hrequest _ s hrun rfl rfl
  obtain ⟨-, -, -, hsave, -⟩ := hdelivered
  have htext : text = "x=y|none|file|1970".toList := (Prod.mk.inj (List.cons.inj (Option.some.inj hsave)).1).2
  rw [htext] at hparse
  exact ⟨hrequest, hrun, b, sources, t, h, hparse b sources t h⟩

end Placeholder.Command
