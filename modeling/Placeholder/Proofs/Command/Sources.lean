/-
What the command line hands to the library. The options choose the pattern and the settings of the builder, and the
entry of a key in the values comes from the first of three layers that has one: the assignments, of which the last
counts, the file of values, and the standard tags. The layers are put together in another order, with the
assignments one after another over the file, and all of it over the standard tags; that this gives the same is
shown here (`entry?_assigned`).
-/
import Placeholder.Proofs.Command.World
import Placeholder.Proofs.Expansion.Precedence
import Placeholder.Proofs.ValueMap.Entries

namespace Placeholder.Command

variable {σ : Type}

/-! ## Assignments -/

/-- The key and the value of an assignment. The key ends at the first equals sign, and has no blanks around it. -/
def readAssignment (assignment : Text) : Outcome (Text × Value) :=
  match Text.splitAtFirst? '=' assignment with
  | none => .error (.notAssignment assignment)
  | some (key, literal) => (Literal.read literal).map fun v => (Text.trim key, v)

/-- The value that an assignment gives to a key in any spelling. -/
def assignedTo? (key assignment : Text) : Option Value :=
  match readAssignment assignment with
  | .ok (k, v) => if Unicode.toLower key = Unicode.toLower k then some v else none
  | .error _ => none

/-- The value of the last assignment to a key. -/
def lastAssigned? (assignments : List Text) (key : Text) : Option Value := assignments.reverse.findSome? (assignedTo? key)

theorem lastAssigned?_cons (assignment : Text) (rest : List Text) (key : Text) :
    lastAssigned? (assignment :: rest) key = (lastAssigned? rest key).or (assignedTo? key assignment) := by
  rw [lastAssigned?, List.reverse_cons, List.findSome?_append, List.findSome?_singleton, lastAssigned?]

theorem assign_eq (m : ValueMap) (assignment : Text) :
    assign m assignment = (readAssignment assignment).map fun p => m.insert p.1 p.2 := by
  rw [assign, readAssignment]
  cases Text.splitAtFirst? '=' assignment with
  | none => rfl
  | some parts =>
    dsimp only
    cases Literal.read parts.2 <;> rfl

/-- Where all of them are read, each key has the value that was assigned to it last. -/
theorem assignments_ok {assignments : List Text} {m m' : ValueMap} (h : assignments.foldlM assign m = .ok m') :
    (∀ a ∈ assignments, ∃ p, readAssignment a = .ok p) ∧
    ∀ key, m'.entry? key = ((lastAssigned? assignments key).map some).or (m.entry? key) := by
  induction assignments generalizing m with
  | nil =>
    cases h
    exact ⟨by simp, fun _ => rfl⟩
  | cons a rest ih =>
    rw [List.foldlM_cons, assign_eq] at h
    obtain ⟨assigned, ha, hrest⟩ := Outcome.bind_eq_ok.1 h
    obtain ⟨p, hp, rfl⟩ := Outcome.map_eq_ok.1 ha
    obtain ⟨hread, hentry⟩ := ih hrest
    refine ⟨List.forall_mem_cons.2 ⟨⟨p, hp⟩, hread⟩, fun key => ?_⟩
    rw [hentry, ValueMap.entry?_insert, lastAssigned?_cons, assignedTo?, hp]
    cases lastAssigned? rest key with
    | some v => rfl
    | none =>
      dsimp only
      split <;> rfl

/-! ## Values -/

/-- The entry of a key: what was assigned to it last, or else its entry in the file, also if that is null, or else
its standard tag, if these are asked for. -/
def entryFor (i : Invocation) (environment : Environment) (fromFile : ValueMap) (key : Text) : Option (Option Value) :=
  ((lastAssigned? i.assignments key).map some).or
    ((fromFile.entry? key).or (if i.standardTags then environment.standardTags.entry? key else none))

theorem entry?_empty_merge (m : ValueMap) (key : Text) : ValueMap.entry? (ValueMap.empty.merge m) key = m.entry? key := by
  rw [ValueMap.entry?_merge, ValueMap.entry?_empty, Option.or_none]

/-- The layers are put over one another so that each key has the entry of the first that knows it. -/
theorem entry?_assigned {i : Invocation} {environment : Environment} {m values : ValueMap}
    (h : i.assigned environment m = .ok values) : (∀ a ∈ i.assignments, ∃ p, readAssignment a = .ok p) ∧
    ∀ key, values.entry? key = entryFor i environment m key := by
  rw [Invocation.assigned] at h
  obtain ⟨m', hfold, hpure⟩ := Outcome.bind_eq_ok.1 h
  cases hpure
  obtain ⟨hread, hentry⟩ := assignments_ok hfold
  refine ⟨hread, fun key => ?_⟩
  rw [entryFor]
  cases i.standardTags with
  | true => rw [if_pos rfl, if_pos rfl, Environment.standardTagsWith, ValueMap.entry?_merge, hentry, Option.or_assoc]
  | false => rw [if_neg Bool.false_ne_true, if_neg Bool.false_ne_true, hentry, Option.or_none]

/-! ## The builder -/

/-- The pattern that an invocation chooses, or the one that stands for no choice. -/
def chosenPattern (i : Invocation) (engine : Pattern.Engine) : Outcome Pattern :=
  match i.pattern with
  | some p => (Builder.withPattern p engine).map Builder.pattern
  | none => .ok Tag.livePattern

variable {i : Invocation} {engine : Pattern.Engine} {b : Builder} {f : Fault}

/-- Only the pattern can keep an invocation from its builder. -/
theorem builder_eq (i : Invocation) (engine : Pattern.Engine) :
    i.builder engine = (chosenPattern i engine).map fun p => ⟨p, ⟨!i.keepBoolCase, i.maxPasses, true⟩⟩ := by
  rw [Invocation.builder, chosenPattern]
  cases i.pattern with
  | none => rfl
  | some p =>
    dsimp only
    cases Builder.withPattern p engine <;> rfl

theorem builder_ok (h : i.builder engine = .ok b) :
    chosenPattern i engine = .ok b.pattern ∧ b.options = ⟨!i.keepBoolCase, i.maxPasses, true⟩ := by
  rw [builder_eq] at h
  obtain ⟨p, hp, rfl⟩ := Outcome.map_eq_ok.1 h
  exact ⟨hp, rfl⟩

/-! ## Secrets -/

/-- What a secret value becomes: itself, a star for each of its characters, or the hexadecimal digest of its bytes in
UTF-8. -/
def shownSecret : SecretMode → (value : Text) → Text
  | .plain, value => value
  | .mask, value => List.replicate value.length '*'
  | .sha256, value => Digest.hexText (Digest.sha256 (Digest.utf8Bytes value))

/-- The cipher of a mode shows each secret in that mode, whatever was asked before. -/
theorem cipher_eq (mode : SecretMode) (earlier : List Secret.Call) (call : Secret.Call) :
    mode.cipher earlier call = shownSecret mode call.value := by
  cases mode <;> rfl

/-! ## What an expansion is made of -/

/-- What an invocation hands to the library: a builder, the sources and a template, told by the options and the
files alone. Of the values it tells the entry of each key, not the order they stand in. -/
structure Prepared (w : World σ) (environment : Environment) (supply : Generator.Supply) (i : Invocation) (files : σ)
    (b : Builder) (s : Sources) (t : Text) : Prop where
  pattern : chosenPattern i w.engine = .ok b.pattern
  options : b.options = ⟨!i.keepBoolCase, i.maxPasses, true⟩
  assignments : ∀ a ∈ i.assignments, ∃ p, readAssignment a = .ok p
  values : ∃ fromFile, w.fileValues i files = .ok fromFile ∧
    ∀ key, s.values.entry? key = entryFor i environment fromFile key
  template : w.template i files = .ok t
  config : w.config i files = .ok s.config
  cipher : ∀ earlier call, s.cipher earlier call = shownSecret i.secretMode call.value
  supply : s.supply = supply

section Prepared

variable {w : World σ} {environment : Environment} {supply : Generator.Supply} {i : Invocation} {files : σ}
variable {b b' : Builder} {s s' : Sources} {t t' : Text} {values : ValueMap} {f : Fault}

theorem values_ok (h : w.values environment i files = .ok values) :
    (∀ a ∈ i.assignments, ∃ p, readAssignment a = .ok p) ∧
    ∃ fromFile, w.fileValues i files = .ok fromFile ∧ ∀ key, values.entry? key = entryFor i environment fromFile key := by
  rw [World.values] at h
  obtain ⟨m, hmerged, hassigned⟩ := Outcome.bind_eq_ok.1 h
  obtain ⟨fromFile, hfile, rfl⟩ := Outcome.map_eq_ok.1 hmerged
  obtain ⟨hread, hentry⟩ := entry?_assigned hassigned
  refine ⟨hread, fromFile, hfile, fun key => ?_⟩
  rw [hentry, entryFor, entry?_empty_merge, entryFor]

theorem Renders.prepared (h : Renders w environment supply i files b s t) :
    Prepared w environment supply i files b s t := by
  obtain ⟨hpattern, hoptions⟩ := builder_ok h.builder
  obtain ⟨hread, hvalues⟩ := values_ok h.values
  exact ⟨hpattern, hoptions, hread, hvalues, h.template, h.config, fun _ _ => h.cipher ▸ cipher_eq .., h.supply⟩

/-- The expansion is settled by what is told: maps with the same entries do not differ in it. -/
theorem Prepared.parse_eq (h : Prepared w environment supply i files b s t)
    (h' : Prepared w environment supply i files b' s' t') (strict : Bool) : b'.parse s' strict t' = b.parse s strict t := by
  have hbuilder : b' = b := by
    cases b
    cases b'
    cases h.pattern.symm.trans h'.pattern
    cases h.options.trans h'.options.symm
    rfl
  have htemplate : t' = t := Except.ok.inj (h'.template.symm.trans h.template)
  have hconfig : s'.config = s.config := Except.ok.inj (h'.config.symm.trans h.config)
  have hcipher : s'.cipher = s.cipher :=
    funext fun earlier => funext fun call => (h'.cipher earlier call).trans (h.cipher earlier call).symm
  have hentry : ∀ key, s'.values.entry? key = s.values.entry? key := by
    obtain ⟨fromFile, hfile, hvalues⟩ := h.values
    obtain ⟨fromFile', hfile', hvalues'⟩ := h'.values
    cases hfile.symm.trans hfile'
    intro key
    rw [hvalues, hvalues']
  rw [hbuilder, htemplate]
  refine Builder.parse_congr (fun g => Builder.resolveTag_congr hcipher ?_) strict t
  refine Builder.resolveKey_congr (h'.supply.trans h.supply.symm) ?_ (fun _ _ => by rw [hconfig]) g
  rw [ValueMap.get?, ValueMap.get?, hentry]

end Prepared

end Placeholder.Command
