/-
Patterns and the parts of a value. A pattern asks for the date or for the time of day by its letters (`asked`), and
only these matter: it can be written exactly if the value has every part asked for (`isSome_renderPattern`), and two
values that agree in these parts are written alike (`renderPattern_congr`). So a date or a time of day that can be
written at all is written as in every moment that it is a part of (`format_moment_of_parts`).

The letter `F` may remove a point that was written before. This needs no care here, since the two lemmas hold whatever
was written.
-/
import Placeholder.Proofs.Display.Standard

namespace Placeholder

namespace Display

/-- A part of a value that a pattern can ask for. -/
inductive Part
  | date
  | time
  deriving DecidableEq

/-- The part that a run of the letter needs. -/
def letterPart? : Char → Option Part
  | 'y' | 'M' | 'd' | 'g' => some .date
  | 'H' | 'h' | 'm' | 's' | 'f' | 'F' | 't' => some .time
  | _ => none

/-- The parts that a pattern asks for, by its letters outside of quotes and not behind a backslash. -/
def asked : Text → List Part
  | [] => []
  | c :: t =>
    if c = '\'' || c = '"' then asked ((t.dropWhile (· != c)).drop 1)
    else if c = '\\' then asked (t.drop 1)
    else (letterPart? c).toList ++ asked t
termination_by t => t.length
decreasing_by
  · have := (List.dropWhile_suffix (l := t) (· != c)).length_le
    simp only [List.length_drop, List.length_cons]
    omega
  · simp only [List.length_drop, List.length_cons]
    omega
  · simp

namespace Temporal

def Has (v : Temporal) : Part → Prop
  | .date => v.date.isSome = true
  | .time => v.time.isSome = true

/-- Both values have the same part, or both lack it. -/
def Agree (v w : Temporal) : Part → Prop
  | .date => v.date = w.date
  | .time => v.time = w.time

/-- All parts of `v` are parts of `w`. -/
def Within (v w : Temporal) : Prop := ∀ part, v.Has part → v.Agree w part

end Temporal

variable {v w : Temporal} {c : Char} {part : Part} {run : Nat} {written t : Text}

/-! ## Runs -/

/-- A run shows the date, or the time of day, or something that every value has. -/
theorem runText_cases (c : Char) (run : Nat) (written : Text) :
    (letterPart? c = some .date ∧ ∃ shown : Date → Text,
      ∀ v, runText v c run written = v.date.map fun d => some (shown d)) ∨
    (letterPart? c = some .time ∧ ∃ shown : TimeOfDay → Text,
      ∀ v, runText v c run written = v.time.map fun t => some (shown t)) ∨
    (letterPart? c = none ∧ ∃ shown, ∀ v, runText v c run written = some shown) := by
  unfold runText
  split
  case h_14 =>
    refine .inr (.inr ⟨?_, none, fun _ => rfl⟩)
    unfold letterPart?
    split <;> first | rfl | contradiction
  all_goals first
    | exact .inl ⟨rfl, _, fun _ => rfl⟩
    | exact .inr (.inl ⟨rfl, _, fun _ => rfl⟩)
    | exact .inr (.inr ⟨rfl, _, fun _ => rfl⟩)

theorem isSome_runText (v : Temporal) (c : Char) (run : Nat) (written : Text) :
    (runText v c run written).isSome = true ↔ ∀ part ∈ letterPart? c, v.Has part := by
  rcases runText_cases c run written with ⟨hpart, _, hshown⟩ | ⟨hpart, _, hshown⟩ | ⟨hpart, _, hshown⟩ <;>
    simp [hpart, hshown, Temporal.Has]

theorem runText_congr (h : ∀ part ∈ letterPart? c, v.Agree w part) :
    runText v c run written = runText w c run written := by
  rcases runText_cases c run written with ⟨hpart, _, hshown⟩ | ⟨hpart, _, hshown⟩ | ⟨hpart, _, hshown⟩
  · rw [hshown, hshown, show v.date = w.date from h _ hpart]
  · rw [hshown, hshown, show v.time = w.time from h _ hpart]
  · rw [hshown, hshown]

/-! ## Patterns -/

theorem asked_quote (hquote : c = '\'' || c = '"') (t : Text) :
    asked (c :: t) = asked ((t.dropWhile (· != c)).drop 1) := by
  rw [asked, if_pos hquote]

theorem asked_escape (t : Text) : asked ('\\' :: t) = asked (t.drop 1) := by
  rw [asked, if_neg (by decide), if_pos rfl]

section

variable (hquote : ¬ (c = '\'' || c = '"')) (hescape : c ≠ '\\') (t : Text)
include hquote hescape

theorem mem_asked_cons : part ∈ asked (c :: t) ↔ part ∈ letterPart? c ∨ part ∈ asked t := by
  rw [asked, if_neg hquote, if_neg hescape, List.mem_append, Option.mem_toList, Option.mem_def]

/-- The letters of a run ask for the same. -/
theorem mem_asked_run : part ∈ asked (c :: t) ↔ part ∈ letterPart? c ∨ part ∈ asked (t.dropWhile (· == c)) := by
  rw [mem_asked_cons hquote hescape]
  induction t with
  | nil => rfl
  | cons d t ih =>
    rw [List.dropWhile_cons]
    split
    next hd =>
      rw [eq_of_beq hd, ← ih, mem_asked_cons hquote hescape]
      exact or_self_left
    next => rfl

theorem forall_asked_cons {p : Part → Prop} :
    (∀ part ∈ asked (c :: t), p part) ↔ (∀ part ∈ letterPart? c, p part) ∧ ∀ part ∈ asked t, p part := by
  simp only [mem_asked_cons hquote hescape, or_imp, forall_and]

theorem forall_asked_run {p : Part → Prop} : (∀ part ∈ asked (c :: t), p part) ↔
    (∀ part ∈ letterPart? c, p part) ∧ ∀ part ∈ asked (t.dropWhile (· == c)), p part := by
  simp only [mem_asked_run hquote hescape, or_imp, forall_and]

theorem leads_eq_false (hpercent : c ≠ '%') : leads c = false := by
  simpa [leads, hescape, hpercent] using hquote

end

/-- A pattern can be written for a value exactly if the value has every part that the pattern asks for. -/
theorem isSome_renderPattern (v : Temporal) (written t : Text) :
    (renderPattern v written t).isSome = true ↔ ∀ part ∈ asked t, v.Has part := by
  fun_induction renderPattern v written t with
  | case1 => simp [asked]
  | case2 written c t hquote ih => rw [ih, asked_quote hquote]
  | case3 => simp [asked]
  | case4 written d t _ ih => rw [ih, asked_escape, List.drop_succ_cons, List.drop_zero]
  | case5 written t hquote hescape ih => simp [ih, forall_asked_cons hquote hescape, letterPart?]
  | case6 written c t hquote hescape _ rest hrun =>
    have hlacks := (isSome_runText v c (1 + (t.length - rest.length)) written).not
    rw [hrun] at hlacks
    rw [forall_asked_cons hquote hescape]
    exact iff_of_false (by simp) fun hall => hlacks.1 (by simp) hall.1
  | case7 written c t hquote hescape _ rest hrun ih =>
    have hhas := isSome_runText v c (1 + (t.length - rest.length)) written
    rw [hrun] at hhas
    rw [ih, forall_asked_cons hquote hescape, and_iff_right (hhas.1 rfl)]
  | case8 written c t hquote hescape _ rest written' hrun ih =>
    have hhas := isSome_runText v c (1 + (t.length - rest.length)) written
    rw [hrun] at hhas
    rw [ih, forall_asked_run hquote hescape, and_iff_right (hhas.1 rfl)]

/-- The parts that a pattern does not ask for make no difference. -/
theorem renderPattern_congr (h : ∀ part ∈ asked t, v.Agree w part) :
    renderPattern v written t = renderPattern w written t := by
  fun_induction renderPattern v written t with
  | case1 => rw [renderPattern.eq_def]
  | case2 written c t hquote ih =>
    rw [asked_quote hquote] at h
    rw [ih h, renderPattern_quote hquote]
  | case3 written =>
    rw [renderPattern.eq_def]
    rfl
  | case4 written d t _ ih =>
    rw [asked_escape] at h
    rw [renderPattern_escape]
    exact ih h
  | case5 written t hquote hescape ih =>
    rw [ih ((forall_asked_cons hquote hescape t).1 h).2, renderPattern_percent]
  | case6 written c t hquote hescape hpercent rest hrun =>
    rw [runText_congr ((forall_asked_cons hquote hescape t).1 h).1] at hrun
    rw [renderPattern_cons (leads_eq_false hquote hescape hpercent), hrun, Option.bind_none]
  | case7 written c t hquote hescape hpercent rest hrun ih =>
    obtain ⟨hletter, hrest⟩ := (forall_asked_cons hquote hescape t).1 h
    rw [runText_congr hletter] at hrun
    rw [ih hrest, renderPattern_cons (leads_eq_false hquote hescape hpercent), hrun, Option.bind_some]
  | case8 written c t hquote hescape hpercent rest written' hrun ih =>
    obtain ⟨hletter, hrest⟩ := (forall_asked_run hquote hescape t).1 h
    rw [runText_congr hletter] at hrun
    rw [ih hrest, renderPattern_cons (leads_eq_false hquote hescape hpercent), hrun, Option.bind_some]

theorem renderPattern_of_within (h : v.Within w) {shown : Text} (hv : renderPattern v written t = some shown) :
    renderPattern w written t = some shown := by
  have hhas := (isSome_renderPattern v written t).1 (by rw [hv]; rfl)
  rw [← hv]
  exact (renderPattern_congr fun part hpart => h part (hhas part hpart)).symm

/-! ## Specifiers -/

/-- The standard letters with a pattern for each kind of value. -/
def lettersByKind : List Char := ['O', 'o', 'R', 'r']

theorem standardPattern?_congr (hc : c ∉ lettersByKind) (v w : Temporal) :
    standardPattern? c v = standardPattern? c w := by
  unfold standardPattern?
  split <;> first | rfl | exact absurd (by decide) hc

theorem temporal_of_within (h : v.Within w) {spec shown : Text} (hspec : ∀ c ∈ lettersByKind, spec ≠ [c])
    (hv : temporal v spec = some shown) : temporal w spec = some shown := by
  fun_cases temporal v spec with
  | case1 c =>
    rw [temporal, Option.bind_eq_some_iff] at hv ⊢
    obtain ⟨pattern, hpattern, hv⟩ := hv
    rw [standardPattern?_congr (fun hc => hspec c hc rfl) v w] at hpattern
    exact ⟨pattern, hpattern, renderPattern_of_within h hv⟩
  | case2 spec hlong =>
    rw [temporal.eq_2 _ _ hlong] at hv ⊢
    exact renderPattern_of_within h hv

/-- A specifier of two characters or more is a pattern. -/
theorem isSome_temporal (v : Temporal) {spec : Text} (hlong : 2 ≤ spec.length) :
    (temporal v spec).isSome = true ↔ ∀ part ∈ asked spec, v.Has part := by
  rw [temporal.eq_2 _ _ fun c hc => by rw [hc] at hlong; simp at hlong]
  exact isSome_renderPattern v [] spec

theorem temporal_eq_none_iff {lacked : Part} (hv : ∀ part, v.Has part ↔ part ≠ lacked) {spec : Text}
    (hlong : 2 ≤ spec.length) : temporal v spec = none ↔ lacked ∈ asked spec := by
  rw [← Option.not_isSome_iff_eq_none, isSome_temporal v hlong]
  constructor
  · intro hnot
    by_contra hasked
    exact hnot fun part hpart => (hv part).2 fun heq => hasked (heq ▸ hpart)
  · exact fun hasked hall => (hv lacked).1 (hall lacked hasked) rfl

end Display

open Display (asked lettersByKind)

namespace Value

variable {spec : Text}

/-- **A moment is shown as its parts are.** Under every specifier, other than the empty one and the letters with a
pattern for each kind of value, what a date or a time of day shows is what every moment with this date or time of day
shows. Under two characters or more a moment always shows something, a date everything that does not ask for a time of
day, and a time of day everything that does not ask for a date. -/
theorem format_moment_of_parts (m : Moment) (hne : spec ≠ []) (hspec : ∀ c ∈ lettersByKind, spec ≠ [c]) :
    (∀ shown, (date m.date).format spec = .ok shown → (moment m).format spec = .ok shown) ∧
    (∀ shown, (time m.time).format spec = .ok shown → (moment m).format spec = .ok shown) ∧
    (2 ≤ spec.length →
      (∃ shown, (moment m).format spec = .ok shown) ∧
      ((date m.date).format spec = .error (.unsupportedFormat .date spec) ↔ .time ∈ asked spec) ∧
      ((time m.time).format spec = .error (.unsupportedFormat .time spec) ↔ .date ∈ asked spec)) := by
  refine ⟨fun shown hdate => ?_, fun shown htime => ?_, fun hlong => ⟨?_, ?_, ?_⟩⟩
  · rw [format_eq_ok_iff hne] at hdate ⊢
    refine Display.temporal_of_within (fun part hpart => ?_) hspec hdate
    cases part with
    | date => rfl
    | time => cases hpart
  · rw [format_eq_ok_iff hne] at htime ⊢
    refine Display.temporal_of_within (fun part hpart => ?_) hspec htime
    cases part with
    | date => cases hpart
    | time => rfl
  · have hall := (Display.isSome_temporal ⟨some m.date, some m.time⟩ hlong).2 fun part _ => by cases part <;> rfl
    obtain ⟨shown, hshown⟩ := Option.isSome_iff_exists.1 hall
    exact ⟨shown, (format_eq_ok_iff hne).2 hshown⟩
  · refine (format_eq_unsupported_iff hne).trans (Display.temporal_eq_none_iff (fun part => ?_) hlong)
    cases part <;> simp [Display.Temporal.Has]
  · refine (format_eq_unsupported_iff hne).trans (Display.temporal_eq_none_iff (fun part => ?_) hlong)
    cases part <;> simp [Display.Temporal.Has]

/-- A time of day before a quote that is not closed; its point is removed again. -/
theorem format_moment_of_parts_unclosed :
    let m : Moment := ⟨⟨2024, 3, 7, by decide⟩, ⟨7, 30, 0, 0, by decide⟩⟩
    let spec : Text := "h:mm:s.FF \"o'clock".toList
    spec ≠ [] ∧ (∀ c ∈ lettersByKind, spec ≠ [c]) ∧ (time m.time).format spec = .ok "7:30:0 o'clock".toList ∧
      (moment m).format spec = .ok "7:30:0 o'clock".toList ∧
      (date m.date).format spec = .error (.unsupportedFormat .date spec) := by
  intro m spec
  have hne : spec ≠ [] := by decide
  have hlong : 2 ≤ spec.length := by decide
  have hspec : ∀ c ∈ lettersByKind, spec ≠ [c] := by
    intro c _ hc
    rw [hc] at hlong
    exact absurd hlong (Nat.not_succ_le_self 1)
  have htime : (time m.time).format spec = .ok "7:30:0 o'clock".toList := by decide +kernel
  obtain ⟨-, hmoment, hparts⟩ := format_moment_of_parts m hne hspec
  exact ⟨hne, hspec, htime, hmoment _ htime, (hparts hlong).2.1.2 (by decide +kernel)⟩

/-- The empty specifier asks for all that the value has, so a moment shows more than its date does. -/
theorem format_moment_without_spec :
    let m : Moment := ⟨⟨2024, 3, 7, by decide⟩, ⟨7, 30, 0, 0, by decide⟩⟩
    (∀ c ∈ lettersByKind, ([] : Text) ≠ [c]) ∧
      ¬ ∀ shown, (date m.date).format [] = .ok shown → (moment m).format [] = .ok shown := by
  intro m
  refine ⟨fun c _ => (List.cons_ne_nil c []).symm, fun hall => ?_⟩
  exact absurd (hall "03/07/2024".toList (by decide)) (by decide)

end Value

end Placeholder
