/-
How the command line fails. What it fails with depends on the stage alone: code 2 if the pattern, the file of values
or an assignment is refused, which is settled before the template is looked at, and code 1 if a later stage fails.
Since the output is the last stage, a run that fails has left all files as they were, and has printed nothing unless
the console itself took a part of the text and refused the rest (`run_fails_by_stage`).

A console that refuses a text while it is printed breaks the run off, with a code of its own; one that refuses what was
held back when it is flushed fails the last stage.
-/
import Placeholder.Proofs.Command.Sources

namespace Placeholder.Command

variable {σ : Type} {w : World σ} {environment : Environment} {supply : Generator.Supply} {i : Invocation} {files : σ}

namespace Course

variable {e : Ending} {s : Trace σ}

theorem unchanged (h : Course w environment supply i files e s) (hcode : e.code ≠ 0) : s.files = files := by
  cases h with
  | saved => exact absurd rfl hcode
  | badPattern | badValues | noTemplate | listBroken | listed | noConfig | noExpansion | printBroken | notFlushed
  | printed | notSaved => rfl

end Course

end Placeholder.Command
