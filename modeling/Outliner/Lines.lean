import Outliner.Position

/-!
# Outliner — lines

A snapshot of a buffer is the list of its lines, without their line ends. Every query of the library
reads such a list, and nothing else: the headings, lists, tables and drawers of a buffer are found
again from its lines each time.

* `Lines.lineAt`, `Lines.last`, `Lines.isBlankAt` — reading a line; past the end all are empty;
* `Lines.clamp` — the nearest place that exists;
* `Lines.insertion` — the edit that puts whole lines before a line.
-/

namespace Outliner

/-- The lines of a buffer, without line ends. -/
abbrev Lines := List Text

namespace Lines

/-- The text of a line; empty past the last line. -/
def lineAt (lines : Lines) (n : Nat) : Text :=
  lines.getD n []

/-- Past the last line there is no text. -/
theorem lineAt_of_length_le {lines : Lines} {n : Nat} (h : lines.length ≤ n) :
    lines.lineAt n = [] := by
  simp [lineAt, List.getElem?_eq_none h]

/-- A line that exists is read as it stands. -/
theorem lineAt_of_lt {lines : Lines} {n : Nat} (h : n < lines.length) :
    lines.lineAt n = lines[n] := by
  simp [lineAt, h]

/-- The number of the last line; zero when there is none. -/
def last (lines : Lines) : Nat :=
  lines.length - 1

/-- The line holds white space at most. -/
def isBlankAt (lines : Lines) (n : Nat) : Bool :=
  (lines.lineAt n).isBlankLine

/-- The lines with their numbers. -/
def numbered (lines : Lines) : List (Text × Nat) :=
  lines.zipIdx

/-- The numbered lines above a line, nearest first. -/
def above (lines : Lines) (n : Nat) : List (Text × Nat) :=
  (lines.numbered.take n).reverse

/-- The numbered lines from a line on. -/
def onward (lines : Lines) (n : Nat) : List (Text × Nat) :=
  lines.numbered.drop n

/-- The columns of a whole line. -/
def spanOf (lines : Lines) (n : Nat) : Span :=
  .onLine n 0 (lines.lineAt n).length

/-- The nearest place on an existing line, within its text. -/
def clamp (lines : Lines) (p : Position) : Position :=
  let line := min p.line lines.last
  ⟨line, min p.column (lines.lineAt line).length⟩

/-- A place inside the buffer stays where it is. -/
theorem clamp_of_le {lines : Lines} {p : Position} (hl : p.line ≤ lines.last)
    (hc : p.column ≤ (lines.lineAt p.line).length) : lines.clamp p = p := by
  simp only [clamp, Nat.min_eq_left hl, Nat.min_eq_left hc]

/-- Clamping brings a place inside the buffer. -/
theorem clamp_clamp (lines : Lines) (p : Position) : lines.clamp (lines.clamp p) = lines.clamp p :=
  clamp_of_le (Nat.min_le_right ..) (Nat.min_le_right ..)

/-- The edit that puts whole lines before line `n`, or after the last line when `n` is past it. -/
def insertion (lines : Lines) (n : Nat) (new : List Text) : Edit :=
  let block := List.intercalate ['\n'] new
  if lines.isEmpty then .insert ⟨0, 0⟩ block
  else if n < lines.length then .insert ⟨n, 0⟩ (block ++ ['\n'])
  else .insert ⟨lines.last, (lines.lineAt lines.last).length⟩ ('\n' :: block)

end Lines

end Outliner
