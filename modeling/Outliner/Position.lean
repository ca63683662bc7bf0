import Outliner.Text.Basic

/-!
# Outliner — positions and edits

Where things are in a buffer of lines, and what can be asked of the buffer. Lines and columns count
from zero, and a column counts characters.

* `Position`, `Span`, `LineSpan` — a place, the text between two places, a run of whole lines;
* `Edit` — the replacement of one span by a text, stated against the buffer as it was read;
* `Plan` — what a command asks for: a batch of edits with the cursor that follows them, a fold, or
  nothing.
-/

namespace Outliner

/-- A place between two characters of a line. -/
structure Position where
  line : Nat
  column : Nat
deriving DecidableEq, Repr

/-- The text from one place to another. -/
structure Span where
  start : Position
  stop : Position
deriving DecidableEq, Repr

/-- The columns from `first` up to `last` of one line. -/
def Span.onLine (line first last : Nat) : Span :=
  ⟨⟨line, first⟩, ⟨line, last⟩⟩

/-- A run of whole lines, both ends included. -/
structure LineSpan where
  first : Nat
  last : Nat
deriving DecidableEq, Repr

/-- The replacement of a span by a text. Line breaks in the text are line feeds. -/
structure Edit where
  span : Span
  text : Text
deriving DecidableEq, Repr

namespace Edit

/-- Put a text at a place. -/
def insert (place : Position) (text : Text) : Edit :=
  ⟨⟨place, place⟩, text⟩

/-- Take out a span. -/
def delete (span : Span) : Edit :=
  ⟨span, []⟩

/-- The edit takes nothing out and puts nothing in. -/
def isIdle (e : Edit) : Bool :=
  e.span.start == e.span.stop && e.text.isEmpty

end Edit

/-- What a command asks for. -/
inductive Plan where
  /-- Apply the edits as one batch and put the cursor there. A batch without edits only moves the
  cursor. -/
  | apply (edits : List Edit) (cursor : Position)
  /-- Fold the lines; the buffer is not touched. -/
  | fold (lines : LineSpan)
  /-- Leave everything as it is. -/
  | unchanged
deriving DecidableEq, Repr

end Outliner
