import Outliner.Lines

/-!
# Outliner — the cursor after an edit

* `Edit.columnShift`, `Edit.columnShifts`, `mapCursor` — how a cursor moves with the text of its line;
* `Plan.ofEdits` — the plan that makes edits in place and lets the cursor follow.
-/

namespace Outliner

/-- By how many columns an edit on one line moves a cursor in the given column of that line. Text
right of the edit moves with it; a cursor inside the replaced span stays as far from its start as
the new text allows. -/
def Edit.columnShift (e : Edit) (column : Nat) : Int :=
  let start := e.span.start.column
  let stop := e.span.stop.column
  if stop ≤ column then (e.text.length : Int) - ((stop : Int) - start)
  else if start < column then ((start + min (column - start) e.text.length : Nat) : Int) - column
  else 0

/-- By how many columns edits on the line of a cursor move it. -/
def Edit.columnShifts (column : Nat) : List Edit → Int
  | [] => 0
  | e :: rest => e.columnShift column + columnShifts column rest

/-- Where a cursor ends up after edits that each stay on one line. -/
def mapCursor (edits : List Edit) (p : Position) : Position :=
  let here := edits.filter fun e => e.span.start.line == p.line && e.span.stop.line == p.line
  ⟨p.line, (p.column + Edit.columnShifts p.column here).toNat⟩

/-- The plan that makes edits in place; without edits nothing changes. -/
def Plan.ofEdits (edits : List Edit) (p : Position) : Plan :=
  if edits.isEmpty then .unchanged else .apply edits (mapCursor edits p)

end Outliner
