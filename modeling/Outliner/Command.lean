import Outliner.Position

/-!
# Outliner — commands

What a user can ask for at a cursor, and what is left for the host to do afterwards. A command means
different things in different contexts; `Outliner.Editor.Plan` says which.
-/

namespace Outliner

/-- A structural command. -/
inductive Command where
  /-- A new element of the kind under the cursor. A new list item goes below what is nested in the
  old one when `afterContent` is set, and right below its first line otherwise. -/
  | insertSibling (afterContent : Bool)
  | split
  | promote
  | demote
  | foldOrIndent
  | nextCell
  | previousCell
  | cycleKeyword
  | toggleCheckbox
  | renumber
deriving DecidableEq, Repr

/-- What a command leaves for the host to do. -/
inductive Outcome where
  /-- Put the cursor there. -/
  | cursor (place : Position)
  /-- Fold the lines. -/
  | fold (lines : LineSpan)
  | unchanged
deriving DecidableEq, Repr

end Outliner
