import Outliner.Heading
import Outliner.Lines
import Outliner.ListItem

/-!
# Outliner — extents of list items

An item owns the lines below it that are indented further than its marker, together with the blank
lines between them.

* `ListItem.extent` — the last line that an item owns, and why the search for it stopped;
* `ListItem.extentEnd` — that line alone;
* `ListItem.hasChildren` — the item owns more than its own line.
-/

namespace Outliner

namespace ListItem

/-- Why the search for the end of an item stopped. -/
inductive ExtentExit where
  /-- A heading, or another item that is not indented further. -/
  | itemOrHeading (line : Nat)
  /-- Other text that is not indented further. -/
  | dedent (line : Nat)
  /-- There are no more lines. -/
  | endOfDocument
deriving DecidableEq, Repr

/-- Follow the lines below an item at the given indentation; `last` is the last one it owns so
far. -/
def follow (indent last : Nat) : List (Text × Nat) → Nat × ExtentExit
  | [] => (last, .endOfDocument)
  | (line, n) :: rest =>
    if line.isBlankLine then follow indent last rest
    else if Heading.levelOf line > 0 then (last, .itemOrHeading n)
    else if line.indent ≤ indent then
      (last, if (parse? line).isSome then .itemOrHeading n else .dedent n)
    else follow indent n rest

/-- The last line of the item on line `n`, and why the search stopped there. -/
def extent (lines : Lines) (n indent : Nat) : Nat × ExtentExit :=
  follow indent n (lines.onward (n + 1))

/-- The last line of the item on line `n`, what is nested in it included. -/
def extentEnd (lines : Lines) (n indent : Nat) : Nat :=
  (extent lines n indent).1

/-- The first line below `n` that is not blank is indented further. -/
def hasChildren (lines : Lines) (n indent : Nat) : Bool :=
  match (lines.drop (n + 1)).find? (!·.isBlankLine) with
  | some line => Heading.levelOf line == 0 && indent < line.indent
  | none => false

end ListItem

end Outliner
