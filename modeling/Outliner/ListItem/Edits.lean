import Outliner.ListItem.Run
import Outliner.Subtree

/-!
# Outliner — edits of list items

* `ListItem.shiftEdits` — an item moved sideways with all that is nested in it;
* `ListItem.toggleEdit?` — the mark in the checkbox of an item replaced.
-/

namespace Outliner

namespace ListItem

/-- The edit that moves one line by `width` columns; outward, by as many as it is indented at
most. -/
def shiftEdit (width : Nat) (shift : Shift) (line : Text) (n : Nat) : Edit :=
  match shift with
  | .inward => .insert ⟨n, 0⟩ (Text.spaces width)
  | .outward => .delete (.onLine n 0 (min width line.indent))

/-- The edits that move the item on line `n` with the lines it owns; blank lines stay as they
are. -/
def shiftEdits (config : Config) (lines : Lines) (n : Nat) (shift : Shift) : List Edit :=
  match parse? (lines.lineAt n) with
  | none => []
  | some item =>
    let width := config.indentWidth.toNat
    if width = 0 ∨ shift = .outward ∧ item.indent = 0 then []
    else
      let block := (lines.onward n).take (extentEnd lines n item.indent + 1 - n)
      ((block.filter (!·.1.isBlankLine)).map fun (line, m) => shiftEdit width shift line m).filter
        (!·.isIdle)

/-- The edit that toggles the checkbox of the item on line `n`. The box is the first bracket after
the marker. -/
def toggleEdit? (lines : Lines) (n : Nat) : Option Edit := do
  let line := lines.lineAt n
  let item ← parse? line
  let state ← item.checkbox
  -- With leading zeros the marker is longer than its number in writing; no bracket lies between.
  let afterMarker := item.indent + item.bullet.render.length
  let gap ← (line.drop afterMarker).findIdx? (· == '[')
  let mark := afterMarker + gap + 1
  some ⟨.onLine n mark (mark + 1), [state.toggled.mark]⟩

end ListItem

end Outliner
