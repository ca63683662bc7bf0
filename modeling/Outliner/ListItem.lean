import Outliner.Text.Decimal

/-!
# Outliner — list items

A list item opens with its indentation and a marker: `-`, `+`, `*`, or a number with `.` or `)`.
After a gap may stand a checkbox, and then the content. A star in column zero is no marker, as it
opens a heading.

* `Bullet`, `Checkbox`, `ListItem` — the parts of an item line;
* `ListItem.scan?`, `ListItem.parse?`, `ListItem.contentColumn?` — reading a line;
* `ListItem.render` — the line of given parts;
* `ListItem.sibling` — the empty item that follows.
-/

namespace Outliner

/-! ## Markers -/

/-- The marker of a list item. -/
inductive Bullet where
  | dash
  | plus
  | star
  /-- A number and the character after it. -/
  | ordered (number : UInt64) (delimiter : Char)
deriving DecidableEq, Repr

namespace Bullet

/-- The marker is a number. -/
def isOrdered : Bullet → Bool
  | ordered .. => true
  | _ => false

/-- The number of an ordered marker. -/
def number? : Bullet → Option UInt64
  | ordered number _ => some number
  | _ => none

/-- The marker of the item that follows: numbers count up, and the largest one stays. -/
def next : Bullet → Bullet
  | ordered number delimiter =>
    ordered (if number.toNat + 1 < UInt64.size then number + 1 else number) delimiter
  | b => b

/-- The marker with another number, if it is ordered. -/
def withNumber (b : Bullet) (number : UInt64) : Bullet :=
  match b with
  | ordered _ delimiter => ordered number delimiter
  | b => b

/-- The item that follows has a marker of the same kind. -/
theorem isOrdered_next (b : Bullet) : b.next.isOrdered = b.isOrdered := by
  cases b <;> rfl

/-- A new number does not change the kind of a marker. -/
theorem isOrdered_withNumber (b : Bullet) (number : UInt64) :
    (b.withNumber number).isOrdered = b.isOrdered := by
  cases b <;> rfl

/-- The marker in writing. -/
def render : Bullet → Text
  | dash => ['-']
  | plus => ['+']
  | star => ['*']
  | ordered number delimiter => Text.ofNat number.toNat ++ [delimiter]

/-- The number that opens the text, with the `.` or `)` after it. -/
def takeNumber? (t : Text) : Option (Bullet × Text) :=
  let digits := t.takeWhile Char.isDigit
  match t.dropWhile Char.isDigit with
  | delimiter :: after =>
    if digits ≠ [] ∧ (delimiter = '.' ∨ delimiter = ')') then
      (Text.word? digits).map fun number => (ordered number delimiter, after)
    else none
  | [] => none

/-- The marker that opens the text. -/
def take? : Text → Option (Bullet × Text)
  | '-' :: after => some (dash, after)
  | '+' :: after => some (plus, after)
  | '*' :: after => some (star, after)
  | t => takeNumber? t

end Bullet

/-! ## Checkboxes -/

/-- The state of a checkbox. -/
inductive Checkbox where
  | empty
  | partly
  | checked
deriving DecidableEq, Repr

namespace Checkbox

/-- The mark between the brackets. -/
def mark : Checkbox → Char
  | empty => ' '
  | partly => '-'
  | checked => 'X'

/-- The state that a mark stands for. -/
def ofMark? : Char → Option Checkbox
  | ' ' => some empty
  | '-' => some partly
  | 'X' | 'x' => some checked
  | _ => none

/-- Every state is read back from its mark. -/
theorem ofMark?_mark (c : Checkbox) : ofMark? c.mark = some c := by
  cases c <;> rfl

/-- The state after the user has clicked the box. -/
def toggled : Checkbox → Checkbox
  | checked => empty
  | empty | partly => checked

/-- A box that has been clicked once goes back and forth. -/
theorem toggled_toggled_toggled (c : Checkbox) : c.toggled.toggled.toggled = c.toggled := by
  cases c <;> rfl

/-- The checkbox in writing. -/
def render (c : Checkbox) : Text :=
  ['[', c.mark, ']']

/-- The checkbox that opens the text, with the text after the gap that follows it. -/
def take (t : Text) : Option Checkbox × Text :=
  match t with
  | '[' :: mark :: ']' :: after =>
    match ofMark? mark with
    | some state => if Text.atGap after then (some state, Text.dropIndent after) else (none, t)
    | none => (none, t)
  | _ => (none, t)

end Checkbox

/-! ## Items -/

/-- The parts of a list item's line. -/
structure ListItem where
  indent : Nat
  bullet : Bullet
  checkbox : Option Checkbox
  content : Text
deriving DecidableEq, Repr

namespace ListItem

/-- Read an item line; the text is what follows the gap after the marker and the checkbox, with
white space at its end. -/
def scan? (line : Text) : Option (ListItem × Text) := do
  let indent := line.indent
  let (bullet, after) ← Bullet.take? line.dropIndent
  if (indent = 0 ∧ bullet = .star) ∨ !Text.atGap after then none
  else
    let (checkbox, rest) := Checkbox.take (Text.dropIndent after)
    some ({ indent, bullet, checkbox, content := Text.trimEnd rest }, rest)

/-- Read an item line. -/
def parse? (line : Text) : Option ListItem :=
  (scan? line).map (·.1)

/-- The column where the content of an item line starts. -/
def contentColumn? (line : Text) : Option Nat :=
  (scan? line).map fun (_, rest) => line.length - rest.length

/-- The line of an item, with one space between its parts. -/
def render (item : ListItem) : Text :=
  Text.spaces item.indent ++ item.bullet.render ++ [' ']
    ++ (match item.checkbox with
      | some state => state.render ++ [' ']
      | none => [])
    ++ item.content

/-- The empty item that follows: the next marker, and an empty box if there is a box. -/
def sibling (item : ListItem) : ListItem where
  indent := item.indent
  bullet := item.bullet.next
  checkbox := item.checkbox.map fun _ => .empty
  content := []

end ListItem

end Outliner
