import Outliner.Command
import Outliner.Context
import Outliner.Editor.Cursor
import Outliner.ListItem.Edits

/-!
# Outliner — what a command means

A command is planned against a snapshot of the lines: from the context of the cursor follow the
edits and the place of the cursor after them. The buffer is not touched.

* `Plan.onHeading`, `Plan.onItem`, `Plan.onTable`, `Plan.onDrawer`, `Plan.onBlock`, `Plan.onText` —
  the meaning of a command in each kind of context;
* `Plan.elsewhere` — the one command that has a meaning everywhere: cycling the keyword of the
  enclosing heading;
* `Plan.ofCommand` — the plan for a command at a place.
-/

namespace Outliner.Plan

/-! ## Shared steps -/

/-- Break the line at a place. -/
def lineBreak (p : Position) : Plan :=
  .apply [.insert p ['\n']] ⟨p.line + 1, 0⟩

/-- Take out the text right of the cursor with the white space before it, but nothing left of the
column `floor`. -/
def cutTail (line : Text) (p : Position) (floor : Nat) : Edit :=
  let kept := (Text.trimEnd (line.take p.column)).length
  .delete (.onLine p.line (min (max kept floor) p.column) line.length)

/-- The trimmed text right of the cursor. -/
def tailAfter (line : Text) (p : Position) : Text :=
  Text.trim (line.drop p.column)

/-- The line of a heading with a title and nothing else. -/
def headingLine (level : Nat) (title : Text) : Text :=
  (Heading.plain level title).render

/-- Cycle the keyword of the heading on line `n`. -/
def cycleKeyword (config : Config) (lines : Lines) (p : Position) (n : Nat) : Plan :=
  .ofEdits (Heading.cycleEdit? config.keywords lines n).toList p

/-- The commands that mean the same in every context. -/
def elsewhere (config : Config) (lines : Lines) (p : Position) (command : Command) : Plan :=
  match command with
  | .cycleKeyword =>
    match Heading.enclosing? config.keywords lines p.line with
    | some (n, _) => cycleKeyword config lines p n
    | none => .unchanged
  | _ => .unchanged

/-! ## Headings -/

/-- The line after the last content of the subtree of line `n`. -/
def afterSubtree (lines : Lines) (n : Nat) : Nat :=
  Heading.lastContent lines n (Heading.subtreeEnd lines n) + 1

/-- Split a heading: from among its stars, a new one opens above it; otherwise the text right of the
cursor becomes the title of a new heading after the subtree. -/
def splitHeading (lines : Lines) (p : Position) (n level : Nat) : Plan :=
  let line := lines.lineAt n
  if p.column ≤ level then
    .apply [lines.insertion n [headingLine level []]] ⟨n, level + 1⟩
  else
    let below := afterSubtree lines n
    .apply
      [cutTail line p (level + 1), lines.insertion below [headingLine level (tailAfter line p)]]
      ⟨below, level + 1⟩

/-- A command on the heading line `n` of the given level. -/
def onHeading (config : Config) (lines : Lines) (p : Position) (n level : Nat) (command : Command) :
    Plan :=
  match command with
  | .insertSibling _ =>
    let below := afterSubtree lines n
    .apply [lines.insertion below [headingLine level []]] ⟨below, level + 1⟩
  | .split => splitHeading lines p n level
  | .promote => .ofEdits (Heading.shiftEdits config lines n .outward) p
  | .demote => .ofEdits (Heading.shiftEdits config lines n .inward) p
  | .foldOrIndent =>
    let last := Heading.subtreeEnd lines n
    if n < last then .fold ⟨n, last⟩ else .unchanged
  | .cycleKeyword => cycleKeyword config lines p n
  | _ => .unchanged

/-! ## List items -/

/-- The line of an item that follows the item on line `n` and is put before line `before`, and the
edits that keep the numbers of an ordered run in step. -/
def siblingLine (config : Config) (lines : Lines) (n : Nat) (item : ListItem) (before : Nat)
    (content : Text) : List Edit × Text :=
  let sibling := item.sibling
  match ListItem.renumberAround? config lines n before with
  | some (number, edits) =>
    let numbered := { sibling with bullet := sibling.bullet.withNumber (UInt64.ofNat number) }
    (edits, numbered.render ++ content)
  | none => ([], sibling.render ++ content)

/-- Put an empty item before line `before`, with the cursor at its end. -/
def insertItem (config : Config) (lines : Lines) (n : Nat) (item : ListItem) (before : Nat) :
    Plan :=
  let (edits, line) := siblingLine config lines n item before []
  .apply (edits ++ [lines.insertion before [line]]) ⟨before, line.length⟩

/-- Split the item on line `n`: left of its content, an empty item opens above it; otherwise the
text right of the cursor becomes the content of a new item, below the line of the item, or below the
whole item when the cursor is in text that is nested in it. -/
def splitItem (config : Config) (lines : Lines) (p : Position) (n : Nat) (item : ListItem) : Plan :=
  let line := lines.lineAt p.line
  let nested := p.line ≠ n
  let contentColumn := if nested then line.indent else (ListItem.contentColumn? line).getD 0
  if ¬nested ∧ p.column ≤ contentColumn then insertItem config lines n item n
  else
    let below := if nested then ListItem.extentEnd lines n item.indent + 1 else n + 1
    let tail := tailAfter line p
    let (edits, new) := siblingLine config lines n item below tail
    .apply (edits ++ [cutTail line p contentColumn, lines.insertion below [new]])
      ⟨below, new.length - tail.length⟩

/-- A command in the item on line `n`, or in text that is nested in it. -/
def onItem (config : Config) (lines : Lines) (p : Position) (n : Nat) (item : ListItem)
    (command : Command) : Plan :=
  match command with
  | .insertSibling afterContent =>
    let below :=
      if afterContent ∨ p.line ≠ n then ListItem.extentEnd lines n item.indent + 1 else n + 1
    insertItem config lines n item below
  | .split => splitItem config lines p n item
  | .promote => .ofEdits (ListItem.shiftEdits config lines n .outward) p
  | .demote => .ofEdits (ListItem.shiftEdits config lines n .inward) p
  | .foldOrIndent =>
    let last := ListItem.extentEnd lines n item.indent
    if item.content = [] ∧ !ListItem.hasChildren lines n item.indent then
      .ofEdits (ListItem.shiftEdits config lines n .inward) p
    else if n < last then .fold ⟨n, last⟩
    else .unchanged
  | .toggleCheckbox => .ofEdits (ListItem.toggleEdit? lines n).toList p
  | .renumber => .ofEdits (ListItem.renumber config lines n) p
  | _ => elsewhere config lines p command

/-! ## Tables -/

/-- Move the cursor into the first of the given rows that is no rule, at the cell that is picked. -/
def intoRow (rows : List (Text × Nat)) (pick : Text → Option Nat) : Plan :=
  match rows.find? (!Table.isRule ·.1) with
  | some (line, n) => match pick line with
    | some column => .apply [] ⟨n, column⟩
    | none => .unchanged
  | none => .unchanged

/-- Move to the next cell, across rows. -/
def nextCell (lines : Lines) (p : Position) : Plan :=
  match Table.nextCell? (lines.lineAt p.line) p.column with
  | some column => .apply [] ⟨p.line, column⟩
  | none => intoRow ((lines.onward (p.line + 1)).takeWhile (Table.isRow ·.1)) Table.firstCell?

/-- Move to the previous cell, across rows. -/
def previousCell (lines : Lines) (p : Position) : Plan :=
  match Table.previousCell? (lines.lineAt p.line) p.column with
  | some column => .apply [] ⟨p.line, column⟩
  | none => intoRow ((lines.above p.line).takeWhile (Table.isRow ·.1)) Table.lastCell?

/-- Put in an empty row with the layout of the row under the cursor. -/
def insertRow (lines : Lines) (p : Position) : Plan :=
  let row := Table.blankLike (lines.lineAt p.line)
  .apply [lines.insertion (p.line + 1) [row]] ⟨p.line + 1, (Table.firstCell? row).getD 0⟩

/-- A command in a row of a table. -/
def onTable (config : Config) (lines : Lines) (p : Position) (command : Command) : Plan :=
  match command with
  | .insertSibling _ | .split => insertRow lines p
  | .nextCell | .foldOrIndent => nextCell lines p
  | .previousCell => previousCell lines p
  | _ => elsewhere config lines p command

/-! ## Drawers, blocks and text -/

/-- A command between the markers of a drawer: a new line opens an entry. -/
def onDrawer (config : Config) (lines : Lines) (p : Position) (command : Command) : Plan :=
  match command with
  | .insertSibling _ | .split =>
    let indent := (lines.lineAt p.line).indent
    .apply [lines.insertion (p.line + 1) [Text.spaces indent ++ [':']]] ⟨p.line + 1, indent + 1⟩
  | _ => elsewhere config lines p command

/-- A command on a fence, in a block, or on a marker of a drawer. -/
def onBlock (config : Config) (lines : Lines) (p : Position) (command : Command) : Plan :=
  match command with
  | .insertSibling _ | .split => lineBreak p
  | _ => elsewhere config lines p command

/-- A command in plain text: below a heading, a new element is a heading of its level. -/
def onText (config : Config) (lines : Lines) (p : Position) (command : Command) : Plan :=
  match command with
  | .insertSibling _ =>
    match Heading.enclosing? config.keywords lines p.line with
    | some (_, h) =>
      .apply [lines.insertion (p.line + 1) [headingLine h.level []]] ⟨p.line + 1, h.level + 1⟩
    | none => lineBreak p
  | .split => lineBreak p
  | _ => elsewhere config lines p command

/-! ## Every context -/

/-- The plan for a command in a given context. -/
def inContext (config : Config) (lines : Lines) (p : Position) (context : Context)
    (command : Command) : Plan :=
  match context with
  | .heading n h => onHeading config lines p n h.level command
  | .listItem n item | .checkbox n item => onItem config lines p n item command
  | .table .. => onTable config lines p command
  | .property .. | .drawer .. => onDrawer config lines p command
  | .text _ => onText config lines p command
  | .blockHeader .. | .block .. | .drawerHeader _ | .drawerEnd _ => onBlock config lines p command

/-- The plan for a command at a place; one outside the buffer is moved to the nearest inside. -/
def ofCommand (config : Config) (lines : Lines) (p : Position) (command : Command) : Plan :=
  let p := lines.clamp p
  inContext config lines p (.classify config lines p) command

end Outliner.Plan
