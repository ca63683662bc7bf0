import Outliner.Block
import Outliner.ListItem.Run
import Outliner.Property
import Outliner.Table

/-!
# Outliner — the context of a cursor

Exactly one structure holds a cursor. Which one depends on the line it is on and, for plain text, on
the lines above and below.

* `Context` — the structures, each with the line that owns it: for text nested in a list item that
  is the line of the item, for all others the line of the cursor;
* `Context.OwnerExit`, `Context.ownerOf` — the search upward for the item that owns a line of text;
* `Context.classify`, `Context.ofPosition` — the context of a place.
-/

namespace Outliner

/-- The structure that holds a cursor. -/
inductive Context where
  | heading (line : Nat) (heading : Heading)
  | listItem (line : Nat) (item : ListItem)
  /-- A list item with a checkbox. -/
  | checkbox (line : Nat) (item : ListItem)
  /-- A row of a table, and the cell under the cursor if there is one. -/
  | table (line : Nat) (cells : List Text) (column : Option Nat)
  /-- An opening fence. -/
  | blockHeader (line : Nat) (name parameters : Text)
  /-- A line below the opening fence on line `fence`. -/
  | block (line fence : Nat)
  /-- A line that opens a drawer. -/
  | drawerHeader (line : Nat)
  /-- A line that closes a drawer. -/
  | drawerEnd (line : Nat)
  /-- An entry of a drawer. -/
  | property (line : Nat) (drawer : Drawer) (entry : Property)
  /-- Another line of a drawer. -/
  | drawer (line : Nat) (drawer : Drawer)
  | text (line : Nat)
deriving DecidableEq, Repr

namespace Context

/-- The line that owns the structure. -/
def line : Context → Nat
  | heading n _ | listItem n _ | checkbox n _ | table n _ _ | blockHeader n _ _ | block n _
  | drawerHeader n | drawerEnd n | property n _ _ | drawer n _ | text n => n

/-! ## Text nested in a list item -/

/-- Why the search upward for the owner of a line of text stopped. -/
inductive OwnerExit where
  /-- The item on this line owns the text. -/
  | owner (line : Nat) (item : ListItem)
  /-- As many blank lines in a row as the limit allows for. -/
  | blankRun
  | heading
  /-- The first item met is not indented less than the text. -/
  | notAncestor
  /-- An opening fence that no closing fence below it matches. -/
  | insideBlock
  /-- Text in column zero, which ends every list above it. -/
  | unindented
  | startOfDocument
deriving DecidableEq, Repr

/-- Search numbered lines, nearest first, for the owner of text at the indentation `floor`. The
search has just passed `blanks` blank lines in a row, and `fences` closing fences of blocks whose
opening fences are still ahead. -/
def searchOwner (limit floor blanks fences : Nat) : List (Text × Nat) → OwnerExit
  | [] => .startOfDocument
  | (line, n) :: rest =>
    if line.isBlankLine then
      if limit ≤ blanks + 1 then .blankRun else searchOwner limit floor (blanks + 1) fences rest
    else if Heading.levelOf line > 0 then .heading
    else if Block.isEnd line then searchOwner limit floor 0 (fences + 1) rest
    else if (Block.parseBegin? line).isSome then
      match fences with
      | 0 => .insideBlock
      | fences + 1 => searchOwner limit floor 0 fences rest
    -- Inside a block nothing counts but its opening fence.
    else if fences > 0 then searchOwner limit floor 0 fences rest
    else match ListItem.parse? line with
      | some item => if item.indent < floor then .owner n item else .notAncestor
      | none =>
        let floor := min floor line.indent
        if floor = 0 then .unindented else searchOwner limit floor 0 0 rest

/-- The owner of the text on line `n`. Lines that are missing between the last one and `n` are
blank. -/
def ownerOf (config : Config) (lines : Lines) (n : Nat) : OwnerExit :=
  let limit := config.blankRunLimit.toNat
  let missing := n - lines.length
  if 0 < missing ∧ limit ≤ missing then .blankRun
  else searchOwner limit (lines.lineAt n).indent missing 0 (lines.above n)

/-! ## Classification -/

/-- The line has a structure of its own, so it is not text that a list item can own. -/
def isStructural (line : Text) : Bool :=
  Heading.levelOf line > 0 || (ListItem.parse? line).isSome || Table.isRow line
    || Drawer.isStart line || Drawer.isEnd line || (Block.parseBegin? line).isSome
    || Block.isEnd line

/-- The context of an item. -/
def ofItem (n : Nat) (item : ListItem) : Context :=
  if item.checkbox.isSome then checkbox n item else listItem n item

/-- The item that owns the line from above, if the line is plain text. -/
def ownerContext? (config : Config) (lines : Lines) (n : Nat) : Option Context :=
  let text := lines.lineAt n
  if text.isBlankLine ∨ isStructural text then none
  else match ownerOf config lines n with
    | .owner owner item => some (ofItem owner item)
    | _ => none

/-- The context of a line that neither is nor belongs to a heading, a fence or a list item. -/
def classifyRest (lines : Lines) (p : Position) : Context :=
  let n := p.line
  let line := lines.lineAt n
  if Table.isRow line then table n (Table.cells line) (Table.cellIndex? line p.column)
  else if Drawer.isStart line then drawerHeader n
  else if Drawer.isEnd line then drawerEnd n
  else match Drawer.holding? lines n, Property.parse? line with
    | some d, some entry => property n d entry
    | some d, none => drawer n d
    | none, _ => match Block.holding? lines n with
      | some fence => block n fence
      | none => text n

/-- The context of a place on an existing line. -/
def classify (config : Config) (lines : Lines) (p : Position) : Context :=
  let n := p.line
  let line := lines.lineAt n
  match Heading.parse? config.keywords line with
  | some h => heading n h
  | none => match Block.parseBegin? line with
    | some (name, parameters) => blockHeader n name parameters
    | none => match ListItem.parse? line with
      | some item => ofItem n item
      | none => (ownerContext? config lines n).getD (classifyRest lines p)

/-- The context of a place; one outside the buffer is moved to the nearest inside. -/
def ofPosition (config : Config) (lines : Lines) (p : Position) : Context :=
  classify config lines (lines.clamp p)

end Context

end Outliner
