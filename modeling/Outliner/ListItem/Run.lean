import Outliner.Config
import Outliner.ListItem.Extent

/-!
# Outliner — runs of sibling items

Items of one indentation form a run: between two of them stand only lines that are indented further,
and fewer blank lines in a row than the limit. The numbers of an ordered run count from one.

* `ListItem.RunLine`, `ListItem.runLine` — what a line means to a run;
* `ListItem.walk`, `ListItem.walkUp`, `ListItem.walkDown` — the members that a walk over lines
  meets, and why it stops;
* `ListItem.run` — the run that an item belongs to;
* `ListItem.renumber`, `ListItem.renumberAround?` — the edits that make a run count from one, as it
  is and with an item to be put into it.
-/

namespace Outliner

namespace ListItem

/-! ## Walking along a run -/

/-- Why a walk along a run stopped. -/
inductive RunExit where
  /-- As many blank lines in a row as the limit allows for. -/
  | blankRun
  | heading
  /-- An item that is indented less: the level above. -/
  | outdent
  /-- Other text that is not indented further ends the list. -/
  | paragraph
  | endOfDocument
deriving DecidableEq, Repr

/-- What a line means to a run. -/
inductive RunLine where
  | blank
  | member
  | nested
  | stop (exit : RunExit)
deriving DecidableEq, Repr

/-- What a line means to a run at the given indentation. -/
def runLine (indent : Nat) (line : Text) : RunLine :=
  if line.isBlankLine then .blank
  else if Heading.levelOf line > 0 then .stop .heading
  else match parse? line with
    | some item =>
      if item.indent = indent then .member
      else if indent < item.indent then .nested
      else .stop .outdent
    | none => if indent < line.indent then .nested else .stop .paragraph

/-- The members that a walk over numbered lines meets; `blanks` blank lines in a row come before
them. -/
def walk (limit indent blanks : Nat) : List (Text × Nat) → List Nat × RunExit
  | [] => ([], .endOfDocument)
  | (line, n) :: rest =>
    match runLine indent line with
    | .blank => if limit ≤ blanks + 1 then ([], .blankRun) else walk limit indent (blanks + 1) rest
    | .member =>
      let (members, exit) := walk limit indent 0 rest
      (n :: members, exit)
    | .nested => walk limit indent 0 rest
    | .stop exit => ([], exit)

/-- The walk upward from line `n`. Lines that are missing between the last one and `n` are blank. -/
def walkUp (limit indent : Nat) (lines : Lines) (n : Nat) : List Nat × RunExit :=
  let missing := n - lines.length
  if 0 < missing ∧ limit ≤ missing then ([], .blankRun)
  else walk limit indent missing (lines.above n)

/-- The walk downward from line `n`. -/
def walkDown (limit indent : Nat) (lines : Lines) (n : Nat) : List Nat × RunExit :=
  walk limit indent 0 (lines.onward (n + 1))

/-- The lines of the run that line `n` belongs to, in order: the walk upward finds the first, and a
walk downward from there finds the others. -/
def run (config : Config) (lines : Lines) (n indent : Nat) : List Nat :=
  let limit := config.blankRunLimit.toNat
  let first := (walkUp limit indent lines n).1.getLast?.getD n
  first :: (walkDown limit indent lines first).1

/-! ## Numbers -/

/-- The edit that gives the ordered item on line `n` a number; none when it has that number. -/
def numberEdit? (lines : Lines) (n number : Nat) : Option Edit := do
  let line := lines.lineAt n
  let item ← parse? line
  let old ← item.bullet.number?
  if old.toNat = number then none
  else
    let digits := ((line.drop item.indent).takeWhile Char.isDigit).length
    some ⟨.onLine n item.indent (item.indent + digits), Text.ofNat number⟩

/-- The edits that number the given lines upward from `first`. -/
def numberEdits (lines : Lines) (members : List Nat) (first : Nat) : List Edit :=
  (members.zipIdx first).filterMap fun (n, number) => numberEdit? lines n number

/-- The edits that number the run of the ordered item on line `n` from one. -/
def renumber (config : Config) (lines : Lines) (n : Nat) : List Edit :=
  match parse? (lines.lineAt n) with
  | some item =>
    if item.bullet.isOrdered then numberEdits lines (run config lines n item.indent) 1 else []
  | none => []

/-- The number of an item that is to be put before line `before` into the run of the ordered item on
line `n`, and the edits that number the other members around it. -/
def renumberAround? (config : Config) (lines : Lines) (n before : Nat) :
    Option (Nat × List Edit) := do
  let item ← parse? (lines.lineAt n)
  if item.bullet.isOrdered then
    let members := run config lines n item.indent
    let above := members.filter (· < before)
    let below := members.filter (before ≤ ·)
    let number := above.length + 1
    some (number, numberEdits lines above 1 ++ numberEdits lines below (number + 1))
  else none

end ListItem

end Outliner
