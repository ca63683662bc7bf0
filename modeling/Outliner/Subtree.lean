import Outliner.Config
import Outliner.Heading
import Outliner.Position

/-!
# Outliner — subtrees

A heading owns the lines below it up to the next heading of its level or a higher one, that is, one
with as many stars or fewer.

* `Heading.subtreeExit`, `Heading.subtreeEnd` — where a subtree ends, and why there;
* `Heading.enclosing?` — the nearest heading whose subtree holds a line;
* `Heading.shiftEdits` — every heading of a subtree moved by one level;
* `Heading.cycleEdit?` — the keyword of a heading replaced by the next one of the cycle.
-/

namespace Outliner

/-- Towards the margin or away from it: promotion and demotion, outdenting and indenting. -/
inductive Shift where
  | outward
  | inward
deriving DecidableEq, Repr

namespace Heading

/-! ## Extents -/

/-- The line is a heading of the given level or a higher one. -/
def closes (level : Nat) (line : Text) : Bool :=
  0 < levelOf line && levelOf line ≤ level

/-- Why the search for the end of a subtree stopped. -/
inductive SubtreeExit where
  /-- The heading on this line starts the next subtree. -/
  | nextHeading (line : Nat)
  /-- There are no more lines. -/
  | endOfDocument
deriving DecidableEq, Repr

/-- Where the search below line `n` for a heading of the given level or a higher one stops. -/
def subtreeExit (lines : Lines) (n level : Nat) : SubtreeExit :=
  match (lines.drop (n + 1)).findIdx? (closes level) with
  | some i => .nextHeading (n + 1 + i)
  | none => .endOfDocument

/-- The last line of the subtree of line `n`. A line that is no heading is a subtree of its own. -/
def subtreeEnd (lines : Lines) (n : Nat) : Nat :=
  let level := levelOf (lines.lineAt n)
  if level = 0 then n
  else match subtreeExit lines n level with
    | .nextHeading next => next - 1
    | .endOfDocument => max lines.last n

/-- The last line from `first` to `last` that is not blank; `first` when all are. -/
def lastContent (lines : Lines) (first last : Nat) : Nat :=
  let block := (lines.take (last + 1)).drop first
  first + ((block.reverse.dropWhile Text.isBlankLine).length - 1)

/-- The nearest heading at or above line `n` whose subtree holds line `n`, with its line. -/
def enclosing? (keywords : Keywords) (lines : Lines) (n : Nat) : Option (Nat × Heading) :=
  (lines.above (min n lines.last + 1)).findSome? fun (line, m) => do
    let heading ← parse? keywords line
    if m = n ∨ n ≤ subtreeEnd lines m then some (m, heading) else none

/-! ## Edits -/

/-- The level that a heading moves to, held at the floor from below. The floor is read as a signed
word, so that from 2 ^ 63 on it holds nothing. -/
def shiftedLevel (floor : UInt64) (shift : Shift) (level : Nat) : Nat :=
  let moved : Int := match shift with
    | .outward => level - 1
    | .inward => level + 1
  (max moved floor.toInt64.toInt).toNat

/-- The edits that move every heading in the subtree of line `n` by one level. None are made for a
line that is no heading, and none outward for a subtree whose root is at the floor. -/
def shiftEdits (config : Config) (lines : Lines) (n : Nat) (shift : Shift) : List Edit :=
  let root := levelOf (lines.lineAt n)
  let floor := max config.minLevel 1
  if root = 0 ∨ shift = .outward ∧ root ≤ floor.toNat then []
  else
    ((lines.onward n).take (subtreeEnd lines n + 1 - n)).filterMap fun (line, m) =>
      let level := levelOf line
      let target := shiftedLevel floor shift level
      if level = 0 ∨ target = level then none
      else some ⟨.onLine m 0 level, List.replicate target '*'⟩

/-- The edit that gives the heading of line `n` the next keyword of the cycle: it puts the keyword
in, replaces it, or takes it out with the gap after it. -/
def cycleEdit? (keywords : Keywords) (lines : Lines) (n : Nat) : Option Edit := do
  let line := lines.lineAt n
  let heading ← parse? keywords line
  let slot := heading.level + Text.indent (line.drop heading.level)
  match heading.keyword, keywords.next? heading.keyword with
  | none, none => none
  | none, some word => some (.insert ⟨n, slot⟩ (word ++ [' ']))
  | some current, some word => some ⟨.onLine n slot (slot + current.length), word⟩
  | some current, none =>
    let gap := Text.indent (line.drop (slot + current.length))
    some (.delete (.onLine n slot (slot + current.length + gap)))

end Heading

end Outliner
