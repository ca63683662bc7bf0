import Outliner.Editor.Plan
import Outliner.Host

/-!
# Outliner — running a command

* `Lines.inBounds` — the places where a command may be given;
* `execute` — plan a command and hand its edits to the host as one batch.
-/

namespace Outliner

/-- The place is on a line of the buffer and within its text. A buffer without lines has the one
place where a text would start. -/
def Lines.inBounds (lines : Lines) (p : Position) : Bool :=
  p.line < max lines.length 1 && p.column ≤ (lines.lineAt p.line).length

/-- Run a command at a place: what is left to do, and the host after it. A plan without edits leaves
the host alone. -/
def execute (config : Config) (host : Host) (p : Position) (command : Command) :
    Except Error (Outcome × Host) :=
  if !host.lines.inBounds p then .error (.outOfBounds p host.lines.length)
  else match Plan.ofCommand config host.lines p command with
    | .apply [] cursor => .ok (.cursor cursor, host)
    | .apply edits cursor => match host.edit? edits with
      | some host => .ok (.cursor cursor, host)
      | none => .error .batchRejected
    | .fold lines => .ok (.fold lines, host)
    | .unchanged => .ok (.unchanged, host)

end Outliner
