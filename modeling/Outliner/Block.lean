import Outliner.Heading
import Outliner.Lines

/-!
# Outliner — blocks

A block is fenced by a line `#+BEGIN_NAME parameters` and a line `#+END_…`. No block crosses a
heading.

* `Block.parseBegin?`, `Block.isEnd` — the fences;
* `Block.holding?` — the opening fence of the block around a line.
-/

namespace Outliner.Block

/-- The text after a mark that opens it, up to the case of ASCII letters. -/
def dropMark? (mark t : Text) : Option Text :=
  if Text.sameLetters (t.take mark.length) mark then some (t.drop mark.length) else none

/-- The name, in upper case, and the parameters of an opening fence. -/
def parseBegin? (line : Text) : Option (Text × Text) := do
  let t ← dropMark? "#+BEGIN_".toList line.dropIndent
  let (name, parameters) := Text.firstWord t
  if name = [] then none else some (Text.upper name, Text.trim parameters)

/-- The line is a closing fence. -/
def isEnd (line : Text) : Bool :=
  (dropMark? "#+END_".toList line.trimStart).isSome

/-- The opening fence that is open after the given numbered lines, if `current` is open before
them. -/
def openAfter (current : Option Nat) : List (Text × Nat) → Option Nat
  | [] => current
  | (line, n) :: rest =>
    if Heading.levelOf line > 0 then openAfter none rest
    else match current with
      | some fence => openAfter (if isEnd line then none else some fence) rest
      | none => openAfter (if (parseBegin? line).isSome then some n else none) rest

/-- The opening fence of the closed block that holds line `n` below it or as its closing fence. -/
def holding? (lines : Lines) (n : Nat) : Option Nat := do
  let fence ← openAfter none (lines.numbered.take n)
  if ((lines.drop n).takeWhile Heading.isBody).any isEnd then some fence else none

end Outliner.Block
