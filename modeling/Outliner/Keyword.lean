import Outliner.Error
import Outliner.Lines

/-!
# Outliner — keywords

The words that state where a heading stands, such as `TODO` and `DONE`: an ordered sequence, the
states of open work before the bar and the finished ones after it.

* `Keywords.parse` — from a sequence such as `TODO(t) NEXT | DONE`. What follows an opening
  parenthesis in a word is a shortcut key and is dropped. Without a bar the last word alone is a
  finished state.
* `Keywords.render` — the sequence as it is written.
* `Keywords.next?` — the cycle none, first, …, last, none.
* `Keywords.ofDirective?`, `Keywords.ofLines?` — the sequence that a line `#+TODO: …` declares.
-/

namespace Outliner

/-- A sequence of heading states. -/
structure Keywords where
  active : List Text
  done : List Text
deriving DecidableEq, Repr

namespace Keywords

/-- The sequence in force where none is given. -/
def standard : Keywords :=
  ⟨["TODO".toList], ["DONE".toList]⟩

/-- All states, in order. -/
def all (k : Keywords) : List Text :=
  k.active ++ k.done

/-- The state that follows the current one in the cycle. A word that is no state counts as none. -/
def next? (k : Keywords) (current : Option Text) : Option Text :=
  match current.bind fun word => k.all.findIdx? (· == word) with
  | some i => k.all[i + 1]?
  | none => k.all.head?

/-! ## The written form -/

/-- A word of a sequence without its shortcut key. -/
def dropShortcut (word : Text) : Text :=
  word.takeWhile (· != '(')

/-- The states that a side of the bar lists. -/
def states (side : Text) : List Text :=
  side.words.map dropShortcut

/-- Read a keyword sequence. -/
def parse (sequence : Text) : Except Error Keywords :=
  match sequence.cutAt ['|'] with
  | some (active, done) =>
    let k : Keywords := ⟨states active, states done⟩
    if k.all.isEmpty then .error .emptyKeywordSequence else .ok k
  | none =>
    match (states sequence).getLast? with
    | some last => .ok ⟨(states sequence).dropLast, [last]⟩
    | none => .error .emptyKeywordSequence

/-- The sequence in writing. -/
def render (k : Keywords) : Text :=
  List.intercalate [' '] k.active ++ " | ".toList ++ List.intercalate [' '] k.done

/-! ## Directives -/

/-- The keys of the directives that declare a sequence. -/
def directiveKeys : List Text :=
  ["TODO".toList, "SEQ_TODO".toList, "TYP_TODO".toList]

/-- The sequence that a line declares, if it is a directive `#+KEY: sequence`. -/
def ofDirective? (line : Text) : Option Keywords := do
  let body ← ['#', '+'].isPrefixOf? line.trim
  let (key, sequence) ← Text.cutAt body [':']
  if directiveKeys.contains (Text.asciiUpper key) then (parse sequence).toOption else none

/-- The sequence that the first such directive of a buffer declares. -/
def ofLines? (lines : Lines) : Option Keywords :=
  lines.findSome? ofDirective?

end Keywords

end Outliner
