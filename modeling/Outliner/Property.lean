import Outliner.Config
import Outliner.Error
import Outliner.Heading

/-!
# Outliner — properties

A heading can carry properties. They stand below it in a drawer: a line `:PROPERTIES:`, entries
`:KEY: value`, and a line `:END:`.

* `Property`, `Property.parse?`, `Property.render` — an entry line and its parts;
* `Drawer`, `Drawer.below?`, `Drawer.holding?` — the drawer of a heading, and the drawer around a
  line;
* `Drawer.find?`, `Drawer.properties` — looking up one key, and listing all of them;
* `Property.get?` — the value of a heading's property.

A key is looked up without regard to the case of ASCII letters, and listed in full upper case.

How far below its heading a drawer may start is a setting. Where the search would end at a line
whose number does not fit in a machine word, the request is broken off.
-/

namespace Outliner

/-! ## Entry lines -/

/-- The parts of an entry line. -/
structure Property where
  indent : Nat
  key : Text
  value : Text
deriving DecidableEq, Repr

/-- The line opens a drawer. -/
def Drawer.isStart (line : Text) : Bool :=
  line.trim.sameLetters ":PROPERTIES:".toList

/-- The line closes a drawer. -/
def Drawer.isEnd (line : Text) : Bool :=
  line.trim.sameLetters ":END:".toList

namespace Property

/-- A character of a key. -/
def isKeyChar (c : Char) : Bool :=
  !Text.isBlank c && c != ':'

/-- Read an entry line. The two marker lines are none. -/
def parse? (line : Text) : Option Property :=
  if Drawer.isStart line ∨ Drawer.isEnd line then none
  else match line.dropIndent with
    | ':' :: t =>
      let key := t.takeWhile isKeyChar
      match t.dropWhile isKeyChar with
      | ':' :: rest =>
        if key ≠ [] ∧ Text.atGap rest then some ⟨line.indent, key, Text.trim rest⟩ else none
      | _ => none
    | _ => none

/-- The line of an entry; without a value it ends after the key. -/
def render (p : Property) : Text :=
  Text.spaces p.indent ++ ':' :: p.key ++ [':']
    ++ (if p.value.isEmpty then [] else ' ' :: p.value)

end Property

/-! ## Drawers -/

/-- The lines of the two markers of a drawer. -/
structure Drawer where
  start : Nat
  stop : Nat
deriving DecidableEq, Repr

namespace Drawer

/-- The first closing marker from line `n` on, unless a heading comes before it. -/
def closing? (lines : Lines) (n : Nat) : Option Nat :=
  (((lines.drop n).takeWhile Heading.isBody).findIdx? isEnd).map (n + ·)

/-- The drawer below line `n` that starts in front of line `bound`. It has to close before the next
heading. -/
def before? (bound : Nat) (lines : Lines) (n : Nat) : Option Drawer := do
  let searched := ((lines.take bound).drop (n + 1)).takeWhile Heading.isBody
  let start := n + 1 + (← searched.findIdx? isStart)
  let stop ← closing? lines (start + 1)
  some ⟨start, stop⟩

/-- The number of the first line that the search for a drawer below line `n` leaves out. The sum is
taken in machine words, and has to fit in one. -/
def searchBound (config : Config) (n : Nat) : Except Fault Nat :=
  let bound := n + 1 + config.drawerScanLimit.toNat
  if bound < UInt64.size then .ok bound else .error .overflow

/-- The drawer of the heading on line `n`. It has to start within the number of lines that the
settings give, and to close before the next heading. -/
def below? (config : Config) (lines : Lines) (n : Nat) : Except Fault (Option Drawer) := do
  return before? (← searchBound config n) lines n

/-- The drawer that is open after the given numbered lines, if `current` is open before them. -/
def openAfter (current : Option Nat) : List (Text × Nat) → Option Nat
  | [] => current
  | (line, n) :: rest =>
    if Heading.levelOf line > 0 ∨ isEnd line then openAfter none rest
    else if isStart line then openAfter (some n) rest
    else openAfter current rest

/-- The closed drawer that holds line `n` between its markers or as its closing one. -/
def holding? (lines : Lines) (n : Nat) : Option Drawer :=
  if Heading.levelOf (lines.lineAt n) > 0 then none
  else do
    let start ← openAfter none (lines.numbered.take n)
    let stop ← closing? lines n
    some ⟨start, stop⟩

/-- The numbered lines strictly between the markers. -/
def interior (lines : Lines) (d : Drawer) : List (Text × Nat) :=
  (lines.numbered.take d.stop).drop (d.start + 1)

/-- The first entry for a key, with its line. -/
def find? (lines : Lines) (d : Drawer) (key : Text) : Option (Nat × Property) :=
  (d.interior lines).findSome? fun (line, n) =>
    match Property.parse? line with
    | some p => if p.key.sameLetters key then some (n, p) else none
    | none => none

/-- Give a key a value in a list: the first place of the key stays, the last value counts. -/
def record (key value : Text) : List (Text × Text) → List (Text × Text)
  | [] => [(key, value)]
  | (k, v) :: rest => if k = key then (key, value) :: rest else (k, v) :: record key value rest

/-- All entries, by their keys in upper case. -/
def properties (lines : Lines) (d : Drawer) : List (Text × Text) :=
  (d.interior lines).foldl
    (fun found (line, _) => match Property.parse? line with
      | some p => record p.key.upper p.value found
      | none => found)
    []

end Drawer

/-! ## Lookup -/

/-- The value of a property of the heading on line `n`. -/
def Property.get? (config : Config) (lines : Lines) (n : Nat) (key : Text) :
    Except Fault (Option Text) := do
  match ← Drawer.below? config lines n with
  | some drawer => return (drawer.find? lines key).map (·.2.value)
  | none => return none

end Outliner
