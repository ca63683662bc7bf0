import Outliner.CommandLine.Arguments
import Outliner.Config.Reader
import Outliner.Editor
import Outliner.Json.Printer
import Outliner.Property.Update
import Outliner.Report
import Outliner.Text.Quoted

/-!
# Outliner — answering the command line

An invocation is answered from the texts of the files that it names. Nothing is written here: the
answer says what to print and which file gets which text.

* `Failure`, `Failure.message` — why an invocation has no answer;
* `Answer` — the two texts to print, and the file to write;
* `Invocation.settings` — the settings in force: the standard ones, or those of the settings file,
  with the keywords that the edited file declares, and over them those of the command line;
* `Invocation.run` — the answer.
-/

namespace Outliner.CommandLine

/-- How to read a file: its text, or none when there is no such file or it is not UTF-8. -/
abbrev Reader := Text → Option Text

/-! ## Failures -/

/-- Why an invocation has no answer. -/
inductive Failure where
  | unreadable (path : Text)
  | unreadableConfig (path : Text)
  | malformedConfig (path : Text)
  | badKeywords (sequence : Text) (cause : Error)
  /-- A line, counted from one, that a file of so many lines does not have. -/
  | noSuchLine (line lineCount : Nat)
  | columnZero
  | noHeading (line : Nat)
  | notSet (key : Text)
  | refused (command : Command) (path : Text) (cause : Error)
  | notWritten (key path : Text)
  /-- The library broke off. -/
  | broken (fault : Fault)
deriving DecidableEq, Repr

/-- The name of a command in messages. -/
def commandTitle : Command → Text
  | .insertSibling true => "InsertSibling".toList
  | .insertSibling false => "InsertSiblingImmediate".toList
  | .split => "Split".toList
  | .promote => "Promote".toList
  | .demote => "Demote".toList
  | .foldOrIndent => "FoldOrIndent".toList
  | .nextCell => "NextCell".toList
  | .previousCell => "PreviousCell".toList
  | .cycleKeyword => "CycleKeyword".toList
  | .toggleCheckbox => "ToggleCheckbox".toList
  | .renumber => "Renumber".toList

/-- The wording of a failure. A cause follows a colon. -/
def Failure.message : Failure → Text
  | unreadable path => "reading ".toList ++ path.quoted
  | unreadableConfig path => "reading config ".toList ++ path.quoted
  | malformedConfig path => "parsing config ".toList ++ path.quoted
  | badKeywords sequence cause =>
    "parsing --keywords ".toList ++ sequence.quoted ++ ": ".toList ++ cause.message
  | noSuchLine line lineCount =>
    "line ".toList ++ Text.ofNat line ++ " is outside the file (1..=".toList
      ++ Text.ofNat lineCount ++ [')']
  | columnZero => "columns are 1-based".toList
  | noHeading line => "no heading encloses line ".toList ++ Text.ofNat line
  | notSet key => "property ".toList ++ key ++ " is not set".toList
  | refused command path cause =>
    "running ".toList ++ commandTitle command ++ " in ".toList ++ path.quoted ++ ": ".toList
      ++ cause.message
  | notWritten key path => "could not write property ".toList ++ key ++ " in ".toList ++ path.quoted
  | broken fault => fault.message

/-! ## Answers -/

/-- What to print and what to write. -/
structure Answer where
  output : Text
  /-- What goes to the error stream. -/
  notice : Text := []
  /-- The file to write, and its new text. -/
  write : Option (Text × Text) := none
deriving DecidableEq, Repr

/-- An outcome in one line. Lines and columns count from one. -/
def describe : Outcome → Text
  | .cursor p =>
    "cursor ".toList ++ Text.ofNat (p.line + 1) ++ ':' :: Text.ofNat (p.column + 1)
  | .fold lines =>
    "fold ".toList ++ Text.ofNat (lines.first + 1) ++ '-' :: Text.ofNat (lines.last + 1)
  | .unchanged => "unchanged".toList

/-! ## Reading what the request names -/

/-- Read a file to work on. -/
def load (read : Reader) (path : Text) : Except Failure Document :=
  match read path with
  | some t => .ok (.ofText t)
  | none => .error (.unreadable path)

/-- Read the settings file, if one is given. -/
def loadConfig (read : Reader) : Option Text → Except Failure Config
  | none => .ok {}
  | some path => match read path with
    | none => .error (.unreadableConfig path)
    | some t => match Config.read t with
      | .ok config => .ok config
      | .error _ => .error (.malformedConfig path)

/-- The settings in force for a document. -/
def Invocation.settings (i : Invocation) (read : Reader) (d : Document) :
    Except Failure Config := do
  let config ← loadConfig read i.config
  let declared := (Keywords.ofLines? d.lines).getD config.keywords
  match i.keywords with
  | none => return { config with keywords := declared }
  | some sequence => match Keywords.parse sequence with
    | .ok keywords => return { config with keywords }
    | .error e => throw (.badKeywords sequence e)

/-- The line with this number, counted from one. -/
def lineIndex (d : Document) (line : Nat) : Except Failure Nat :=
  if line = 0 ∨ d.lines.length < line then .error (.noSuchLine line d.lines.length)
  else .ok (line - 1)

/-- The place with these numbers, counted from one. Whether the line is long enough is not asked. -/
def cursorAt (d : Document) (line column : Nat) : Except Failure Position := do
  let n ← lineIndex d line
  if column = 0 then throw .columnZero else return ⟨n, column - 1⟩

/-- The heading that encloses a line, counted from one. -/
def headingAt (config : Config) (d : Document) (line : Nat) : Except Failure (Nat × Heading) := do
  match Heading.enclosing? config.keywords d.lines (← lineIndex d line) with
  | some found => return found
  | none => throw (.noHeading line)

/-! ## Requests -/

/-- Tell the context of a place, in one line or as JSON. -/
def tellContext (config : Config) (d : Document) (p : Position) (json : Bool) : Answer :=
  let c := Context.ofPosition config d.lines p
  if json then { output := c.toJson.pretty }
  else { output := c.kind.toList ++ " (line ".toList ++ Text.ofNat (c.line + 1) ++ [')'] }

/-- Tell the lines of the subtree under a heading, and the heading. -/
def tellSubtree (d : Document) (n : Nat) (h : Heading) : Answer :=
  let last := Heading.subtreeEnd d.lines n
  { output := Text.ofNat (n + 1) ++ '-' :: Text.ofNat (last + 1) ++ '\t' :: h.render }

/-- Run a command. In place, the file is written when there is a new cursor, and the outcome is
printed; otherwise the text is printed, and the outcome goes to the error stream. -/
def runCommand (config : Config) (d : Document) (path : Text) (p : Position) (command : Command)
    (inPlace : Bool) : Except Failure Answer :=
  match execute config (.editable d) p command with
  | .error e => .error (.refused command path e)
  | .ok (outcome, host) =>
    if inPlace then
      match outcome with
      | .cursor _ => .ok { output := describe outcome, write := some (path, host.text) }
      | _ => .ok { output := describe outcome }
    else .ok { output := host.text, notice := describe outcome ++ ['\n'] }

/-- Every link of a document, with its line. -/
def allLinks (d : Document) : List (Nat × Link) :=
  d.lines.numbered.flatMap fun (line, n) => (Link.ofLine line).map (n, ·)

/-- A link in one line: where it starts, counted from one, its target and its description. -/
def describeLink (n : Nat) (l : Link) : Text :=
  Text.ofNat (n + 1) ++ ':' :: Text.ofNat (l.start + 1) ++ '\t' :: l.rawTarget
    ++ '\t' :: l.description.getD []

/-- List the links, one a line or as JSON. -/
def tellLinks (d : Document) (json : Bool) : Answer :=
  if json then
    let report := (allLinks d).map fun (n, l) =>
      Json.object (Json.field "line" (.ofNat (n + 1)) :: l.fields)
    { output := (Json.array report).pretty }
  else
    { output := List.intercalate ['\n'] ((allLinks d).map fun (n, l) => describeLink n l) }

/-- Set a property. In place, the file is written; otherwise the text is printed. -/
def setProperty (config : Config) (d : Document) (path : Text) (n : Nat) (key value : Text)
    (ids : IdSupply) (inPlace : Bool) : Except Failure Answer :=
  match Property.setEdits config d.lines n key value ids with
  | .error fault => .error (.broken fault)
  | .ok (edits, _) => match d.edit? edits with
    | none => .error (.notWritten key path)
    | some d =>
      if inPlace then .ok { output := [], write := some (path, d.text) }
      else .ok { output := d.text }

/-- The answer to an invocation. -/
def Invocation.run (i : Invocation) (read : Reader) (ids : IdSupply) : Except Failure Answer :=
  match i.request with
  | .context path line column json => do
    let d ← load read path
    let config ← i.settings read d
    return tellContext config d (← cursorAt d line column) json
  | .subtree path line => do
    let d ← load read path
    let (n, h) ← headingAt (← i.settings read d) d line
    return tellSubtree d n h
  | .edit path line column command inPlace => do
    let d ← load read path
    let config ← i.settings read d
    runCommand config d path (← cursorAt d line column) command inPlace
  | .links path json => do
    return tellLinks (← load read path) json
  | .getProperty path line key => do
    let d ← load read path
    let config ← i.settings read d
    let (n, _) ← headingAt config d line
    match Property.get? config d.lines n key with
    | .ok (some value) => return { output := value }
    | .ok none => throw (.notSet key)
    | .error fault => throw (.broken fault)
  | .setProperty path line key value inPlace => do
    let d ← load read path
    let config ← i.settings read d
    let (n, _) ← headingAt config d line
    setProperty config d path n key value ids inPlace

end Outliner.CommandLine
