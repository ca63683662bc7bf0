import Outliner.Config.Reader
import Outliner.Editor
import Outliner.Property.Update

/-!
# Outliner — sessions

A session is a buffer in use: a host, the settings, a cursor and a supply of names, carried from one
step to the next.

* `Session`, `Session.Step`, `Session.Answer` — the state, what can be asked, what is answered;
* `Session.step` — one step;
* `Session.run` — a list of steps, with the answer and the text after each of them.

Only commands and moves change the cursor; the edits of other steps leave it where it is. A step
that breaks off ends the whole run, and then there are no answers at all.
-/

namespace Outliner

/-- A buffer in use. -/
structure Session where
  host : Host
  config : Config
  cursor : Position
  ids : IdSupply

namespace Session

/-- A place given by its line, its column, both or neither; the cursor gives the rest. -/
structure Place where
  line : Option Nat := none
  column : Option Nat := none
deriving DecidableEq, Repr

/-- What can be asked of a session. -/
inductive Step where
  /-- Run a command. -/
  | run (command : Command) (place : Place)
  /-- Move the cursor to the nearest place inside the buffer. -/
  | move (place : Place)
  /-- Apply a batch of edits. -/
  | apply (edits : List Edit)
  /-- Put whole lines before a line. -/
  | insert (line : Nat) (new : List Text)
  /-- Set a property of the heading that encloses a place. -/
  | set (place : Place) (key value : Text)
  /-- Look up a property of the heading that encloses a place. -/
  | get (place : Place) (key : Text)
  /-- Ask for the context of a place. -/
  | context (place : Place)
  /-- Replace the settings by those of a text, with the keywords of a sequence. -/
  | configure (settings sequence : Option Text)
  /-- Take over the keywords that the buffer declares. -/
  | directive
deriving DecidableEq, Repr

/-- What a step answers. -/
inductive Answer where
  | outcome (outcome : Outcome)
  | refused (error : Error)
  | cursor (place : Position)
  | applied (applied : Bool)
  /-- No heading encloses the place. -/
  | noHeading
  /-- The property of the heading on this line was set, if the host took the edits. -/
  | set (heading : Nat) (applied : Bool)
  /-- The property of the heading on this line has this value, if any. -/
  | got (heading : Nat) (value : Option Text)
  | context (context : Context)
  | config (config : Config)
  | keywords (keywords : Keywords)
  /-- The step broke off. -/
  | broken (fault : Fault)
deriving DecidableEq, Repr

/-- The position of a place. -/
def locate (s : Session) (place : Place) : Position :=
  ⟨place.line.getD s.cursor.line, place.column.getD s.cursor.column⟩

/-- The line of the heading that encloses a place. -/
def headingAt? (s : Session) (place : Place) : Option Nat :=
  (Heading.enclosing? s.config.keywords s.host.lines (s.locate place).line).map (·.1)

/-- Offer edits to the host. -/
def offer (s : Session) (edits : List Edit) : Bool × Session :=
  let (applied, host) := s.host.offer edits
  (applied, { s with host })

/-- Run a command. The cursor goes to the place first, and then where the command puts it. -/
def runCommand (s : Session) (command : Command) (place : Place) : Answer × Session :=
  let p := s.locate place
  match execute s.config s.host p command with
  | .ok (.cursor cursor, host) => (.outcome (.cursor cursor), { s with host, cursor })
  | .ok (outcome, host) => (.outcome outcome, { s with host, cursor := p })
  | .error e => (.refused e, { s with cursor := p })

/-- Set a property of the enclosing heading. -/
def setProperty (s : Session) (place : Place) (key value : Text) : Answer × Session :=
  match s.headingAt? place with
  | none => (.noHeading, s)
  | some n =>
    match Property.setEdits s.config s.host.lines n key value s.ids with
    | .error fault => (.broken fault, s)
    | .ok (edits, ids) =>
      let (applied, s) := offer { s with ids } edits
      (.set n applied, s)

/-- Look up a property of the enclosing heading. -/
def getProperty (s : Session) (place : Place) (key : Text) : Answer :=
  match s.headingAt? place with
  | none => .noHeading
  | some n =>
    match Property.get? s.config s.host.lines n key with
    | .error fault => .broken fault
    | .ok value => .got n value

/-- Replace the settings; refused settings leave the old ones in force. -/
def configure (s : Session) (settings sequence : Option Text) : Answer × Session :=
  match Config.choose settings sequence with
  | .ok config => (.config config, { s with config })
  | .error e => (.refused e, s)

/-- One step. -/
def step (s : Session) : Step → Answer × Session
  | .run command place => s.runCommand command place
  | .move place =>
    let cursor := s.host.lines.clamp (s.locate place)
    (.cursor cursor, { s with cursor })
  | .apply edits =>
    let (applied, s) := s.offer edits
    (.applied applied, s)
  | .insert line new =>
    let (applied, s) := s.offer [s.host.lines.insertion line new]
    (.applied applied, s)
  | .set place key value => s.setProperty place key value
  | .get place key => (s.getProperty place key, s)
  | .context place => (.context (.ofPosition s.config s.host.lines (s.locate place)), s)
  | .configure settings sequence => s.configure settings sequence
  | .directive =>
    let keywords := (Keywords.ofLines? s.host.lines).getD s.config.keywords
    (.keywords keywords, { s with config := { s.config with keywords } })

/-- A list of steps: for each its answer and the whole text after it. -/
def run (s : Session) : List Step → Except Fault (List (Answer × Text))
  | [] => .ok []
  | step :: rest =>
    match s.step step with
    | (.broken fault, _) => .error fault
    | (answer, s) => do return (answer, s.host.text) :: (← run s rest)

end Session

end Outliner
