import Outliner.Command
import Outliner.Text.Decimal

/-!
# Outliner — command line arguments

The arguments name a request and what it is about. Options and positional arguments mix freely; an
option's value is the next argument or follows an equals sign; after `--` every argument is
positional. Three options belong to all requests and may stand anywhere.

* `Signature`, `Signature.scan?` — what a request accepts, and the arguments sorted by it;
* `Request`, `Invocation` — what can be asked for, and with which general options;
* `Invocation.parse?` — the invocation that arguments state; none when they state none.
-/

namespace Outliner.CommandLine

/-! ## Sorting arguments -/

/-- What is accepted at one point of the command line. -/
structure Signature where
  /-- Options that stand alone. -/
  flags : List Text := []
  /-- Options that take a value. -/
  options : List Text := []
  /-- The number of positional arguments. -/
  positionals : Nat := 0
  /-- The words that lead to another signature. -/
  subcommands : List Text := []

/-- Arguments sorted by a signature. -/
structure Sorted where
  flags : List Text := []
  options : List (Text × Text) := []
  positionals : List Text := []

namespace Sorted

/-- Add a flag; an option may be given only once. -/
def addFlag? (s : Sorted) (name : Text) : Option Sorted :=
  if name ∈ s.flags then none else some { s with flags := name :: s.flags }

/-- Add an option with its value; an option may be given only once. -/
def addOption? (s : Sorted) (name value : Text) : Option Sorted :=
  if (s.options.lookup name).isSome then none
  else some { s with options := (name, value) :: s.options }

/-- Add a positional argument, as long as the signature has room for it. -/
def addPositional? (s : Sorted) (g : Signature) (value : Text) : Option Sorted :=
  if s.positionals.length < g.positionals then
    some { s with positionals := s.positionals ++ [value] }
  else none

/-- The value of an option. -/
def option? (s : Sorted) (name : String) : Option Text :=
  s.options.lookup name.toList

/-- The flag was given. -/
def flag (s : Sorted) (name : String) : Bool :=
  s.flags.contains name.toList

end Sorted

/-- The argument is read as an option, whatever it names. A single hyphen is not. -/
def isOption (arg : Text) : Bool :=
  arg.head? == some '-' && 2 ≤ arg.length

/-- The name of a long option and the value that follows its equals sign. -/
def longOption? (arg : Text) : Option (Text × Option Text) := do
  let body ← ['-', '-'].isPrefixOf? arg
  match Text.cutAt body ['='] with
  | some (name, value) => some (name, some value)
  | none => some (body, none)

namespace Signature

/-- Sort arguments, all of them positional. -/
def scanPositionals? (g : Signature) (s : Sorted) : List Text → Option Sorted
  | [] => some s
  | arg :: rest => do scanPositionals? g (← s.addPositional? g arg) rest

/-- Sort arguments up to a word that leads to another signature; that word and the arguments after
it are left over. With `pending`, the next argument is the value of that option. -/
def scan? (g : Signature) (s : Sorted) (pending : Option Text) :
    List Text → Option (Sorted × Option (Text × List Text))
  | [] => if pending.isSome then none else some (s, none)
  | arg :: rest =>
    match pending with
    | some name =>
      -- The word of a subcommand is a value here, but another option is not.
      if isOption arg then none else do scan? g (← s.addOption? name arg) none rest
    | none =>
      if arg ∈ g.subcommands then some (s, some (arg, rest))
      else if arg = ['-', '-'] then (scanPositionals? g s rest).map fun s => (s, none)
      else match longOption? arg with
        | some (name, value) =>
          -- A flag takes no value, not even an empty one.
          if name ∈ g.flags ∧ value.isNone then do scan? g (← s.addFlag? name) none rest
          else if name ∈ g.options then
            match value with
            | some value => do scan? g (← s.addOption? name value) none rest
            | none => scan? g s (some name) rest
          else none
        | none =>
          if isOption arg then none else do scan? g (← s.addPositional? g arg) none rest

end Signature

/-! ## Requests -/

/-- What can be asked for. Lines and columns count from one. -/
inductive Request where
  /-- Tell the context of a place. -/
  | context (file : Text) (line column : Nat) (json : Bool)
  /-- Tell the subtree that encloses a line. -/
  | subtree (file : Text) (line : Nat)
  /-- Run a command at a place. -/
  | edit (file : Text) (line column : Nat) (command : Command) (inPlace : Bool)
  /-- List the links. -/
  | links (file : Text) (json : Bool)
  /-- Look up a property of the heading that encloses a line. -/
  | getProperty (file : Text) (line : Nat) (key : Text)
  /-- Set a property of the heading that encloses a line. -/
  | setProperty (file : Text) (line : Nat) (key value : Text) (inPlace : Bool)
deriving DecidableEq, Repr

/-- A request with the general options. -/
structure Invocation where
  request : Request
  verbose : Bool := false
  /-- The file with the settings. -/
  config : Option Text := none
  /-- The keyword sequence to use instead of any other. -/
  keywords : Option Text := none
deriving DecidableEq, Repr

/-! ## Values -/

/-- A number: digits, perhaps after a plus sign, below 2 ^ 64. -/
def number? (t : Text) : Option Nat :=
  let digits := match t with
    | '+' :: digits => digits
    | _ => t
  if digits ≠ [] ∧ digits.all Char.isDigit then (Text.word? digits).map (·.toNat) else none

/-- A path, which is not empty. -/
def path? (t : Text) : Option Text :=
  if t.isEmpty then none else some t

/-- The commands by the names that the command line gives them. -/
def commandNames : List (String × Command) :=
  [("insert-sibling", .insertSibling true), ("insert-sibling-immediate", .insertSibling false),
    ("split", .split), ("promote", .promote), ("demote", .demote),
    ("fold-or-indent", .foldOrIndent), ("next-cell", .nextCell), ("previous-cell", .previousCell),
    ("cycle-keyword", .cycleKeyword), ("toggle-checkbox", .toggleCheckbox),
    ("renumber", .renumber)]

/-- The command of a name. -/
def command? (t : Text) : Option Command :=
  (commandNames.find? (·.1.toList == t)).map (·.2)

/-! ## Invocations -/

/-- A signature that also accepts the general options. -/
def general (g : Signature) : Signature :=
  { g with
    flags := "verbose".toList :: g.flags
    options := "config".toList :: "keywords".toList :: g.options }

/-- What the words of the command line that lead to a request stand for. -/
inductive Verb where
  | context
  | subtree
  | edit
  | links
  | getProperty
  | setProperty
deriving DecidableEq, Repr

namespace Verb

/-- What a request accepts. -/
def signature : Verb → Signature
  | context => { flags := ["json".toList], options := ["line".toList, "column".toList],
                 positionals := 1 }
  | subtree => { options := ["line".toList], positionals := 1 }
  | edit => { flags := ["in-place".toList], options := ["line".toList, "column".toList],
              positionals := 2 }
  | links => { flags := ["json".toList], positionals := 1 }
  | getProperty => { options := ["line".toList], positionals := 2 }
  | setProperty => { flags := ["in-place".toList], options := ["line".toList], positionals := 3 }

/-- The request that sorted arguments state. -/
def request? (v : Verb) (s : Sorted) : Option Request :=
  match v, s.positionals with
  | context, [file] => do
    some (.context (← path? file) (← number? (← s.option? "line"))
      (← number? (← s.option? "column")) (s.flag "json"))
  | subtree, [file] => do
    some (.subtree (← path? file) (← number? (← s.option? "line")))
  | edit, [file, command] => do
    some (.edit (← path? file) (← number? (← s.option? "line"))
      (← number? (← s.option? "column")) (← command? command) (s.flag "in-place"))
  | links, [file] => do
    some (.links (← path? file) (s.flag "json"))
  | getProperty, [file, key] => do
    some (.getProperty (← path? file) (← number? (← s.option? "line")) key)
  | setProperty, [file, key, value] => do
    some (.setProperty (← path? file) (← number? (← s.option? "line")) key value
      (s.flag "in-place"))
  | _, _ => none

end Verb

/-- The general options among sorted arguments; those that were given before count where these are
silent. -/
def withGeneral? (s : Sorted) (before : Invocation) : Option Invocation := do
  let config ← match s.option? "config" with
    | some path => (path? path).map some
    | none => some before.config
  some { before with
    verbose := before.verbose || s.flag "verbose"
    config := config
    keywords := (s.option? "keywords").or before.keywords }

/-- The arguments after the words that lead to a request. -/
def parseRequest? (v : Verb) (outer : List Sorted) (args : List Text) : Option Invocation := do
  let (s, _) ← (general v.signature).scan? {} none args
  let request ← v.request? s
  (outer ++ [s]).foldlM (fun found s => withGeneral? s found) { request }

/-- The arguments after the word that leads to the requests about properties. -/
def parseProperty? (outer : Sorted) (args : List Text) : Option Invocation := do
  let (s, next) ← (general { subcommands := ["get".toList, "set".toList] }).scan? {} none args
  let (word, rest) ← next
  parseRequest? (if word = "get".toList then .getProperty else .setProperty) [outer, s] rest

/-- The words that lead to a request at once. -/
def verbs : List (Text × Verb) :=
  [("context".toList, .context), ("subtree".toList, .subtree), ("edit".toList, .edit),
    ("links".toList, .links)]

/-- The invocation that the arguments after the program's name state. -/
def Invocation.parse? (args : List Text) : Option Invocation := do
  let words := "property".toList :: verbs.map (·.1)
  let (s, next) ← (general { subcommands := words }).scan? {} none args
  let (word, rest) ← next
  match verbs.lookup word with
  | some v => parseRequest? v [s] rest
  | none => parseProperty? s rest

end Outliner.CommandLine
