import Outliner.Text.Basic

/-!
# Outliner — links

A link is written in brackets, `[[target]]` or `[[target][description]]`, or bare, as a web address
or a `file:` address that stands at a boundary.

* `LinkTarget.classify` — what a target points at;
* `Link.takeBracketed?`, `Link.takeBare?` — the link that opens a text;
* `Link.scan`, `Link.ofLine` — every link of a line, from left to right;
* `Link.covering?` — the link over a column.
-/

namespace Outliner

/-! ## Targets -/

/-- What a link points at. -/
inductive LinkTarget where
  /-- A file, and what to look for in it. -/
  | file (path : Text) (search : Option Text)
  /-- A heading, by its `ID`. -/
  | byId (id : Text)
  /-- A heading, by its title or its custom name. -/
  | headline (title : Text)
  | url (url : Text)
  /-- An address of any other protocol. -/
  | other (protocol target : Text)
deriving DecidableEq, Repr

namespace LinkTarget

/-- A path, with what follows the first `::` as the search. -/
def ofPath (path : Text) : LinkTarget :=
  match path.cutAt [':', ':'] with
  | some (path, search) => .file path (some search)
  | none => .file path none

/-- The text opens like an address on the web. -/
def isWeb (t : Text) : Bool :=
  "http://".toList.isPrefixOf t || "https://".toList.isPrefixOf t

/-- The text opens like a path. -/
def isPath (t : Text) : Bool :=
  ["./".toList, "../".toList, "/".toList, "~/".toList].any (·.isPrefixOf t)

/-- What a trimmed target that names no known scheme points at. -/
def classifyPlain (t : Text) : LinkTarget :=
  match t with
  | '*' :: title => .headline (Text.trim title)
  | '#' :: _ => .headline t
  | _ =>
    if isPath t then ofPath t
    else match t.cutAt [':'] with
      | some (protocol, target) => .other protocol target
      | none => .headline t

/-- What a target points at. -/
def classify (target : Text) : LinkTarget :=
  let t := target.trim
  if isWeb t then .url t
  else match "id:".toList.isPrefixOf? t with
    | some id => .byId id
    | none => match "file:".toList.isPrefixOf? t with
      | some path => ofPath path
      | none => classifyPlain t

end LinkTarget

/-! ## Links -/

/-- How a link is written. -/
inductive LinkForm where
  | bracketed
  | bareUrl
  | fileScheme
deriving DecidableEq, Repr

/-- A link of a line, over the columns from `start` up to `stop`. -/
structure Link where
  form : LinkForm
  target : LinkTarget
  rawTarget : Text
  description : Option Text
  start : Nat
  stop : Nat
deriving DecidableEq, Repr

namespace Link

/-- What is read where a link opens: its form, its target as written, its description, and its
width. -/
structure Reading where
  form : LinkForm
  target : Text
  description : Option Text
  width : Nat
deriving DecidableEq, Repr

/-- The bracketed link that opens the text. The target runs to the first closing bracket and must
not be blank; a description runs to the first pair of them. -/
def takeBracketed? (t : Text) : Option Reading := do
  let inner ← ['[', '['].isPrefixOf? t
  let (target, rest) ← Text.cutAt inner [']']
  if Text.isBlankLine target then none
  else match rest with
    | ']' :: _ => some ⟨.bracketed, target, none, target.length + 4⟩
    | '[' :: rest => do
      let (description, _) ← Text.cutAt rest [']', ']']
      some ⟨.bracketed, target, some description, target.length + description.length + 6⟩
    | _ => none

/-- The schemes of bare links. -/
def bareSchemes : List (Text × LinkForm) :=
  [("https://".toList, .bareUrl), ("http://".toList, .bareUrl), ("file:".toList, .fileScheme)]

/-- A character of a bare link after its scheme. -/
def isBareChar (c : Char) : Bool :=
  !Text.isBlank c && c != ')' && c != ']' && c != '>'

/-- A sentence mark, which ends a bare link only in the middle of it. -/
def isSentenceMark (c : Char) : Bool :=
  c == ',' || c == '.' || c == ';' || c == ':' || c == '!' || c == '?'

/-- The bare link that opens the text. Sentence marks at its end are not part of it, and something
must be left after the scheme. -/
def takeBare? (t : Text) : Option Reading := do
  let (scheme, form) ← bareSchemes.find? (·.1.isPrefixOf t)
  let body := (t.drop scheme.length).takeWhile isBareChar
  let target := ((scheme ++ body).reverse.dropWhile isSentenceMark).reverse
  if body ≠ [] ∧ scheme.length < target.length then some ⟨form, target, none, target.length⟩
  else none

/-- A bare link can start after this character, or at the start of the line. -/
def isBoundary (before : Option Char) : Bool :=
  before.all fun c => Text.isBlank c || c == '(' || c == '<'

/-- The link that opens the text, after the given character. -/
def take? (before : Option Char) (t : Text) : Option Reading :=
  match takeBracketed? t with
  | some r => some r
  | none => if isBoundary before then takeBare? t else none

/-- The links of the text from a column on. Of the columns ahead, the first `skip` belong to the
link found last. -/
def scan (before : Option Char) (column skip : Nat) : Text → List Link
  | [] => []
  | c :: rest =>
    match skip with
    | skip + 1 => scan (some c) (column + 1) skip rest
    | 0 =>
      match take? before (c :: rest) with
      | some r =>
        let link : Link :=
          { form := r.form, target := .classify r.target, rawTarget := Text.trim r.target
            description := r.description, start := column, stop := column + r.width }
        link :: scan (some c) (column + 1) (r.width - 1) rest
      | none => scan (some c) (column + 1) 0 rest

/-- Every link of a line, from left to right. -/
def ofLine (line : Text) : List Link :=
  scan none 0 0 line

/-- The link over a column. -/
def covering? (line : Text) (column : Nat) : Option Link :=
  (ofLine line).find? fun l => l.start ≤ column && column < l.stop

end Link

end Outliner
