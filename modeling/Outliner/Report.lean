import Outliner.Context
import Outliner.Json
import Outliner.Link

/-!
# Outliner — reports

The structures of a buffer as JSON, for other programs to read. Every report names the kind of its
subject first.

* `Heading.toJson`, `ListItem.toJson`, `Drawer.toJson`, `Property.toJson` — the parts of a line;
* `Context.kind`, `Context.toJson` — the context of a cursor;
* `LinkTarget.toJson`, `Link.fields` — a link.
-/

namespace Outliner

namespace Json

/-- A string. -/
def str (s : String) : Json :=
  ofText s.toList

/-- A field with a plain name. -/
def field (name : String) (value : Json) : Text × Json :=
  (name.toList, value)

/-- A text, or `null`. -/
def ofText? (t : Option Text) : Json :=
  ofOption (t.map ofText)

/-- A number, or `null`. -/
def ofNat? (n : Option Nat) : Json :=
  ofOption (n.map ofNat)

/-- A list of texts. -/
def ofTexts (ts : List Text) : Json :=
  array (ts.map ofText)

end Json

open Json (field)

/-! ## Lines -/

/-- The parts of a heading. -/
def Heading.toJson (h : Heading) : Json :=
  .object [field "level" (.ofNat h.level), field "keyword" (.ofText? h.keyword),
    field "priority" (.ofText? (h.priority.map ([·]))), field "title" (.ofText h.title),
    field "tags" (.ofTexts h.tags)]

/-- A marker: the name of a plain one, the number and delimiter of an ordered one. -/
def Bullet.toJson : Bullet → Json
  | dash => .str "dash"
  | plus => .str "plus"
  | star => .str "star"
  | ordered number delimiter =>
    .object [field "ordered" (.object [field "number" (.ofNat number.toNat),
      field "delimiter" (.ofText [delimiter])])]

/-- The name of a checkbox state. -/
def Checkbox.toJson : Checkbox → Json
  | empty => .str "Empty"
  | partly => .str "Partial"
  | checked => .str "Checked"

/-- The parts of a list item. -/
def ListItem.toJson (item : ListItem) : Json :=
  .object [field "indent" (.ofNat item.indent), field "bullet" item.bullet.toJson,
    field "checkbox" (.ofOption (item.checkbox.map Checkbox.toJson)),
    field "content" (.ofText item.content)]

/-- The lines of a drawer. -/
def Drawer.toJson (d : Drawer) : Json :=
  .object [field "start_line" (.ofNat d.start), field "end_line" (.ofNat d.stop)]

/-- The parts of an entry. -/
def Property.toJson (p : Property) : Json :=
  .object [field "indent" (.ofNat p.indent), field "key" (.ofText p.key),
    field "value" (.ofText p.value)]

/-! ## Contexts -/

/-- The name of a kind of context. -/
def Context.kind : Context → String
  | heading .. => "heading"
  | listItem .. => "list-item"
  | checkbox .. => "checkbox"
  | table .. => "table"
  | blockHeader .. => "code-block-header"
  | block .. => "code-block"
  | drawerHeader _ => "property-drawer-header"
  | drawerEnd _ => "property-drawer-end"
  | property .. => "property-item"
  | drawer .. => "property-drawer"
  | text _ => "text"

/-- What a context tells besides its kind and its line. -/
def Context.details : Context → List (Text × Json)
  | heading _ h => [field "heading" h.toJson]
  | listItem _ item | checkbox _ item => [field "item" item.toJson]
  | table _ cells column => [field "cells" (.ofTexts cells), field "column" (.ofNat? column)]
  | blockHeader _ name parameters =>
    [field "block" (.ofText name), field "parameters" (.ofText parameters)]
  | block _ fence => [field "begin_line" (.ofNat fence)]
  | property _ d entry => [field "drawer" d.toJson, field "entry" entry.toJson]
  | drawer _ d => [field "drawer" d.toJson]
  | drawerHeader _ | drawerEnd _ | text _ => []

/-- The report of a context. -/
def Context.toJson (c : Context) : Json :=
  .object (field "kind" (.str c.kind) :: field "line" (.ofNat c.line) :: c.details)

/-! ## Links -/

/-- The report of a target. -/
def LinkTarget.toJson : LinkTarget → Json
  | file path search =>
    .object [field "kind" (.str "file"), field "path" (.ofText path),
      field "search" (.ofText? search)]
  | byId id => .object [field "kind" (.str "id"), field "id" (.ofText id)]
  | headline title => .object [field "kind" (.str "headline"), field "title" (.ofText title)]
  | url address => .object [field "kind" (.str "url"), field "url" (.ofText address)]
  | other protocol target =>
    .object [field "kind" (.str "other"), field "protocol" (.ofText protocol),
      field "target" (.ofText target)]

/-- The name of a form of link. -/
def LinkForm.toJson : LinkForm → Json
  | bracketed => .str "bracketed"
  | bareUrl => .str "bare-url"
  | fileScheme => .str "file-scheme"

/-- What is reported of a link. -/
def Link.fields (l : Link) : List (Text × Json) :=
  [field "syntax" l.form.toJson, field "target" l.target.toJson,
    field "raw_target" (.ofText l.rawTarget), field "description" (.ofText? l.description),
    field "start" (.ofNat l.start), field "end" (.ofNat l.stop)]

end Outliner
