import Outliner.Config
import Outliner.Json.Reader

/-!
# Outliner — settings in writing

Settings are written as a JSON object with a field for each, or as an array of their values in
order. What is left out keeps its standard value.

* `Config.ofJson?`, `Config.read` — reading settings. An object may hold fields of other names, but
  a setting only once; an array may hold no more values than there are settings.
* `Config.choose` — the settings of a text, with the keywords of another in their place;
* `Config.toJson` — the settings as an object.
-/

namespace Outliner

/-- A setting. -/
inductive Setting where
  | keywords
  | indentWidth
  | blankRunLimit
  | drawerScanLimit
  | minLevel
deriving DecidableEq, Repr

namespace Setting

/-- The settings in order. -/
def all : List Setting :=
  [keywords, indentWidth, blankRunLimit, drawerScanLimit, minLevel]

/-- The name of a setting. -/
def name : Setting → Text
  | keywords => "keywords".toList
  | indentWidth => "indent_width".toList
  | blankRunLimit => "blank_run_limit".toList
  | drawerScanLimit => "drawer_scan_limit".toList
  | minLevel => "min_level".toList

/-- The setting of a name. -/
def ofName? (t : Text) : Option Setting :=
  all.find? (·.name == t)

/-- Give a setting the value that is written; none when it cannot take that value. -/
def assign? (s : Setting) (config : Config) (value : Json) : Option Config :=
  match s with
  | keywords => do
    let sequence ← value.text?
    let k ← (Keywords.parse sequence).toOption
    some { config with keywords := k }
  | indentWidth => value.word?.map fun n => { config with indentWidth := n }
  | blankRunLimit => value.word?.map fun n => { config with blankRunLimit := n }
  | drawerScanLimit => value.word?.map fun n => { config with drawerScanLimit := n }
  | minLevel => value.word?.map fun n => { config with minLevel := n }

end Setting

namespace Config

/-- Read the fields of an object; `seen` are the settings that fields before them have given. -/
def ofFields? (config : Config) (seen : List Setting) : List (Text × Json) → Option Config
  | [] => some config
  | (key, value) :: fields => do
    match Setting.ofName? (← Json.unescape? key) with
    | some s =>
      if s ∈ seen then none else ofFields? (← s.assign? config value) (s :: seen) fields
    | none => ofFields? config seen fields

/-- Read the items of an array, the values of the given settings in order. -/
def ofItems? (config : Config) : List Setting → List Json → Option Config
  | _, [] => some config
  | [], _ :: _ => none
  | s :: settings, value :: items => do
    ofItems? (← s.assign? config value) settings items

/-- The settings that a JSON value states. -/
def ofJson? : Json → Option Config
  | .object fields => ofFields? {} [] fields
  | .array items => ofItems? {} Setting.all items
  | _ => none

/-- Read settings. -/
def read (t : Text) : Except Error Config :=
  match (Json.read? t).bind ofJson? with
  | some config => .ok config
  | none => .error .malformedSettings

/-- The settings of a text, or the standard ones, with the keywords of a sequence, if there is one,
in place of theirs. -/
def choose (settings sequence : Option Text) : Except Error Config := do
  let config ← match settings with
    | some t => read t
    | none => .ok {}
  match sequence with
  | some t => return { config with keywords := ← Keywords.parse t }
  | none => return config

/-- The settings as a JSON object. -/
def toJson (config : Config) : Json :=
  .object [
    (Setting.keywords.name, .ofText config.keywords.render),
    (Setting.indentWidth.name, .ofNat config.indentWidth.toNat),
    (Setting.blankRunLimit.name, .ofNat config.blankRunLimit.toNat),
    (Setting.drawerScanLimit.name, .ofNat config.drawerScanLimit.toNat),
    (Setting.minLevel.name, .ofNat config.minLevel.toNat)]

end Config

end Outliner
