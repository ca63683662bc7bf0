import Outliner.Json

/-!
# Outliner — printing JSON

* `Json.compact` — a value without white space;
* `Json.pretty` — one item or field a line, indented by two spaces a level; an empty array or object
  stays on its line.
-/

namespace Outliner.Json

/-! ## On one line -/

mutual

/-- The value without white space. -/
def compact : Json → Text
  | null => "null".toList
  | bool true => "true".toList
  | bool false => "false".toList
  | number literal => literal
  | string body => '"' :: body ++ ['"']
  | array items => '[' :: compactItems items ++ [']']
  | object fields => '\x7b' :: compactFields fields ++ ['\x7d']

/-- Items with commas between them. -/
def compactItems : List Json → Text
  | [] => []
  | [item] => item.compact
  | item :: items => item.compact ++ ',' :: compactItems items

/-- Fields with commas between them. -/
def compactFields : List (Text × Json) → Text
  | [] => []
  | [(key, value)] => '"' :: key ++ ['"', ':'] ++ value.compact
  | (key, value) :: fields =>
    '"' :: key ++ ['"', ':'] ++ value.compact ++ ',' :: compactFields fields

end

/-! ## On many lines -/

/-- A line break and the indentation of a level. -/
def newLine (level : Nat) : Text :=
  '\n' :: Text.spaces (2 * level)

mutual

/-- The value, whose own line is at the given level. -/
def prettyAt (level : Nat) : Json → Text
  | array (item :: items) =>
    '[' :: prettyItems (level + 1) (item :: items) ++ newLine level ++ [']']
  | object (field :: fields) =>
    '\x7b' :: prettyFields (level + 1) (field :: fields) ++ newLine level ++ ['\x7d']
  | null => "null".toList
  | bool true => "true".toList
  | bool false => "false".toList
  | number literal => literal
  | string body => '"' :: body ++ ['"']
  | array [] => ['[', ']']
  | object [] => ['\x7b', '\x7d']

/-- Items, each on a line of the given level. -/
def prettyItems (level : Nat) : List Json → Text
  | [] => []
  | [item] => newLine level ++ item.prettyAt level
  | item :: items => newLine level ++ item.prettyAt level ++ ',' :: prettyItems level items

/-- Fields, each on a line of the given level. -/
def prettyFields (level : Nat) : List (Text × Json) → Text
  | [] => []
  | [(key, value)] => newLine level ++ '"' :: key ++ ['"', ':', ' '] ++ value.prettyAt level
  | (key, value) :: fields =>
    newLine level ++ '"' :: key ++ ['"', ':', ' '] ++ value.prettyAt level
      ++ ',' :: prettyFields level fields

end

/-- The value on many lines. -/
def pretty (j : Json) : Text :=
  j.prettyAt 0

end Outliner.Json
