import Outliner.Json

/-!
# Outliner — reading JSON

* `Json.read?` — the value of a text that holds exactly one, with white space around it.

Reading follows the grammar strictly: no comma before a closing bracket, no leading zeros, and no
control characters inside a string. The parts of the grammar are functions that take what they read
off the front of a text.
-/

namespace Outliner.Json

/-- The text after JSON's white space. -/
def skipSpace (t : Text) : Text :=
  t.dropWhile fun c => c == ' ' || c == '\t' || c == '\n' || c == '\r'

/-! ## Strings and numbers -/

/-- Take the rest of a string, whose opening quote has been taken, up to its closing quote. -/
def takeBody? : Text → Option (Text × Text)
  | [] => none
  | '"' :: t => some ([], t)
  | '\\' :: 'u' :: a :: b :: c :: d :: t => do
    let _ ← hexValue4? a b c d
    let (body, rest) ← takeBody? t
    some ('\\' :: 'u' :: a :: b :: c :: d :: body, rest)
  | '\\' :: c :: t => do
    let _ ← escaped? c
    let (body, rest) ← takeBody? t
    some ('\\' :: c :: body, rest)
  | c :: t =>
    if c.toNat < 0x20 ∨ c = '\\' then none
    else (takeBody? t).map fun (body, rest) => (c :: body, rest)

/-- Take one digit or more. -/
def takeDigits? (t : Text) : Option (Text × Text) :=
  let digits := t.takeWhile Char.isDigit
  if digits.isEmpty then none else some (digits, t.dropWhile Char.isDigit)

/-- Take the digits before the point: a single zero, or digits that do not start with one. -/
def takeWhole? (t : Text) : Option (Text × Text) :=
  match t with
  | '0' :: rest => some (['0'], rest)
  | _ => takeDigits? t

/-- Take a fraction, if there is one. -/
def takeFraction? (t : Text) : Option (Text × Text) :=
  match t with
  | '.' :: rest => (takeDigits? rest).map fun (digits, rest) => ('.' :: digits, rest)
  | _ => some ([], t)

/-- Take the sign of an exponent, if there is one. -/
def takeSign (t : Text) : Text × Text :=
  match t with
  | '+' :: rest => (['+'], rest)
  | '-' :: rest => (['-'], rest)
  | _ => ([], t)

/-- Take an exponent, if there is one. -/
def takeExponent? (t : Text) : Option (Text × Text) :=
  match t with
  | c :: rest =>
    if c = 'e' ∨ c = 'E' then
      let (sign, rest) := takeSign rest
      (takeDigits? rest).map fun (digits, rest) => (c :: sign ++ digits, rest)
    else some ([], t)
  | [] => some ([], t)

/-- Take a number. -/
def takeNumber? (t : Text) : Option (Text × Text) := do
  let (minus, t) := match t with
    | '-' :: rest => (['-'], rest)
    | _ => ([], t)
  let (whole, t) ← takeWhole? t
  let (fraction, t) ← takeFraction? t
  let (exponent, t) ← takeExponent? t
  some (minus ++ whole ++ fraction ++ exponent, t)

/-- Take a value that is no array and no object. -/
def takeScalar? (t : Text) : Option (Json × Text) :=
  match t with
  | '"' :: rest => (takeBody? rest).map fun (body, rest) => (string body, rest)
  | _ =>
    match "null".toList.isPrefixOf? t with
    | some rest => some (null, rest)
    | none => match "true".toList.isPrefixOf? t with
      | some rest => some (bool true, rest)
      | none => match "false".toList.isPrefixOf? t with
        | some rest => some (bool false, rest)
        | none => (takeNumber? t).map fun (literal, rest) => (number literal, rest)

/-! ## Arrays and objects -/

mutual

/-- Take a value. Each step into an array or object, and each step along one, costs a unit of
fuel. -/
def takeValue? : Nat → Text → Option (Json × Text)
  | 0, _ => none
  | fuel + 1, t =>
    match skipSpace t with
    | '[' :: t => match skipSpace t with
      | ']' :: rest => some (array [], rest)
      | t => (takeItems? fuel t).map fun (items, rest) => (array items, rest)
    | '\x7b' :: t => match skipSpace t with
      | '\x7d' :: rest => some (object [], rest)
      | t => (takeFields? fuel t).map fun (fields, rest) => (object fields, rest)
    | t => takeScalar? t

/-- Take one item of an array or more, and the closing bracket. -/
def takeItems? : Nat → Text → Option (List Json × Text)
  | 0, _ => none
  | fuel + 1, t => do
    let (item, t) ← takeValue? fuel t
    match skipSpace t with
    | ']' :: rest => some ([item], rest)
    | ',' :: t => (takeItems? fuel t).map fun (items, rest) => (item :: items, rest)
    | _ => none

/-- Take one field of an object or more, and the closing brace. -/
def takeFields? : Nat → Text → Option (List (Text × Json) × Text)
  | 0, _ => none
  | fuel + 1, t => do
    let t ← ['"'].isPrefixOf? (skipSpace t)
    let (key, t) ← takeBody? t
    let t ← [':'].isPrefixOf? (skipSpace t)
    let (value, t) ← takeValue? fuel t
    match skipSpace t with
    | '\x7d' :: rest => some ([(key, value)], rest)
    | ',' :: t => (takeFields? fuel t).map fun (fields, rest) => ((key, value) :: fields, rest)
    | _ => none

end

/-- The value of a text that holds exactly one. Every step of the reading takes at least one
character, or follows one that does. -/
def read? (t : Text) : Option Json := do
  let (value, rest) ← takeValue? (2 * t.length + 2) t
  if (skipSpace rest).isEmpty then some value else none

end Outliner.Json
