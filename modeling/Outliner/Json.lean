import Outliner.Text.Decimal

/-!
# Outliner — JSON values

Values as they are written: a number keeps its digits, and a string the escapes between its quotes,
so that reading loses nothing and what a text means is asked only where it matters.

* `Json` — a value; the fields of an object keep their order, and may repeat;
* `Json.ofText`, `Json.text?` — from a text to a string, and from a string to a text;
* `Json.ofNat`, `Json.word?` — from a number, and to a machine word.
-/

namespace Outliner

/-- A JSON value as it is written. -/
inductive Json where
  | null
  | bool (value : Bool)
  /-- A number, by its digits. -/
  | number (literal : Text)
  /-- A string, by what stands between its quotes. -/
  | string (body : Text)
  | array (items : List Json)
  | object (fields : List (Text × Json))

namespace Json

/-! ## Strings -/

/-- A number in four hexadecimal digits. -/
def hex4 (n : Nat) : Text :=
  let digits := Nat.toDigits 16 n
  List.replicate (4 - digits.length) '0' ++ digits

/-- A character inside the quotes of a string. -/
def escapeChar (c : Char) : Text :=
  match c with
  | '"' => ['\\', '"']
  | '\\' => ['\\', '\\']
  | '\x08' => ['\\', 'b']
  | '\t' => ['\\', 't']
  | '\n' => ['\\', 'n']
  | '\x0c' => ['\\', 'f']
  | '\r' => ['\\', 'r']
  | c => if c.toNat < 0x20 then ['\\', 'u'] ++ hex4 c.toNat else [c]

/-- What stands between the quotes for a text. -/
def escape (t : Text) : Text :=
  t.flatMap escapeChar

/-- The value of a hexadecimal digit. -/
def hexValue? (c : Char) : Option Nat :=
  if '0' ≤ c ∧ c ≤ '9' then some (c.toNat - '0'.toNat)
  else if 'a' ≤ c ∧ c ≤ 'f' then some (c.toNat - 'a'.toNat + 10)
  else if 'A' ≤ c ∧ c ≤ 'F' then some (c.toNat - 'A'.toNat + 10)
  else none

/-- The value of four hexadecimal digits. -/
def hexValue4? (a b c d : Char) : Option Nat := do
  some ((← hexValue? a) * 0x1000 + (← hexValue? b) * 0x100 + (← hexValue? c) * 0x10
    + (← hexValue? d))

/-- The character that a letter after a backslash stands for. -/
def escaped? : Char → Option Char
  | '"' => some '"'
  | '\\' => some '\\'
  | '/' => some '/'
  | 'b' => some '\x08'
  | 'f' => some '\x0c'
  | 'n' => some '\n'
  | 'r' => some '\r'
  | 't' => some '\t'
  | _ => none

/-- The first of a pair of numbers that stand for one character together. -/
def isHighHalf (n : Nat) : Bool :=
  0xD800 ≤ n && n ≤ 0xDBFF

/-- The second number of such a pair. -/
def isLowHalf (n : Nat) : Bool :=
  0xDC00 ≤ n && n ≤ 0xDFFF

/-- The character that a pair of halves stands for. -/
def joinHalves (high low : Nat) : Char :=
  Char.ofNat (0x10000 + (high - 0xD800) * 0x400 + (low - 0xDC00))

/-- The numbers of the characters that stand between the quotes, where an escape may give half of
one. -/
def units? : Text → Option (List Nat)
  | [] => some []
  | '\\' :: 'u' :: a :: b :: c :: d :: t => do
    let n ← hexValue4? a b c d
    (units? t).map (n :: ·)
  | '\\' :: c :: t => do
    let c ← escaped? c
    (units? t).map (c.toNat :: ·)
  | c :: t => (units? t).map (c.toNat :: ·)

/-- The characters of the numbers. A half without its other half stands for nothing. -/
def joinUnits? : List Nat → Option Text
  | [] => some []
  | [n] => if isHighHalf n ∨ isLowHalf n then none else some [Char.ofNat n]
  | n :: m :: rest =>
    if isHighHalf n then
      if isLowHalf m then (joinUnits? rest).map (joinHalves n m :: ·) else none
    else if isLowHalf n then none
    else (joinUnits? (m :: rest)).map (Char.ofNat n :: ·)

/-- The text that stands between the quotes. -/
def unescape? (body : Text) : Option Text :=
  (units? body).bind joinUnits?

/-! ## Values -/

/-- The string of a text. -/
def ofText (t : Text) : Json :=
  string (escape t)

/-- A number without a sign. -/
def ofNat (n : Nat) : Json :=
  number (Text.ofNat n)

/-- The value, or `null` when there is none. -/
def ofOption : Option Json → Json
  | some j => j
  | none => null

/-- The text of a string. -/
def text? : Json → Option Text
  | string body => unescape? body
  | _ => none

/-- The value of an integer without a sign, a fraction or an exponent, below 2 ^ 64. -/
def word? : Json → Option UInt64
  | number literal => if literal.all Char.isDigit then Text.word? literal else none
  | _ => none

end Json

end Outliner
