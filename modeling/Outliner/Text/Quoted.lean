import Outliner.Text.Basic
import Outliner.Text.Visible

/-!
# Outliner — quoted text

How a message shows a text that the user gave: between double quotes, on one line, with every
character visible.

* `quoted` — a quote and a backslash are escaped by a backslash; NUL, tab, line feed and carriage
  return are written `\0`, `\t`, `\n` and `\r`; every other invisible character is written by its
  number, as `\u{a0}`.
-/

namespace Outliner.Text

/-- One character inside the quotes. -/
def quotedChar (c : Char) : Text :=
  match c with
  | '\x00' => ['\\', '0']
  | '\t' => ['\\', 't']
  | '\n' => ['\\', 'n']
  | '\r' => ['\\', 'r']
  | '"' => ['\\', '"']
  | '\\' => ['\\', '\\']
  | c =>
    if isVisible c then [c]
    else ['\\', 'u', '\x7b'] ++ Nat.toDigits 16 c.toNat ++ ['\x7d']

/-- The text between double quotes. -/
def quoted (t : Text) : Text :=
  '"' :: t.flatMap quotedChar ++ ['"']

end Outliner.Text
