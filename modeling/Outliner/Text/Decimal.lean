import Outliner.Text.Basic

/-!
# Outliner — decimal numbers

Numbers as lines, options and settings write them: ASCII digits, most significant first.

* `ofNat` — the shortest decimal form;
* `decimal` — the value of a run of digits;
* `word?` — the value of a run of digits that fits in a machine word of 64 bits.
-/

namespace Outliner.Text

/-- The number in decimal, without leading zeros. -/
def ofNat (n : Nat) : Text :=
  Nat.toDigits 10 n

/-- The value of a run of decimal digits. -/
def decimal (digits : Text) : Nat :=
  Nat.ofDigitChars 10 digits 0

/-- The value of a run of decimal digits, when it is below 2 ^ 64. -/
def word? (digits : Text) : Option UInt64 :=
  let n := decimal digits
  if n < UInt64.size then some (UInt64.ofNat n) else none

/-- Reading what was written gives the number back. -/
theorem decimal_ofNat (n : Nat) : decimal (ofNat n) = n :=
  Nat.ofDigitChars_toDigits (by decide) (by decide)

end Outliner.Text
