import Outliner.Json

/-!
# Outliner — random identifiers

The text form of a random (version 4) universally unique identifier: 32 hexadecimal digits in groups
of 8, 4, 4, 4 and 12.
-/

namespace Outliner.Uuid

/-- A byte in two hexadecimal digits. -/
def hex2 (b : UInt8) : Text :=
  (Json.hex4 b.toNat).drop 2

/-- Mark a byte of random bits with the version or the variant, by its place among the sixteen. -/
def mark (place : Nat) (b : UInt8) : UInt8 :=
  if place = 6 then (b &&& 0x0F) ||| 0x40
  else if place = 8 then (b &&& 0x3F) ||| 0x80
  else b

/-- The identifier made from sixteen random bytes. -/
def ofBytes (bytes : List UInt8) : Text :=
  let digits := (bytes.zipIdx.map fun (b, i) => hex2 (mark i b)).flatten
  List.intercalate ['-']
    [digits.take 8, (digits.drop 8).take 4, (digits.drop 12).take 4, (digits.drop 16).take 4,
      digits.drop 20]

end Outliner.Uuid
