import Outliner.Json

/-!
# Outliner — JSON strings and numbers that are written and read again

A text is written between quotes with some of its characters escaped, each by one escape. No
character is half of a pair, so what the escapes give is joined to the text again.

Main results:

* `text?_ofText` — a text is read back from its string.
* `word?_ofNat` — a machine word is read back from its number.
-/

namespace Outliner.Json

/-! ## Strings -/

/-- The control characters are read back from their four digits. -/
private theorem hexValue4?_hex4 : ∀ n < 0x20,
    ∃ a b c d, hex4 n = [a, b, c, d] ∧ hexValue4? a b c d = some n := by
  intro n hn
  have hDigits : ∀ n < 0x20, (hex4 n).length = 4 ∧
      hexValue4? ((hex4 n)[0]?.getD ' ') ((hex4 n)[1]?.getD ' ') ((hex4 n)[2]?.getD ' ')
        ((hex4 n)[3]?.getD ' ') = some n := by
    decide
  obtain ⟨hLength, hValue⟩ := hDigits n hn
  match hex4 n, hLength, hValue with
  | [a, b, c, d], _, hValue => exact ⟨a, b, c, d, rfl, hValue⟩

/-- A letter behind a backslash is read as the character that it stands for. -/
theorem units?_escaped {letter c : Char} (h : escaped? letter = some c) (t : Text) :
    units? ('\\' :: letter :: t) = (units? t).map (c.toNat :: ·) := by
  have hLetter : letter ≠ 'u' := by
    rintro rfl
    contradiction
  rw [units?]
  · simp [h]
  · exact fun _ _ _ _ _ hu _ => hLetter hu

/-- A character that is not escaped is read as itself. -/
theorem units?_cons {c : Char} (h : c ≠ '\\') (t : Text) :
    units? (c :: t) = (units? t).map (c.toNat :: ·) := by
  rw [units?]
  · exact fun _ _ _ _ _ hc _ => h hc
  · exact fun _ _ hc _ => h hc

/-- A character in front is read as itself, escaped or not. -/
theorem units?_escapeChar_append (c : Char) (t : Text) :
    units? (escapeChar c ++ t) = (units? t).map (c.toNat :: ·) := by
  unfold escapeChar
  split
  · exact units?_escaped rfl t
  · exact units?_escaped rfl t
  · exact units?_escaped rfl t
  · exact units?_escaped rfl t
  · exact units?_escaped rfl t
  · exact units?_escaped rfl t
  · exact units?_escaped rfl t
  · next hSlash _ _ _ _ _ =>
    split
    · next hControl =>
      obtain ⟨a, b, c', d, hHex, hValue⟩ := hexValue4?_hex4 _ hControl
      simp [hHex, units?, hValue]
    · exact units?_cons hSlash t

theorem units?_escape (t : Text) : units? (escape t) = some (t.map Char.toNat) := by
  induction t with
  | nil => rfl
  | cons c t ih =>
    rw [escape, List.flatMap_cons, units?_escapeChar_append, ← escape, ih]
    rfl

/-- No character is half of a pair. -/
theorem not_half (c : Char) : isHighHalf c.toNat = false ∧ isLowHalf c.toNat = false := by
  have hValid : c.toNat < 0xD800 ∨ 0xDFFF < c.toNat ∧ c.toNat < 0x110000 := c.valid
  simp only [isHighHalf, isLowHalf, Bool.and_eq_false_iff, decide_eq_false_iff_not]
  omega

theorem joinUnits?_map_toNat (t : Text) : joinUnits? (t.map Char.toNat) = some t := by
  induction t with
  | nil => rfl
  | cons c t ih =>
    obtain ⟨hHigh, hLow⟩ := not_half c
    cases t with
    | nil => simp [joinUnits?, hHigh, hLow]
    | cons d t =>
      rw [List.map_cons] at ih
      simp [joinUnits?, hHigh, hLow, ih]

theorem unescape?_escape (t : Text) : unescape? (escape t) = some t := by
  rw [unescape?, units?_escape, Option.bind_some, joinUnits?_map_toNat]

/-- **A text is read back** from its string. -/
theorem text?_ofText (t : Text) : (ofText t).text? = some t :=
  unescape?_escape t

/-! ## Numbers -/

/-- **A machine word is read back** from its number. -/
theorem word?_ofNat (n : UInt64) : (ofNat n.toNat).word? = some n := by
  have hDigits : (Text.ofNat n.toNat).all Char.isDigit = true :=
    List.all_eq_true.mpr fun c hc => Nat.isDigit_of_mem_toDigits (by decide) (by decide) hc
  show (if (Text.ofNat n.toNat).all Char.isDigit then Text.word? (Text.ofNat n.toNat) else none) =
    some n
  rw [if_pos hDigits, Text.word?, Text.decimal_ofNat]
  simp [n.toNat_lt]

end Outliner.Json
