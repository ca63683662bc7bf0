import Outliner.Text.Basic

/-!
# Outliner — texts in files

A file holds bytes. A text is stored in UTF-8, and bytes that are not UTF-8 hold no text.

* `encode`, `decode?` — the bytes of a text, and the text that bytes hold.
-/

namespace Outliner.Text

/-- The bytes of a text. -/
def encode (t : Text) : ByteArray :=
  (String.ofList t).toUTF8

/-- The text that bytes hold; none when they are not UTF-8. -/
def decode? (bytes : ByteArray) : Option Text :=
  (String.fromUTF8? bytes).map (·.toList)

/-- A text is read again as it was stored. -/
@[simp]
theorem decode?_encode (t : Text) : decode? (encode t) = some t := by
  rw [decode?, encode, String.toUTF8_eq_toByteArray, String.fromUTF8?,
    dif_pos (String.ofList t).isValidUTF8]
  exact congrArg some String.toList_ofList

/-- The bytes that hold a text are those it is stored in. -/
theorem encode_of_decode? {bytes : ByteArray} {t : Text} (h : decode? bytes = some t) :
    encode t = bytes := by
  rw [decode?, String.fromUTF8?] at h
  split at h
  · obtain rfl := Option.some.inj h
    rw [encode, String.ofList_toList, String.toUTF8_eq_toByteArray]
    rfl
  · contradiction

end Outliner.Text
