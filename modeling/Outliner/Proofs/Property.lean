import Outliner.Property
import Outliner.Proofs.Heading
import Outliner.Proofs.Text

/-!
# Outliner — entry lines

An entry line has the same colons around its key as the two lines that open and close a drawer have
around theirs. So an entry is read back from the line that states it, unless its key is that of a
marker and no value sets it apart.

* `Property.Statable` — a key and a value that an entry line can state.
* `trim_render` — what is left of the line for the comparison with a marker.

Main results:

* `parse?_render` — an entry is read back, with the white space at the ends of its value cut off.
* `levelOf_eq_zero_of_parse?` — no entry line is a heading.
-/

namespace Outliner.Property

variable {line key value : Text} {indent : Nat} {p : Property}

/-- An entry line can state the key and the value. -/
structure Statable (key value : Text) : Prop where
  key_ne_nil : key ≠ []
  isKeyChar : ∀ c ∈ key, isKeyChar c = true
  not_marker : value.trim = [] →
    key.sameLetters "PROPERTIES".toList = false ∧ key.sameLetters "END".toList = false

/-! ## Keys -/

theorem isKeyChar_toUpper (c : Char) : Property.isKeyChar c.toUpper = Property.isKeyChar c := by
  have hColon : (c.toUpper != ':') = (c != ':') := by
    rw [Bool.eq_iff_iff, bne_iff_ne, bne_iff_ne, not_iff_not]
    refine ⟨fun h => Text.eq_of_toUpper_eq h (by decide), ?_⟩
    rintro rfl
    decide
  rw [Property.isKeyChar, Property.isKeyChar, Text.isBlank_toUpper, hColon]

/-- An ASCII key can be stated in upper case, and a value without the white space at its ends. -/
theorem Statable.upper (h : Statable key value) (hAscii : ∀ c ∈ key, c.toNat < 128) :
    Statable key.upper value.trim := by
  rw [Text.upper_of_ascii hAscii]
  refine ⟨by simpa [Text.asciiUpper] using h.key_ne_nil, fun c hc => ?_, fun hNil => ?_⟩
  · obtain ⟨b, hb, rfl⟩ := List.mem_map.mp hc
    rw [isKeyChar_toUpper, h.isKeyChar b hb]
  · rw [Text.trim_trim] at hNil
    have hMarker := h.not_marker hNil
    rw [Text.sameLetters, Text.sameLetters, Text.asciiUpper_asciiUpper]
    exact hMarker

/-- A key breaks no line. -/
theorem unbroken_of_isKeyChar (h : ∀ c ∈ key, Property.isKeyChar c = true) : key.Unbroken := by
  constructor
  · intro hFeed
    exact absurd (h _ hFeed) (by decide)
  · intro hReturn
    exact absurd (h _ hReturn) (by decide)

theorem Statable.unbroken_key (h : Statable key value) : key.Unbroken :=
  unbroken_of_isKeyChar h.isKeyChar

/-! ## The line of an entry -/

/-- What follows the second colon. -/
def afterKey (value : Text) : Text :=
  if value.isEmpty then [] else ' ' :: value

theorem render_eq (indent : Nat) (key value : Text) :
    render ⟨indent, key, value⟩ = Text.spaces indent ++ ':' :: (key ++ ':' :: afterKey value) := by
  simp only [render, afterKey, List.append_assoc, List.cons_append, List.nil_append]

theorem trim_afterKey (value : Text) : (afterKey value).trim = value.trim := by
  cases value with
  | nil => rfl
  | cons c t =>
    have hSpace : ∀ b ∈ [' '], Text.isBlank b = true := List.all_eq_true.mp (by decide)
    exact Text.trim_blank_append hSpace (c :: t)

/-- White space is all that is cut off. -/
theorem trimEnd_afterKey (value : Text) :
    Text.trimEnd (afterKey value) =
      if value.isBlankLine then [] else ' ' :: Text.trimEnd value := by
  cases value with
  | nil => rfl
  | cons c t =>
    show Text.trimEnd ([' '] ++ c :: t) = _
    rw [Text.trimEnd_append]
    rfl

theorem trim_render (indent : Nat) (key value : Text) :
    (render ⟨indent, key, value⟩).trim = ':' :: key ++ [':'] ++ Text.trimEnd (afterKey value) := by
  have hSpaces : ∀ c ∈ Text.spaces indent, Text.isBlank c = true := fun c =>
    Text.isBlank_of_mem_spaces
  have hColon : Text.isBlank ':' = false := by decide
  have hParts : ':' :: (key ++ ':' :: afterKey value) = ':' :: key ++ [':'] ++ afterKey value := by
    simp only [List.append_assoc, List.cons_append, List.nil_append]
  rw [render_eq, Text.trim_blank_append hSpaces, Text.trim_cons hColon, hParts, Text.trimEnd_append,
    Text.trimEnd_concat hColon]
  split
  · next hBlank => rw [Text.trimEnd_of_isBlankLine hBlank, List.append_nil]
  · rfl

/-- Only the word of a marker makes the line one, and only when no value follows it. -/
theorem sameLetters_marker {word : Text} (hWord : ' ' ∉ word.asciiUpper)
    (h : (render ⟨indent, key, value⟩).trim.sameLetters (':' :: word ++ [':']) = true) :
    value.trim = [] ∧ key.sameLetters word = true := by
  rw [trim_render, trimEnd_afterKey, Text.sameLetters_iff] at h
  simp only [Text.asciiUpper, List.map_append, List.map_cons, List.map_nil, List.cons_append,
    List.cons.injEq] at h
  obtain ⟨-, h⟩ := h
  split at h
  · next hBlank =>
    rw [List.map_nil, List.append_nil] at h
    exact ⟨(Text.isBlankLine_iff_trim_eq_nil value).mp hBlank,
      Text.sameLetters_iff.mpr (List.append_cancel_right h)⟩
  · -- A value stands behind a space, and the marker has none.
    have hSpace : ' ' ∈ word.map Char.toUpper ++ [':'.toUpper] := by
      rw [← h]
      exact List.mem_append_right _ (List.mem_cons_self ..)
    rcases List.mem_append.mp hSpace with hSpace | hSpace
    · exact absurd hSpace hWord
    · exact absurd (List.mem_singleton.mp hSpace) (by decide)

/-- Without a value the word of a marker does make the line one. -/
theorem sameLetters_marker_of_sameLetters {word : Text} (hNil : value.trim = [])
    (h : key.sameLetters word = true) :
    (render ⟨indent, key, value⟩).trim.sameLetters (':' :: word ++ [':']) = true := by
  have hBlank := (Text.isBlankLine_iff_trim_eq_nil value).mpr hNil
  rw [Text.sameLetters_iff] at h ⊢
  simp only [Text.asciiUpper] at h ⊢
  rw [trim_render, trimEnd_afterKey, if_pos hBlank, List.append_nil]
  simp only [List.map_append, List.map_cons, h]

theorem isStart_render_of_sameLetters (hNil : value.trim = [])
    (h : key.sameLetters "PROPERTIES".toList = true) (indent : Nat) :
    Drawer.isStart (render ⟨indent, key, value⟩) = true :=
  sameLetters_marker_of_sameLetters hNil h

/-- The line is no closing marker, unless it has the word of one and no value. -/
theorem isEnd_render (h : value.trim = [] → key.sameLetters "END".toList = false) (indent : Nat) :
    Drawer.isEnd (render ⟨indent, key, value⟩) = false := by
  rw [← Bool.not_eq_true]
  intro hEnd
  have hSpace : ' ' ∉ Text.asciiUpper "END".toList := by decide
  obtain ⟨hNil, hWord⟩ := sameLetters_marker hSpace hEnd
  rw [h hNil] at hWord
  contradiction

theorem Statable.isStart_render (h : Statable key value) (indent : Nat) :
    Drawer.isStart (render ⟨indent, key, value⟩) = false := by
  rw [← Bool.not_eq_true]
  intro hStart
  have hSpace : ' ' ∉ Text.asciiUpper "PROPERTIES".toList := by decide
  obtain ⟨hNil, hWord⟩ := sameLetters_marker hSpace hStart
  rw [(h.not_marker hNil).1] at hWord
  contradiction

theorem Statable.isEnd_render (h : Statable key value) (indent : Nat) :
    Drawer.isEnd (render ⟨indent, key, value⟩) = false :=
  Property.isEnd_render (fun hNil => (h.not_marker hNil).2) indent

/-- **An entry is read back** from the line that states it. -/
theorem parse?_render (h : Statable key value) (indent : Nat) :
    parse? (render ⟨indent, key, value⟩) = some ⟨indent, key, value.trim⟩ := by
  have hColon : Text.indent (':' :: (key ++ ':' :: afterKey value)) = 0 := rfl
  have hIndent : Text.indent (render ⟨indent, key, value⟩) = indent := by
    rw [render_eq, Text.indent_spaces_append hColon]
  have hDrop : Text.dropIndent (render ⟨indent, key, value⟩) =
      ':' :: (key ++ ':' :: afterKey value) := by
    rw [render_eq, Text.dropIndent_append (fun c => Text.isSpaceOrTab_of_mem_spaces) hColon]
  -- The key goes up to the second colon, and what is behind it is empty or opens with a space.
  have hKey : (key ++ ':' :: afterKey value).takeWhile isKeyChar = key := by
    rw [List.takeWhile_append_of_pos h.isKeyChar, List.takeWhile_cons_of_neg (by decide),
      List.append_nil]
  have hRest : (key ++ ':' :: afterKey value).dropWhile isKeyChar = ':' :: afterKey value := by
    rw [List.dropWhile_append_of_pos h.isKeyChar, List.dropWhile_cons_of_neg (by decide)]
  have hGap : Text.atGap (afterKey value) = true := by
    cases value <;> rfl
  rw [parse?, h.isStart_render, h.isEnd_render, hDrop]
  simp only [hKey, hRest, hIndent, hGap, trim_afterKey]
  simp [h.key_ne_nil]

/-! ## Entries and headings -/

/-- Whatever it states, the line of an entry is no heading. -/
theorem levelOf_render (p : Property) : Heading.levelOf (render p) = 0 := by
  obtain ⟨indent, key, value⟩ := p
  rw [render_eq]
  cases indent with
  | zero => exact Heading.levelOf_cons_of_ne (by decide) _
  | succ indent => exact Heading.levelOf_cons_of_ne (by decide) _

/-- No entry line is a heading. -/
theorem levelOf_eq_zero_of_parse? (h : parse? line = some p) : Heading.levelOf line = 0 := by
  rw [parse?] at h
  split at h
  · contradiction
  · split at h
    · next t hColon =>
      rcases Nat.eq_zero_or_pos line.indent with hZero | hPos
      · rw [Text.dropIndent_eq_drop, hZero, List.drop_zero] at hColon
        rw [hColon]
        exact Heading.levelOf_cons_of_ne (by decide) t
      · exact Heading.levelOf_eq_zero_of_indent_pos hPos
    · contradiction

/-- No entry line is a marker. -/
theorem not_marker_of_parse? (h : parse? line = some p) :
    Drawer.isStart line = false ∧ Drawer.isEnd line = false := by
  rw [parse?] at h
  split at h
  · contradiction
  · next hMarker => simpa using hMarker

end Outliner.Property
