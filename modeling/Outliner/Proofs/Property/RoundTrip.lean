import Outliner.Proofs.Property

/-!
# Outliner — entries read back

An entry line says more than its entry: how wide the gap behind the key is, what white space follows
the value, and with which spaces and tabs the line is indented. What it says of the entry is kept
when the entry is written again. So the entries that lines can state are those that are read back,
and these can be told from their parts alone.

* `Property.Canonical` — the parts of an entry that a line can state.

Main results:

* `exists_of_parse?` — the line of an entry that has been read.
* `canonical_of_parse?` — what is read is canonical, whatever the line.
* `entry_read_back` — canonical entries, and no others, are read back.
-/

namespace Outliner.Property

variable {line rest : Text} {p : Property}

/-- The key is not empty and holds neither white space nor a colon, the value has no white space at
its ends, and the line is not that of a marker. -/
structure Canonical (p : Property) : Prop where
  key_ne_nil : p.key ≠ []
  key_solid : ∀ c ∈ p.key, Text.isBlank c = false ∧ c ≠ ':'
  value_trimmed : p.value.Trimmed
  not_marker : p.value = [] →
    p.key.sameLetters "END".toList = false ∧ p.key.sameLetters "PROPERTIES".toList = false

theorem isKeyChar_iff {c : Char} : isKeyChar c = true ↔ Text.isBlank c = false ∧ c ≠ ':' := by
  simp [isKeyChar]

theorem Canonical.statable (h : p.Canonical) : Statable p.key p.value where
  key_ne_nil := h.key_ne_nil
  isKeyChar c hc := isKeyChar_iff.mpr (h.key_solid c hc)
  not_marker hNil := by
    rw [Text.trimmed_iff.mp h.value_trimmed] at hNil
    exact (h.not_marker hNil).symm

/-- A canonical entry is read back as it is. -/
theorem Canonical.parse?_render (h : p.Canonical) : parse? (render p) = some p := by
  have hRead := Property.parse?_render h.statable p.indent
  rw [Text.trimmed_iff.mp h.value_trimmed] at hRead
  exact hRead

/-! ## What is read -/

/-- **The line of an entry:** behind the indentation a colon, the key, a colon, and then what the
value is cut out of. -/
theorem exists_of_parse? (h : parse? line = some p) :
    ∃ rest, line.dropIndent = ':' :: (p.key ++ ':' :: rest) ∧ p.key ≠ [] ∧
      (∀ c ∈ p.key, isKeyChar c = true) ∧ p.value = Text.trim rest := by
  rw [parse?] at h
  split at h
  · contradiction
  · split at h
    · next t hColon =>
      dsimp only at h
      split at h
      · next rest hRest =>
        simp only [Option.ite_none_right_eq_some, Option.some.injEq] at h
        obtain ⟨⟨hKey, -⟩, rfl⟩ := h
        refine ⟨rest, ?_, hKey, fun c hc => List.mem_takeWhile_imp hc, rfl⟩
        rw [hColon, ← hRest, List.takeWhile_append_dropWhile]
      · contradiction
    · contradiction

/-- Without a value, the line is compared with a marker as if it were written anew. -/
theorem trim_eq_trim_render (hLine : line.dropIndent = ':' :: (p.key ++ ':' :: rest))
    (hNil : Text.trim rest = []) (indent : Nat) :
    line.trim = (render ⟨indent, p.key, []⟩).trim := by
  have hLead : ∀ c ∈ line.take line.indent, Text.isBlank c = true := fun c hc =>
    Text.isBlank_of_isSpaceOrTab (Text.isSpaceOrTab_of_mem_take_indent hc)
  have hBlank : rest.isBlankLine = true := (Text.isBlankLine_iff_trim_eq_nil rest).mpr hNil
  have hColon : Text.isBlank ':' = false := by decide
  have hParts : ':' :: (p.key ++ ':' :: rest) = ':' :: p.key ++ [':'] ++ rest := by
    simp only [List.append_assoc, List.cons_append, List.nil_append]
  calc line.trim
      = Text.trim (line.take line.indent ++ line.dropIndent) := by
        rw [Text.take_indent_append_dropIndent]
    _ = Text.trimEnd (':' :: p.key ++ [':'] ++ rest) := by
        rw [Text.trim_blank_append hLead, hLine, Text.trim_cons hColon, hParts]
    _ = ':' :: p.key ++ [':'] := by
        rw [Text.trimEnd_append, if_pos hBlank, Text.trimEnd_concat hColon]
    _ = (render ⟨indent, p.key, []⟩).trim := by
        rw [trim_render, afterKey, List.isEmpty_nil, if_pos rfl]
        exact (List.append_nil _).symm

/-- What is read is canonical. Its line would have been a marker if it had the word of one and no
value. -/
theorem canonical_of_parse? (h : parse? line = some p) : p.Canonical := by
  obtain ⟨rest, hLine, hKey, hChars, hValue⟩ := exists_of_parse? h
  obtain ⟨hStart, hEnd⟩ := not_marker_of_parse? h
  refine ⟨hKey, fun c hc => isKeyChar_iff.mp (hChars c hc), ?_, fun hNil => ?_⟩
  · rw [hValue]
    exact Text.trimmed_trim rest
  · have hTrim := trim_eq_trim_render hLine (hValue ▸ hNil) 0
    rw [Drawer.isStart, hTrim] at hStart
    rw [Drawer.isEnd, hTrim] at hEnd
    constructor
    · rw [← Bool.not_eq_true] at hEnd ⊢
      exact fun hSame => hEnd (sameLetters_marker_of_sameLetters rfl hSame)
    · rw [← Bool.not_eq_true] at hStart ⊢
      exact fun hSame => hStart (sameLetters_marker_of_sameLetters rfl hSame)

/-- **Entries read back.** The line of an entry is read as that entry exactly if the entry is
canonical. Whatever line an entry has been read from, it is canonical, and so it is read back. -/
theorem entry_read_back (p : Property) :
    (parse? (render p) = some p ↔ p.Canonical) ∧
      ∀ line, parse? line = some p → p.Canonical ∧ parse? (render p) = some p := by
  refine ⟨⟨canonical_of_parse?, Canonical.parse?_render⟩, fun line hRead => ?_⟩
  have hCanonical := canonical_of_parse? hRead
  exact ⟨hCanonical, hCanonical.parse?_render⟩

/-- A space or a tab has to follow the key, but around the value all white space is cut off. -/
example :
    parse? "\t:end:\u00a0 x\u2003".toList = none ∧
      parse? "\t:end: \u00a0x\u2003".toList = some ⟨1, "end".toList, "x".toList⟩ := by
  decide

end Outliner.Property
