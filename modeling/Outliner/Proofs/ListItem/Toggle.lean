import Outliner.Proofs.ListItem.Layout

/-!
# Outliner — toggled checkboxes

The edit that toggles a checkbox looks for the box behind the marker as it would be written. A marker
that was read with leading zeros is longer, so the search starts inside it; but no bracket stands in
a marker or in the gap behind it, and the first one found is that of the box. What is replaced is the
mark behind this bracket, and the line with another mark is the same item with another state.

* `ListItem.Boxed` — an item line up to its mark, and behind it.
* `ListItem.toggle?` — the document with the checkbox on a line toggled.

Main results:

* `Boxed.with_mark` — another mark is another state, and nothing else.
* `Boxed.toggleEdit?_eq` — the edit replaces the mark.
* `toggle_changes_mark` — toggling a checkbox once, and three times.
-/

namespace Outliner.ListItem

variable {line lead marker space behind after : Text} {mark mark' : Char} {item : ListItem}
  {state : Checkbox} {lines : Lines} {n : Nat} {d : Document}

/-! ## The mark in its line -/

/-- No marker holds a bracket. -/
theorem Layout.notMem_marker (h : Layout line item lead marker after) : '[' ∉ marker := by
  cases hBullet : item.bullet with
  | ordered number delimiter =>
    obtain ⟨digits, -, hDigits, hDelimiter, rfl⟩ := h.exists_digits hBullet
    rw [List.mem_append, List.mem_singleton]
    rintro (hDigit | rfl)
    · exact absurd (hDigits _ hDigit) (by decide)
    · exact absurd hDelimiter (by decide)
  | dash | plus | star =>
    rw [h.marker_eq_render (by rw [hBullet]; rfl), hBullet]
    decide

/-- A marker is at least as long as in writing. -/
theorem Layout.length_render_le (h : Layout line item lead marker after) :
    item.bullet.render.length ≤ marker.length := by
  obtain ⟨marker', hMarker, hLength, -⟩ := Bullet.exists_marker_of_take? (h.take [])
  rw [List.append_nil, List.append_nil] at hMarker
  rwa [hMarker]

/-- The line of an item with a checkbox: behind the marker stand spaces, the box with its mark, and
the rest. -/
structure Boxed (line : Text) (item : ListItem) (lead marker space : Text) (mark : Char)
    (behind : Text) : Prop extends
    Layout line item lead marker (space ++ '[' :: mark :: ']' :: behind) where
  space_blank : ∀ c ∈ space, Text.isSpaceOrTab c = true
  gap_behind : Text.atGap behind = true
  has_box : item.checkbox.isSome = true
  mark_read : Checkbox.ofMark? mark = item.checkbox

theorem exists_boxed_of_parse? (hParse : ListItem.parse? line = some item)
    (hBox : item.checkbox = some state) :
    ∃ lead marker space mark behind, Boxed line item lead marker space mark behind := by
  obtain ⟨lead, marker, after, h⟩ := exists_layout_of_parse? hParse
  obtain ⟨mark, behind, hText, hMark, hBehind⟩ :=
    Checkbox.exists_eq_of_take (h.box.trans hBox)
  have hAfter : after.take (Text.indent after) ++ '[' :: mark :: ']' :: behind = after := by
    rw [← hText, Text.take_indent_append_dropIndent]
  exact ⟨lead, marker, after.take (Text.indent after), mark, behind, by rwa [hAfter],
    fun c hc => Text.isSpaceOrTab_of_mem_take_indent hc, hBehind, by rw [hBox]; rfl,
    hMark.trans hBox.symm⟩

/-- What stands in front of the mark. -/
def beforeMark (lead marker space : Text) : Text :=
  lead ++ (marker ++ (space ++ ['[']))

section

variable (h : Boxed line item lead marker space mark behind)

include h

theorem Boxed.line_eq : line = beforeMark lead marker space ++ mark :: ']' :: behind := by
  rw [h.eq]
  simp [beforeMark]

theorem Boxed.getElem?_mark : (line)[(beforeMark lead marker space).length]? = some mark := by
  rw [h.line_eq, List.getElem?_append_right (Nat.le_refl _), Nat.sub_self]
  rfl

theorem Boxed.set_mark (mark' : Char) :
    line.set (beforeMark lead marker space).length mark' =
      beforeMark lead marker space ++ mark' :: ']' :: behind := by
  rw [h.line_eq, List.set_append_right _ _ (Nat.le_refl _), Nat.sub_self]
  rfl

/-- **Another mark** is read as another state. Nothing else of the item changes. -/
theorem Boxed.with_mark (hMark : Checkbox.ofMark? mark' = some state) :
    Boxed (line.set (beforeMark lead marker space).length mark')
      { item with checkbox := some state } lead marker space mark' behind := by
  have hDrop : ∀ c : Char, Text.dropIndent (space ++ '[' :: c :: ']' :: behind) =
      '[' :: c :: ']' :: behind := fun c => Text.dropIndent_append h.space_blank rfl
  -- Both boxes leave the same rest.
  have hContent : Text.trimEnd (Text.dropIndent behind) = item.content := by
    obtain ⟨old, hOld⟩ := Option.isSome_iff_exists.mp h.has_box
    have hRest := h.content
    rwa [hDrop, Checkbox.take_cons (h.mark_read.trans hOld) h.gap_behind] at hRest
  have hNew := Checkbox.take_cons hMark h.gap_behind
  refine ⟨⟨?_, h.lead_blank, h.length_lead, h.take, ?_, h.not_heading, ?_, ?_⟩, h.space_blank,
    h.gap_behind, rfl, hMark⟩
  · rw [h.set_mark]
    simp [beforeMark]
  · -- The gap behind the marker is in front of the box.
    have hGap := h.gap
    cases space with
    | nil => simp [Text.atGap, Text.isSpaceOrTab] at hGap
    | cons c space => exact hGap
  · rw [hDrop, hNew]
  · rw [hDrop, hNew]
    exact hContent

end

/-! ## The edit -/

/-- **The edit of a toggle** replaces the mark. -/
theorem Boxed.toggleEdit?_eq (h : Boxed (lines.lineAt n) item lead marker space mark behind)
    (hState : item.checkbox = some state) :
    toggleEdit? lines n = some ⟨.onLine n (beforeMark lead marker space).length
      ((beforeMark lead marker space).length + 1), [state.toggled.mark]⟩ := by
  -- The search starts in the marker as it stands, and finds no bracket in front of the box.
  have hFrom : (lines.lineAt n).drop (item.indent + item.bullet.render.length) =
      (marker.drop item.bullet.render.length ++ space) ++ '[' :: mark :: ']' :: behind := by
    rw [← List.drop_drop, h.drop_indent, List.drop_append_of_le_length h.length_render_le,
      List.append_assoc]
  have hNone : '[' ∉ marker.drop item.bullet.render.length ++ space := by
    rw [List.mem_append]
    rintro (hMarker | hSpace)
    · exact h.notMem_marker (List.mem_of_mem_drop hMarker)
    · exact absurd (h.space_blank _ hSpace) (by decide)
  have hFound : ((lines.lineAt n).drop (item.indent + item.bullet.render.length)).findIdx?
      (· == '[') = some (marker.drop item.bullet.render.length ++ space).length := by
    have hFront : (marker.drop item.bullet.render.length ++ space).findIdx? (· == '[') = none := by
      rw [List.findIdx?_eq_none_iff]
      intro c hc
      rw [beq_eq_false_iff_ne]
      rintro rfl
      exact hNone hc
    rw [hFrom, List.findIdx?_append, hFront]
    simp [List.findIdx?_cons]
  have hColumn : item.indent + item.bullet.render.length +
      (marker.drop item.bullet.render.length ++ space).length + 1 =
        (beforeMark lead marker space).length := by
    have := h.length_render_le
    have := h.length_lead
    simp [beforeMark]
    omega
  simp only [toggleEdit?, h.parse?, hState, hFound, Option.bind_eq_bind, Option.bind_some, hColumn]

/-- The document with the checkbox on line `n` toggled. -/
def toggle? (n : Nat) (d : Document) : Option Document :=
  (toggleEdit? d.lines n).bind fun e => d.edit? [e]

/-- **A toggle** puts the mark of the next state in the place of the old mark. The new line is laid out
like the old one. -/
theorem Boxed.exists_toggle?_eq (hLines : d.lines.Unbroken)
    (h : Boxed (d.lines.lineAt n) item lead marker space mark behind)
    (hState : item.checkbox = some state) :
    ∃ d', toggle? n d = some d' ∧ d'.lineEnd = d.lineEnd ∧
      d'.lines = d.lines.set n
        ((d.lines.lineAt n).set (beforeMark lead marker space).length state.toggled.mark) ∧
      d'.lines.Unbroken ∧
      Boxed (d'.lines.lineAt n) { item with checkbox := some state.toggled } lead marker space
        state.toggled.mark behind := by
  have hn : n < d.lines.length := lt_length_of_parse? h.parse?
  have hInside : (beforeMark lead marker space).length + 1 ≤ (d.lines.lineAt n).length := by
    rw [h.line_eq]
    simp
  have hMark : Text.Unbroken [state.toggled.mark] := by
    cases state <;> simp [Checkbox.toggled, Checkbox.mark]
  obtain ⟨d', hEdit, hResult, hEnd⟩ :=
    Batch.exists_edit?_onLine hLines hn (Nat.le_add_right _ 1) hInside hMark
  have hLine : (d.lines.lineAt n).take (beforeMark lead marker space).length ++
      [state.toggled.mark] ++ (d.lines.lineAt n).drop ((beforeMark lead marker space).length + 1) =
        (d.lines.lineAt n).set (beforeMark lead marker space).length state.toggled.mark := by
    rw [List.set_eq_take_append_cons_drop, if_pos (Nat.lt_of_succ_le hInside), List.append_assoc]
    rfl
  rw [hLine] at hResult
  refine ⟨d', ?_, hEnd, hResult, ?_, ?_⟩
  · rw [toggle?, h.toggleEdit?_eq hState]
    exact hEdit
  · rw [hResult]
    refine hLines.set ?_ n
    rw [← hLine, Text.unbroken_append_iff, Text.unbroken_append_iff]
    exact ⟨⟨(hLines.lineAt n).take _, hMark⟩, (hLines.lineAt n).drop _⟩
  · rw [hResult, Lines.lineAt_set_self hn]
    exact h.with_mark (Checkbox.ofMark?_mark _)

/-! ## Toggling once, and three times -/

/-- Of two marks that are put in one column, the later one is left. -/
theorem set_mark_twice {lines lines₁ lines₂ : Lines} {column : Nat} (hn : n < lines.length)
    (h₁ : lines₁ = lines.set n ((lines.lineAt n).set column mark))
    (h₂ : lines₂ = lines₁.set n ((lines₁.lineAt n).set column mark')) :
    lines₂ = lines.set n ((lines.lineAt n).set column mark') := by
  rw [h₂, h₁, Lines.lineAt_set_self hn, List.set_set, List.set_set]

/-- **Toggling a checkbox.** The item on line `n` has a checkbox, in whatever spelling: the mark of
its state is in some column of the line, and the document after the toggle differs in this character
only. It is now the mark of the next state, and the line is read as the same item in this state.
Toggling three times comes to the same document as toggling once. -/
theorem toggle_changes_mark {d : Document} {n : Nat} {item : ListItem} {state : Checkbox}
    (hReturn : ∀ l ∈ d.lines, '\r' ∉ l)
    (hParse : ListItem.parse? (d.lines.lineAt n) = some item)
    (hBox : item.checkbox = some state) :
    ∃ column mark d', toggle? n d = some d' ∧ d'.lineEnd = d.lineEnd ∧
      (d.lines.lineAt n)[column]? = some mark ∧ Checkbox.ofMark? mark = some state ∧
      d'.lines = d.lines.set n ((d.lines.lineAt n).set column state.toggled.mark) ∧
      ListItem.parse? (d'.lines.lineAt n) = some { item with checkbox := some state.toggled } ∧
      (toggle? n d').bind (toggle? n) = some d' := by
  obtain ⟨lead, marker, space, mark, behind, h⟩ := exists_boxed_of_parse? hParse hBox
  have hn := lt_length_of_parse? hParse
  obtain ⟨d₁, hToggle₁, hEnd₁, hLines₁, hUnbroken₁, h₁⟩ :=
    h.exists_toggle?_eq (Document.unbroken_lines hReturn) hBox
  refine ⟨_, mark, d₁, hToggle₁, hEnd₁, h.getElem?_mark, h.mark_read.trans hBox, hLines₁,
    h₁.parse?, ?_⟩
  -- The mark stays in its column, so of three marks the last one is left.
  obtain ⟨d₂, hToggle₂, hEnd₂, hLines₂, hUnbroken₂, h₂⟩ := h₁.exists_toggle?_eq hUnbroken₁ rfl
  obtain ⟨d₃, hToggle₃, hEnd₃, hLines₃, -, -⟩ := h₂.exists_toggle?_eq hUnbroken₂ rfl
  have hLast := set_mark_twice hn (set_mark_twice hn hLines₁ hLines₂) hLines₃
  rw [Checkbox.toggled_toggled_toggled, ← hLines₁] at hLast
  rw [hToggle₂, Option.bind_some, hToggle₃,
    Document.eq_of_lines hLast (hEnd₃.trans hEnd₂)]

/-- A number with leading zeros, a tab in front of the box, a small letter for its mark, and another
box in the content. -/
theorem toggle_changes_mark_padded :
    let d := Document.ofText "* H\n \t007)\t[x]\t\u00fc [ ] \n- b".toList
    ∃ d', toggle? 1 d = some d' ∧
      d'.lines = ["* H".toList, " \t007)\t[ ]\t\u00fc [ ] ".toList, "- b".toList] ∧
      ListItem.parse? (d'.lines.lineAt 1) =
        some ⟨2, .ordered 7 ')', some .empty, "\u00fc [ ]".toList⟩ ∧
      (toggle? 1 d').bind (toggle? 1) = some d' := by
  intro d
  have hParse : ListItem.parse? (d.lines.lineAt 1) =
      some ⟨2, .ordered 7 ')', some .checked, "\u00fc [ ]".toList⟩ := by
    decide
  obtain ⟨column, mark, d', hToggle, -, -, -, -, hParse', hTwice⟩ :=
    toggle_changes_mark (d := d) (by decide) hParse rfl
  have hLines : (toggle? 1 d).map Document.lines =
      some ["* H".toList, " \t007)\t[ ]\t\u00fc [ ] ".toList, "- b".toList] := by
    decide
  rw [hToggle] at hLines
  exact ⟨d', hToggle, Option.some.inj hLines, hParse', hTwice⟩

end Outliner.ListItem
