import Outliner.Proofs.ListItem.Layout

/-!
# Outliner — an item that is written and read again

An item is written with one space behind its marker and one behind its checkbox. The marker and the
checkbox end at that space, so both are read back whatever the content; what is read in front of the
content can only be lost or added where the content itself looks like it: it is indented, it has
white space at its end, or there is no checkbox and the content opens with one.

* `Checkbox.Opens` — the text opens with a checkbox.
* `ListItem.Regular` — the parts are what they can be.
* `ListItem.Canonical` — no checkbox is read off the content, either.
* `ListItem.front` — what is written in front of the content.

Main results:

* `Checkbox.fst_take_eq_none_iff` — a checkbox is read exactly where one opens the text.
* `ListItem.parse?_render_iff_canonical` — exactly the canonical items are read back.
* `ListItem.canonical_read_back` — and their content is found where it was written.
-/

namespace Outliner

/-! ## The checkbox in front of a text -/

namespace Checkbox

variable {t : Text} {mark : Char}

/-- The text opens with a checkbox: one of the four marks in brackets, and then a space, a tab or
the end. -/
def Opens (t : Text) : Prop :=
  ∃ mark ∈ [' ', '-', 'X', 'x'], ∃ after, t = '[' :: mark :: ']' :: after ∧ Text.atGap after = true

/-- The four marks are those that stand for a state. -/
theorem ofMark?_eq_none_iff : ofMark? mark = none ↔ mark ∉ [' ', '-', 'X', 'x'] := by
  unfold ofMark?
  split <;> simp_all

/-- **A checkbox is read** exactly where one opens the text. -/
theorem fst_take_eq_none_iff : (take t).1 = none ↔ ¬Opens t := by
  constructor
  · rintro hNone ⟨mark, hMark, after, rfl, hGap⟩
    cases hState : ofMark? mark with
    | none => exact ofMark?_eq_none_iff.mp hState hMark
    | some state =>
      rw [take_cons hState hGap] at hNone
      contradiction
  · intro hNot
    rw [Option.eq_none_iff_forall_ne_some]
    intro state hTake
    obtain ⟨mark, after, hText, hState, hGap⟩ := exists_eq_of_take hTake
    refine hNot ⟨mark, ?_, after, hText, hGap⟩
    by_contra hMark
    rw [ofMark?_eq_none_iff.mpr hMark] at hState
    contradiction

/-- What a checkbox leaves of a text that is not indented: nothing is left off at the front, and
without a checkbox it is all there was. -/
theorem take_spec (ht : t.indent = 0) :
    Text.indent (take t).2 = 0 ∧ ((take t).1 = none → (take t).2 = t) := by
  rw [take.eq_def]
  split
  · split
    · split
      · exact ⟨Text.indent_dropIndent _, by simp⟩
      · exact ⟨ht, fun _ => rfl⟩
    · exact ⟨ht, fun _ => rfl⟩
  · exact ⟨ht, fun _ => rfl⟩

/-- A box in front of a space is read, and the text behind it is left. -/
theorem take_render_append (state : Checkbox) (ht : t.indent = 0) :
    take (state.render ++ ' ' :: t) = (some state, t) := by
  have hGap : Text.atGap (' ' :: t) = true := rfl
  have hTake := take_cons (ofMark?_mark state) hGap
  rwa [Text.dropIndent_space_cons ht] at hTake

end Checkbox

namespace ListItem

variable {line : Text} {item : ListItem}

/-! ## The parts in writing -/

/-- What is written behind the marker of an item and the space after it. -/
def written (item : ListItem) : Text :=
  (match item.checkbox with
    | some state => state.render ++ [' ']
    | none => []) ++ item.content

theorem render_eq (item : ListItem) :
    item.render = Text.spaces item.indent ++ (item.bullet.render ++ ' ' :: item.written) := by
  unfold render written
  cases item.checkbox with
  | none => simp
  | some state => simp

/-- What is written in front of the content: the indentation, the marker and the checkbox, with the
spaces behind them. -/
def front (item : ListItem) : Text :=
  Text.spaces item.indent ++ item.bullet.render ++ [' ']
    ++ (match item.checkbox with
      | some state => state.render ++ [' ']
      | none => [])

theorem render_eq_front (item : ListItem) : item.render = item.front ++ item.content :=
  rfl

/-- The parts of an item are what they can be. -/
structure Regular (item : ListItem) : Prop where
  /-- A number has one of the two delimiters that are read. -/
  bullet : item.bullet.Standard
  /-- A star in column zero opens a heading. -/
  not_heading : ¬(item.indent = 0 ∧ item.bullet = .star)
  indent_content : Text.indent item.content = 0
  trimEnd_content : Text.trimEnd item.content = item.content

theorem Regular.indent_written (h : Regular item) : Text.indent item.written = 0 := by
  unfold written
  cases item.checkbox with
  | none => exact h.indent_content
  | some state => rfl

/-- What is read behind the marker of a regular item: its checkbox, or one that opens its content
when it has none. -/
theorem Regular.take_written_eq_iff (h : Regular item) :
    Checkbox.take item.written = (item.checkbox, item.content) ↔
      (item.checkbox = none → ¬Checkbox.Opens item.content) := by
  cases hBox : item.checkbox with
  | some state =>
    -- The box is in front of a space, so it is read whatever the content.
    have hWritten : item.written = state.render ++ ' ' :: item.content := by
      simp [written, hBox]
    rw [hWritten]
    exact iff_of_true (Checkbox.take_render_append state h.indent_content) (by simp)
  | none =>
    have hWritten : item.written = item.content := by simp [written, hBox]
    rw [hWritten, ← Checkbox.fst_take_eq_none_iff]
    constructor
    · rintro hTake -
      exact congrArg Prod.fst hTake
    · intro hNone
      exact Prod.ext (hNone rfl) ((Checkbox.take_spec h.indent_content).2 (hNone rfl))

/-- The line of a regular item has the layout of what is read: the indentation and the marker of the
item, and of what is written behind them the checkbox and the rest. -/
theorem Regular.layout_render (h : Regular item) :
    Layout item.render
      { item with
        checkbox := (Checkbox.take item.written).1
        content := Text.trimEnd (Checkbox.take item.written).2 }
      (Text.spaces item.indent) item.bullet.render (' ' :: item.written) where
  eq := item.render_eq
  lead_blank _ := Text.isSpaceOrTab_of_mem_spaces
  length_lead := List.length_replicate
  take := Bullet.take?_render_append h.bullet
  gap := by simp [Text.atGap, Text.isSpaceOrTab]
  not_heading := h.not_heading
  box := by rw [Text.dropIndent_space_cons h.indent_written]
  content := by rw [Text.dropIndent_space_cons h.indent_written]

/-- **A regular item is read back** exactly if it has a checkbox, or its content does not open with
one. -/
theorem Regular.parse?_render_eq_iff (h : Regular item) :
    ListItem.parse? item.render = some item ↔
      (item.checkbox = none → ¬Checkbox.Opens item.content) := by
  rw [h.layout_render.parse?, Option.some.injEq]
  constructor
  · -- An item without a checkbox is read back only if none is read.
    intro hSame hNone
    have hWritten : item.written = item.content := by simp [written, hNone]
    have hBox : (Checkbox.take item.written).1 = item.checkbox := congrArg ListItem.checkbox hSame
    rwa [hNone, hWritten, Checkbox.fst_take_eq_none_iff] at hBox
  · intro hNoBox
    rw [h.take_written_eq_iff.mpr hNoBox, h.trimEnd_content]

/-! ## Canonical items -/

/-- **What is read from a line is regular.** -/
theorem regular_of_parse? (hp : ListItem.parse? line = some item) : Regular item := by
  obtain ⟨lead, marker, after, h⟩ := exists_layout_of_parse? hp
  have hIndent := (Checkbox.take_spec (Text.indent_dropIndent after)).1
  refine ⟨standard_of_parse? hp, h.not_heading, ?_, ?_⟩
  · rw [← h.content]
    exact Text.indent_eq_zero_of_prefix (Text.trimEnd_prefix _) hIndent
  · rw [← h.content, Text.trimEnd_trimEnd]

/-- A regular item whose content does not open with a checkbox where it has none. -/
structure Canonical (item : ListItem) : Prop extends Regular item where
  no_box : item.checkbox = none → ¬Checkbox.Opens item.content

/-- **Exactly the canonical items** are read back from their lines. -/
theorem parse?_render_iff_canonical :
    ListItem.parse? item.render = some item ↔ Canonical item := by
  constructor
  · intro hp
    have hRegular := regular_of_parse? hp
    exact ⟨hRegular, hRegular.parse?_render_eq_iff.mp hp⟩
  · intro h
    exact h.parse?_render_eq_iff.mpr h.no_box

/-- **Canonical items are read back from their lines**, and their content starts behind what is
written in front of it. -/
theorem canonical_read_back (h : Canonical item) :
    ListItem.parse? item.render = some item ∧
      item.render = item.front ++ item.content ∧
        contentColumn? item.render = some item.front.length := by
  refine ⟨parse?_render_iff_canonical.mpr h, item.render_eq_front, ?_⟩
  -- What the scan leaves of the line is the content.
  have hRest := h.take_written_eq_iff.mpr h.no_box
  have hScan : scan? item.render = some (item, item.content) := by
    rw [h.layout_render.scan?, Text.dropIndent_space_cons h.indent_written, hRest,
      h.trimEnd_content]
  rw [contentColumn?, hScan, Option.map_some, item.render_eq_front]
  show some ((item.front ++ item.content).length - item.content.length) = some item.front.length
  rw [List.length_append, Nat.add_sub_cancel]

/-- The largest number, and content that opens like a checkbox but goes on. -/
theorem canonical_read_back_bracket :
    let item : ListItem := ⟨2, .ordered 18446744073709551615 ')', none, "[x]y [ ] \u00a0z".toList⟩
    ListItem.parse? item.render = some item ∧
      item.render = item.front ++ item.content ∧
        contentColumn? item.render = some item.front.length :=
  canonical_read_back
    { bullet := Or.inr rfl
      not_heading := by simp
      indent_content := by decide
      trimEnd_content := by decide
      no_box := fun _ => Checkbox.fst_take_eq_none_iff.mp (by decide) }

end ListItem

end Outliner
