import Outliner.Proofs.ListItem
import Outliner.Proofs.Text

/-!
# Outliner — how an item line is laid out

An item line is an indentation, a marker and, behind a gap, the rest. What is read from the line
depends on these three alone, so a line with another number in its marker, or with its end cut off,
is read as the same item up to that number or that end.

* `ListItem.Layout` — the three parts of an item line.
* `Bullet.opens` — the characters that open a marker.
* `ListItem.renumbered` — the line with another number in its marker.
* `ListItem.SameButNumber` — two lines differ in the digits of their markers at most.

Main results:

* `parse?_eq_some_iff` — exactly the lines with a layout are read as items.
* `parse?_renumbered`, `runLine_renumbered`, `sameButNumber_renumbered` — a new number, and what
  stays.
* `exists_parse?_take` — an item line that is cut behind its marker.
* `exists_parse?_render_append` — the line of a new item.
-/

namespace Outliner

/-! ## Digits -/

namespace Text

/-- A number that fits in a word is read back from its writing. -/
theorem word?_ofNat {n : Nat} (h : n < UInt64.size) : word? (ofNat n) = some (UInt64.ofNat n) := by
  simp [word?, decimal_ofNat, h]

theorem isDigit_of_mem_ofNat {n : Nat} {c : Char} (h : c ∈ ofNat n) : c.isDigit = true :=
  Nat.isDigit_of_mem_toDigits (by decide) (by decide) h

theorem ofNat_ne_nil (n : Nat) : ofNat n ≠ [] :=
  Nat.toDigits_ne_nil

theorem isBlank_of_isDigit {c : Char} (h : c.isDigit = true) : isBlank c = false := by
  have hLow : 48 ≤ c.toNat := by
    simp only [Char.isDigit, Bool.and_eq_true, decide_eq_true_eq] at h
    exact h.1
  have hHigh : c.toNat ≤ 57 := by
    simp only [Char.isDigit, Bool.and_eq_true, decide_eq_true_eq] at h
    exact h.2
  simp [isBlank]
  omega

end Text

/-! ## Markers -/

namespace Bullet

variable {t after marker : Text} {b : Bullet}

/-- No marker opens with a space or a tab. -/
theorem indent_eq_zero_of_take? (h : take? t = some (b, after)) : t.indent = 0 := by
  cases t with
  | nil => rfl
  | cons c t =>
    by_cases hc : Text.isSpaceOrTab c = true
    · rcases Bool.or_eq_true_iff.mp hc with hc | hc <;> rw [beq_iff_eq.mp hc] at h <;>
        simp [take?, takeNumber?] at h
    · simp [Text.indent, hc]

theorem take?_render_append (h : b.Standard) (t : Text) : take? (b.render ++ t) = some (b, t) := by
  cases b with
  | dash => rfl
  | plus => rfl
  | star => rfl
  | ordered number delimiter =>
    rw [render, List.append_assoc, List.singleton_append]
    refine take?_digits (Text.ofNat_ne_nil _) (fun c hc => Text.isDigit_of_mem_ofNat hc) h ?_ t
    rw [Text.word?_ofNat number.toNat_lt, UInt64.ofNat_toNat]

theorem exists_digits_of_take? {number : UInt64} {delimiter : Char}
    (h : take? marker = some (ordered number delimiter, [])) :
    ∃ digits, digits ≠ [] ∧ (∀ c ∈ digits, c.isDigit = true) ∧
      (delimiter = '.' ∨ delimiter = ')') ∧ marker = digits ++ [delimiter] := by
  rcases take?_eq_some h with ⟨c, -, -, -, hPlain, -⟩ | hNumber
  · contradiction
  · obtain ⟨number', delimiter', hb, hDelimiter, hEq, hDigits, -⟩ := takeNumber?_eq_some hNumber
    injection hb with _ hDelimiter'
    subst hDelimiter'
    exact ⟨_, hDigits, fun c hc => List.mem_takeWhile_imp hc, hDelimiter, hEq⟩

/-- The character opens some marker. -/
def opens (c : Char) : Bool :=
  c == '-' || c == '+' || c == '*' || c.isDigit

theorem isBlank_of_opens {c : Char} (h : opens c = true) : Text.isBlank c = false := by
  simp only [opens, Bool.or_eq_true, beq_iff_eq] at h
  rcases h with ((rfl | rfl) | rfl) | hDigit
  · decide
  · decide
  · decide
  · exact Text.isBlank_of_isDigit hDigit

end Bullet

/-! ## Checkboxes -/

namespace Checkbox

variable {t after : Text} {mark : Char} {state : Checkbox}

/-- The box that opens a text is read, and what stands behind its gap is left. -/
theorem take_cons (hMark : ofMark? mark = some state) (hGap : Text.atGap after = true) :
    take ('[' :: mark :: ']' :: after) = (some state, Text.dropIndent after) := by
  simp [take, hMark, hGap]

theorem exists_eq_of_take (h : (take t).1 = some state) :
    ∃ mark after, t = '[' :: mark :: ']' :: after ∧ ofMark? mark = some state ∧
      Text.atGap after = true := by
  rw [take.eq_def] at h
  split at h
  · next mark after =>
    split at h
    · next state' hMark =>
      split at h
      · next hGap => exact ⟨mark, after, rfl, hMark.trans h, hGap⟩
      · contradiction
    · contradiction
  · contradiction

end Checkbox

/-! ## The three parts of an item line -/

namespace ListItem

variable {line lead marker after : Text} {item : ListItem} {number indent : Nat}

/-- The line is an indentation, a marker and what follows it, and is read as the item. -/
structure Layout (line : Text) (item : ListItem) (lead marker after : Text) : Prop where
  eq : line = lead ++ (marker ++ after)
  lead_blank : ∀ c ∈ lead, Text.isSpaceOrTab c = true
  length_lead : lead.length = item.indent
  /-- The marker is read the same in front of any text. -/
  take : ∀ x, Bullet.take? (marker ++ x) = some (item.bullet, x)
  gap : Text.atGap after = true
  /-- A star in column zero opens a heading. -/
  not_heading : ¬(item.indent = 0 ∧ item.bullet = .star)
  box : (Checkbox.take (Text.dropIndent after)).1 = item.checkbox
  content : Text.trimEnd (Checkbox.take (Text.dropIndent after)).2 = item.content

theorem Layout.indent_rest (h : Layout line item lead marker after) (x : Text) :
    Text.indent (marker ++ x) = 0 :=
  Bullet.indent_eq_zero_of_take? (h.take x)

theorem Layout.indent_eq (h : Layout line item lead marker after) : line.indent = item.indent := by
  rw [h.eq, Text.indent_append h.lead_blank (h.indent_rest after), h.length_lead]

theorem Layout.drop_indent (h : Layout line item lead marker after) :
    line.drop item.indent = marker ++ after := by
  rw [h.eq, ← h.length_lead, List.drop_left]

theorem Layout.take_indent (h : Layout line item lead marker after) :
    line.take item.indent = lead := by
  rw [h.eq, ← h.length_lead, List.take_left]

theorem Layout.scan? (h : Layout line item lead marker after) :
    scan? line = some (item, (Checkbox.take (Text.dropIndent after)).2) := by
  have hIndent := h.indent_eq
  have hDrop : line.dropIndent = marker ++ after := by
    rw [Text.dropIndent_eq_drop, hIndent, h.drop_indent]
  have hRefuse : ¬((line.indent = 0 ∧ item.bullet = .star) ∨ (!Text.atGap after) = true) := by
    rw [hIndent, h.gap]
    exact fun hNot => h.not_heading (hNot.resolve_right (by simp))
  rw [ListItem.scan?, hDrop]
  simp only [h.take, Option.bind_eq_bind, Option.bind_some]
  rw [if_neg hRefuse]
  simp only [h.box, h.content, hIndent]

theorem Layout.parse? (h : Layout line item lead marker after) : parse? line = some item := by
  rw [ListItem.parse?, h.scan?, Option.map_some]

theorem exists_layout_of_parse? (hp : ListItem.parse? line = some item) :
    ∃ lead marker after, Layout line item lead marker after := by
  -- The scan takes the parts one after the other, and gives up at the first that does not fit.
  obtain ⟨⟨item', rest⟩, hScan, hItem⟩ := Option.map_eq_some_iff.mp hp
  have hItem : item' = item := hItem
  subst hItem
  simp only [scan?, Option.bind_eq_bind] at hScan
  obtain ⟨⟨bullet, after⟩, hBullet, hScan⟩ := Option.bind_eq_some_iff.mp hScan
  obtain ⟨marker, hMarker, -, -, hTake⟩ := Bullet.exists_marker_of_take? hBullet
  split at hScan
  · contradiction
  · next hKept =>
    obtain ⟨hHeading, hGap⟩ := not_or.mp hKept
    injection hScan with hScan
    injection hScan with hItem hRest
    subst hItem hRest
    refine ⟨line.take line.indent, marker, after, ?_, fun c hc =>
      Text.isSpaceOrTab_of_mem_take_indent hc, ?_, hTake, by simpa using hGap, hHeading, rfl, rfl⟩
    · rw [← hMarker, Text.dropIndent_eq_drop, List.take_append_drop]
    · exact List.length_take_of_le (Text.indent_le_length line)

/-- **Item lines** are exactly the lines with a layout. -/
theorem parse?_eq_some_iff :
    ListItem.parse? line = some item ↔ ∃ lead marker after, Layout line item lead marker after :=
  ⟨exists_layout_of_parse?, fun ⟨_, _, _, h⟩ => h.parse?⟩

/-- The content of an item stands behind its marker. -/
theorem Layout.length_le_contentColumn {column : Nat} (h : Layout line item lead marker after)
    (hc : contentColumn? line = some column) : lead.length + marker.length ≤ column := by
  have hc : line.length - (Checkbox.take (Text.dropIndent after)).2.length = column := by
    simpa [contentColumn?, h.scan?] using hc
  obtain ⟨box, hBox, -⟩ := Checkbox.exists_box_of_take (Text.dropIndent after)
  have hRest := congrArg List.length hBox
  have hAfter : (Text.dropIndent after).length ≤ after.length :=
    (List.dropWhile_sublist _).length_le
  have hLength := congrArg List.length h.eq
  simp only [List.length_append] at hRest hLength
  omega

theorem Layout.exists_digits {number : UInt64} {delimiter : Char}
    (h : Layout line item lead marker after) (hBullet : item.bullet = .ordered number delimiter) :
    ∃ digits, digits ≠ [] ∧ (∀ c ∈ digits, c.isDigit = true) ∧
      (delimiter = '.' ∨ delimiter = ')') ∧ marker = digits ++ [delimiter] := by
  have hTake := h.take []
  rw [List.append_nil, hBullet] at hTake
  exact Bullet.exists_digits_of_take? hTake

/-- A marker without a number is written in one way. -/
theorem Layout.marker_eq_render (h : Layout line item lead marker after)
    (hPlain : item.bullet.isOrdered = false) : marker = item.bullet.render := by
  have hTake := h.take []
  rw [List.append_nil] at hTake
  rcases Bullet.take?_eq_some hTake with ⟨c, hMarker, -, hRender, -⟩ | hNumber
  · rw [hMarker, hRender]
  · obtain ⟨_, _, hOrdered, -⟩ := Bullet.takeNumber?_eq_some hNumber
    rw [hOrdered] at hPlain
    contradiction

/-! ## What an item line means to a run -/

/-- A marker opens with a star for a star only. -/
theorem Layout.exists_head (h : Layout line item lead marker after) :
    ∃ c t, marker = c :: t ∧ Bullet.opens c = true ∧ (c = '*' → item.bullet = .star) := by
  cases hBullet : item.bullet with
  | ordered number delimiter =>
    obtain ⟨digits, hNonempty, hDigits, -, rfl⟩ := h.exists_digits hBullet
    obtain ⟨c, t, rfl⟩ := List.exists_cons_of_ne_nil hNonempty
    have hc := hDigits c (List.mem_cons_self ..)
    refine ⟨c, t ++ [delimiter], rfl, ?_, ?_⟩
    · unfold Bullet.opens
      rw [hc, Bool.or_true]
    · rintro rfl
      contradiction
  | dash | plus | star =>
    have hMarker := h.marker_eq_render (by rw [hBullet]; rfl)
    rw [hBullet] at hMarker
    exact ⟨_, _, hMarker, by decide, by simp⟩

theorem isBlankLine_eq_false_of_parse? (hp : ListItem.parse? line = some item) :
    line.isBlankLine = false := by
  obtain ⟨lead, marker, after, h⟩ := exists_layout_of_parse? hp
  obtain ⟨c, t, rfl, hc, -⟩ := h.exists_head
  rw [Text.isBlankLine, List.all_eq_false]
  exact ⟨c, by simp [h.eq], by simp [Bullet.isBlank_of_opens hc]⟩

theorem levelOf_eq_zero_of_parse? (hp : ListItem.parse? line = some item) :
    Heading.levelOf line = 0 := by
  obtain ⟨lead, marker, after, h⟩ := exists_layout_of_parse? hp
  obtain ⟨c, t, rfl, -, hStar⟩ := h.exists_head
  -- A heading opens with its star in column zero, where a star is no marker.
  rcases Nat.eq_zero_or_pos item.indent with hZero | hPos
  · have hLead : lead = [] := List.eq_nil_of_length_eq_zero (h.length_lead.trans hZero)
    rw [h.eq, hLead, List.nil_append, List.cons_append]
    exact Heading.levelOf_cons_of_ne (fun hc => h.not_heading ⟨hZero, hStar hc⟩) _
  · exact Heading.levelOf_eq_zero_of_indent_pos (h.indent_eq ▸ hPos)

/-- What an item line means to a run is a matter of its indentation. -/
theorem runLine_of_parse? (hp : ListItem.parse? line = some item) (indent : Nat) :
    runLine indent line =
      if item.indent = indent then .member
      else if indent < item.indent then .nested else .stop .outdent := by
  rw [runLine, isBlankLine_eq_false_of_parse? hp, levelOf_eq_zero_of_parse? hp, hp]
  rfl

/-- The members of a run are items at its indentation. -/
theorem runLine_eq_member_iff :
    runLine indent line = .member ↔
      ∃ item, ListItem.parse? line = some item ∧ item.indent = indent := by
  constructor
  · intro h
    rw [runLine] at h
    split at h
    · contradiction
    · split at h
      · contradiction
      · split at h
        · next item hp =>
          split at h
          · next hIndent => exact ⟨item, hp, hIndent⟩
          · split at h <;> contradiction
        · split at h <;> contradiction
  · rintro ⟨item, hp, hIndent⟩
    rw [runLine_of_parse? hp, if_pos hIndent]

/-! ## Another number -/

/-- The columns of the digits that a new number is written over; none when the line has no number, or
has that one already. -/
def numberColumns? (number : Nat) (line : Text) : Option (Nat × Nat) := do
  let item ← ListItem.parse? line
  let old ← item.bullet.number?
  if old.toNat = number then none
  else
    some (item.indent, item.indent + ((line.drop item.indent).takeWhile Char.isDigit).length)

/-- The line with another number in its marker. A line without a number, and one that has the number
already, stay as they are. -/
def renumbered (number : Nat) (line : Text) : Text :=
  match numberColumns? number line with
  | some (start, stop) => line.take start ++ Text.ofNat number ++ line.drop stop
  | none => line

/-- The two lines differ in the digits that open their markers at most: they are indented by the
same text, and what follows the digits is the same. -/
def SameButNumber (line line' : Text) : Prop :=
  line'.take line'.indent = line.take line.indent ∧
    line'.dropIndent.dropWhile Char.isDigit = line.dropIndent.dropWhile Char.isDigit

theorem SameButNumber.refl (line : Text) : SameButNumber line line :=
  ⟨rfl, rfl⟩

/-- Which columns a new number is written over is a matter of the indentation and the marker. -/
theorem Layout.numberColumns?_eq (h : Layout line item lead marker after) (number : Nat) :
    numberColumns? number line = item.bullet.number?.bind fun old =>
      if old.toNat = number then none
      else some (item.indent, item.indent + (marker.takeWhile Char.isDigit).length) := by
  simp only [numberColumns?, h.parse?, h.drop_indent, Option.bind_eq_bind, Option.bind_some]
  cases hBullet : item.bullet with
  | dash | plus | star => rfl
  | ordered old delimiter =>
    obtain ⟨digits, -, hDigits, hDelimiter, rfl⟩ := h.exists_digits hBullet
    -- The delimiter ends the digits, whatever follows it.
    rw [List.append_assoc, List.singleton_append,
      (Bullet.takeWhile_isDigit_append hDigits hDelimiter after).1,
      (Bullet.takeWhile_isDigit_append hDigits hDelimiter []).1]

theorem renumbered_of_eq_none (h : numberColumns? number line = none) :
    renumbered number line = line := by
  rw [renumbered, h]

theorem renumbered_of_eq_some {columns : Nat × Nat} (h : numberColumns? number line = some columns) :
    renumbered number line =
      line.take columns.1 ++ Text.ofNat number ++ line.drop columns.2 := by
  rw [renumbered, h]

/-- A new number takes the place of the digits; the delimiter and all behind it stay. -/
theorem Layout.renumbered_eq {digits : Text} {old : UInt64} {delimiter : Char}
    (h : Layout line item lead (digits ++ [delimiter]) after)
    (hBullet : item.bullet = .ordered old delimiter) (hDigits : ∀ c ∈ digits, c.isDigit = true)
    (hDelimiter : delimiter = '.' ∨ delimiter = ')') (hNew : old.toNat ≠ number) :
    renumbered number line = lead ++ (Text.ofNat number ++ [delimiter] ++ after) := by
  have hColumns := h.numberColumns?_eq number
  rw [hBullet, Bullet.number?, Option.bind_some, if_neg hNew,
    (Bullet.takeWhile_isDigit_append hDigits hDelimiter []).1] at hColumns
  have hRest : line.drop (item.indent + digits.length) = delimiter :: after := by
    rw [← List.drop_drop, h.drop_indent, List.append_assoc, List.drop_left]
    rfl
  rw [renumbered_of_eq_some hColumns, h.take_indent, hRest]
  simp

/-- A new number keeps the layout of a line. -/
theorem Layout.exists_renumbered (h : Layout line item lead marker after)
    (hNumber : number < UInt64.size) :
    ∃ marker', Layout (renumbered number line)
        { item with bullet := item.bullet.withNumber (UInt64.ofNat number) } lead marker' after ∧
      (marker' ++ after).dropWhile Char.isDigit = (marker ++ after).dropWhile Char.isDigit := by
  -- Without a number, and with this one already, the line stays.
  have hKeep : item.bullet.withNumber (UInt64.ofNat number) = item.bullet →
      numberColumns? number line = none →
      ∃ marker', Layout (renumbered number line)
          { item with bullet := item.bullet.withNumber (UInt64.ofNat number) } lead marker' after ∧
        (marker' ++ after).dropWhile Char.isDigit = (marker ++ after).dropWhile Char.isDigit := by
    intro hBullet hColumns
    rw [hBullet, renumbered_of_eq_none hColumns]
    exact ⟨marker, h, rfl⟩
  have hColumns := h.numberColumns?_eq number
  cases hBullet : item.bullet with
  | dash | plus | star =>
    rw [hBullet] at hColumns hKeep
    exact hKeep rfl hColumns
  | ordered old delimiter =>
    rw [hBullet] at hColumns hKeep
    by_cases hSame : old.toNat = number
    · refine hKeep ?_ (hColumns.trans (if_pos hSame))
      rw [Bullet.withNumber, ← hSame, UInt64.ofNat_toNat]
    · obtain ⟨digits, -, hDigits, hDelimiter, rfl⟩ := h.exists_digits hBullet
      have hLine := h.renumbered_eq hBullet hDigits hDelimiter hSame
      have hWritten : ∀ c ∈ Text.ofNat number, c.isDigit = true :=
        fun c hc => Text.isDigit_of_mem_ofNat hc
      refine ⟨Text.ofNat number ++ [delimiter],
        ⟨hLine, h.lead_blank, h.length_lead, fun x => ?_, h.gap, ?_, h.box, h.content⟩, ?_⟩
      · rw [List.append_assoc, List.singleton_append]
        exact Bullet.take?_digits (Text.ofNat_ne_nil number) hWritten hDelimiter
          (Text.word?_ofNat hNumber) x
      · exact fun hStar => by simp [Bullet.withNumber] at hStar
      · rw [List.append_assoc, List.singleton_append, List.append_assoc, List.singleton_append,
          (Bullet.takeWhile_isDigit_append hWritten hDelimiter after).2,
          (Bullet.takeWhile_isDigit_append hDigits hDelimiter after).2]

/-- **A new number** is read back, and nothing else of the item changes. -/
theorem parse?_renumbered (hp : ListItem.parse? line = some item) (hNumber : number < UInt64.size) :
    ListItem.parse? (renumbered number line) =
      some { item with bullet := item.bullet.withNumber (UInt64.ofNat number) } := by
  obtain ⟨lead, marker, after, h⟩ := exists_layout_of_parse? hp
  obtain ⟨marker', h', -⟩ := h.exists_renumbered hNumber
  exact h'.parse?

theorem renumbered_of_parse?_eq_none (hp : ListItem.parse? line = none) :
    renumbered number line = line := by
  rw [renumbered, numberColumns?, hp]
  rfl

theorem sameButNumber_renumbered (hNumber : number < UInt64.size) (line : Text) :
    SameButNumber line (renumbered number line) := by
  cases hp : ListItem.parse? line with
  | none =>
    rw [renumbered_of_parse?_eq_none hp]
    exact .refl line
  | some item =>
    obtain ⟨lead, marker, after, h⟩ := exists_layout_of_parse? hp
    obtain ⟨marker', h', hDrop⟩ := h.exists_renumbered hNumber
    -- Indentation and digits are told apart in both lines at the same place of the layout.
    have hIndent := h'.indent_eq
    have hTake := h'.take_indent
    have hRest := h'.drop_indent
    rw [SameButNumber, Text.dropIndent_eq_drop, Text.dropIndent_eq_drop, hIndent, hTake, hRest,
      h.indent_eq, h.take_indent, h.drop_indent]
    exact ⟨rfl, hDrop⟩

/-- A new number does not change what the line means to a run. -/
theorem runLine_renumbered (hNumber : number < UInt64.size) (indent : Nat) (line : Text) :
    runLine indent (renumbered number line) = runLine indent line := by
  cases hp : ListItem.parse? line with
  | none => rw [renumbered_of_parse?_eq_none hp]
  | some item => rw [runLine_of_parse? (parse?_renumbered hp hNumber), runLine_of_parse? hp]

/-! ## Lines that are cut and lines that are written -/

/-- An indentation, a marker and a gap make an item line. -/
theorem exists_layout_of_parts {b : Bullet} (hLine : line = lead ++ (marker ++ after))
    (hLead : ∀ c ∈ lead, Text.isSpaceOrTab c = true)
    (hTake : ∀ x, Bullet.take? (marker ++ x) = some (b, x)) (hGap : Text.atGap after = true)
    (hHeading : ¬(lead.length = 0 ∧ b = .star)) :
    ∃ item, Layout line item lead marker after ∧ item.indent = lead.length ∧ item.bullet = b :=
  ⟨⟨lead.length, b, (Checkbox.take (Text.dropIndent after)).1,
      Text.trimEnd (Checkbox.take (Text.dropIndent after)).2⟩,
    ⟨hLine, hLead, rfl, hTake, hGap, hHeading, rfl, rfl⟩, rfl, rfl⟩

/-- **An item line that is cut behind its marker** is read with the same indentation and marker, and
a new number is written over the same columns. These are in front of the cut. -/
theorem exists_parse?_take {column c : Nat} (hp : ListItem.parse? line = some item)
    (hColumn : contentColumn? line = some column) (hc : column ≤ c) :
    (∃ item', ListItem.parse? (line.take c) = some item' ∧ item'.indent = item.indent ∧
        item'.bullet = item.bullet) ∧
      ∀ number, numberColumns? number (line.take c) = numberColumns? number line := by
  obtain ⟨lead, marker, after, h⟩ := exists_layout_of_parse? hp
  -- The cut is behind the marker, so only what follows the marker is cut.
  have hBehind := h.length_le_contentColumn hColumn
  have hTake : line.take c =
      lead ++ (marker ++ after.take (c - lead.length - marker.length)) := by
    rw [h.eq, List.take_append, List.take_of_length_le (by omega), List.take_append,
      List.take_of_length_le (by omega)]
  have hGap : Text.atGap (after.take (c - lead.length - marker.length)) = true := by
    have := h.gap
    cases hAfter : after with
    | nil => simp [Text.atGap]
    | cons a t => cases hCut : c - lead.length - marker.length <;> simp_all [Text.atGap]
  have hHeading := h.not_heading
  rw [← h.length_lead] at hHeading
  obtain ⟨item', h', hIndent, hBullet⟩ :=
    exists_layout_of_parts hTake h.lead_blank h.take hGap hHeading
  rw [h.length_lead] at hIndent
  refine ⟨⟨item', h'.parse?, hIndent, hBullet⟩, fun number => ?_⟩
  rw [h'.numberColumns?_eq, h.numberColumns?_eq, hIndent, hBullet]

/-- The line of an item, with more content behind it, is read with its indentation and marker. -/
theorem exists_parse?_render_append (item : ListItem) (hStandard : item.bullet.Standard)
    (hHeading : ¬(item.indent = 0 ∧ item.bullet = .star)) (content : Text) :
    ∃ item', ListItem.parse? (item.render ++ content) = some item' ∧
      item'.indent = item.indent ∧ item'.bullet = item.bullet := by
  obtain ⟨box, hBox⟩ : ∃ box, item.render =
      Text.spaces item.indent ++ item.bullet.render ++ [' '] ++ box ++ item.content := ⟨_, rfl⟩
  have hLine : item.render ++ content = Text.spaces item.indent ++
      (item.bullet.render ++ ' ' :: (box ++ item.content ++ content)) := by
    simp [hBox]
  have hLength : (Text.spaces item.indent).length = item.indent := List.length_replicate
  rw [← hLength] at hHeading
  obtain ⟨item', h, hIndent, hBullet⟩ := exists_layout_of_parts hLine
    (fun c => Text.isSpaceOrTab_of_mem_spaces) (Bullet.take?_render_append hStandard)
    (by simp [Text.atGap, Text.isSpaceOrTab]) hHeading
  exact ⟨item', h.parse?, hIndent.trans hLength, hBullet⟩

end ListItem

end Outliner
