import Outliner.Proofs.Execution
import Outliner.Proofs.Ownership

/-!
# Outliner — items that move

Demotion moves an item inward by the set width, with every line of text that it owns; promotion
takes as many columns from each of these lines, or as many as the line is indented where that is
less. The item is found again from its indentation each time. Inward everything moves alike, so
promotion finds the same lines again and takes back what demotion gave them. Outward a line may
come to the margin before it has moved by the whole width, and there a star is no marker.

* `ListItem.Owned` — the lines that move with an item.
* `ListItem.shifted`, `ListItem.shiftedColumn` — what a line becomes, and where its columns go.

Main results:

* `parse?_shifted` — what an item line is read as after a move.
* `lineAt_rewrite_shiftEdits` — what moving an item does to each line.
* `extentEnd_inward` — an item that has moved inward ends where it ended before.
* `outdent_after_indent` — promotion takes the demotion of an item back, and the cursor with it.
* `outdent_keeps_item_iff` — when an item that moves outward is still the same item, and when all of
  it moves alike.
-/

namespace Outliner

/-! ## Indentation that is replaced -/

namespace Text

variable {lead : Text}

/-- Indentation does not matter to blankness. -/
theorem isBlankLine_append (hLead : ∀ c ∈ lead, isSpaceOrTab c = true) (t : Text) :
    isBlankLine (lead ++ t) = t.isBlankLine := by
  have hBlank : lead.all isBlank = true :=
    List.all_eq_true.mpr fun c hc => isBlank_of_isSpaceOrTab (hLead c hc)
  rw [isBlankLine, List.all_append, hBlank, Bool.true_and, isBlankLine]

theorem isBlankLine_dropIndent (t : Text) : t.dropIndent.isBlankLine = t.isBlankLine := by
  conv_rhs => rw [← take_indent_append_dropIndent t]
  exact (isBlankLine_append (fun c hc => isSpaceOrTab_of_mem_take_indent hc) _).symm

end Text

namespace ListItem

variable {config : Config} {lines lines' : Lines} {d : Document} {p : Position} {n m width : Nat}
  {shift : Shift} {line : Text} {item : ListItem}

/-! ## What a moved line becomes -/

/-- Where column `c` of a line with the given indentation goes when the line moves. Outward a line
moves by no more than its indentation, and the columns that are taken out become the first. -/
def shiftedColumn (width : Nat) (shift : Shift) (indent c : Nat) : Nat :=
  match shift with
  | .inward => c + width
  | .outward => c - min width indent

/-- What a move makes of a line with text. -/
def shifted (width : Nat) (shift : Shift) (line : Text) : Text :=
  match shift with
  | .inward => Text.spaces width ++ line
  | .outward => line.drop (min width line.indent)

/-- A move replaces the indentation, and nothing behind it. -/
theorem exists_shifted_eq (width : Nat) (shift : Shift) (line : Text) :
    ∃ lead, shifted width shift line = lead ++ line.dropIndent ∧
      (∀ c ∈ lead, Text.isSpaceOrTab c = true) ∧
      lead.length = shiftedColumn width shift line.indent line.indent := by
  have hSplit := Text.take_indent_append_dropIndent line
  have hLead : ∀ c ∈ line.take line.indent, Text.isSpaceOrTab c = true :=
    fun c hc => Text.isSpaceOrTab_of_mem_take_indent hc
  have hLength : (line.take line.indent).length = line.indent :=
    List.length_take_of_le (Text.indent_le_length line)
  cases shift with
  | inward =>
    refine ⟨Text.spaces width ++ line.take line.indent, ?_, ?_, ?_⟩
    · rw [List.append_assoc, hSplit]
      rfl
    · intro c hc
      exact (List.mem_append.mp hc).elim Text.isSpaceOrTab_of_mem_spaces (hLead c)
    · rw [List.length_append, hLength, Text.spaces, List.length_replicate, Nat.add_comm]
      rfl
  | outward =>
    refine ⟨(line.take line.indent).drop (min width line.indent), ?_, ?_, ?_⟩
    · -- What is taken out is part of the indentation.
      rw [← List.drop_append_of_le_length (by rw [hLength]; exact Nat.min_le_right ..), hSplit]
      rfl
    · exact fun c hc => hLead c (List.mem_of_mem_drop hc)
    · rw [List.length_drop, hLength]
      rfl

theorem indent_shifted (width : Nat) (shift : Shift) (line : Text) :
    (shifted width shift line).indent = shiftedColumn width shift line.indent line.indent := by
  obtain ⟨lead, hEq, hLead, hLength⟩ := exists_shifted_eq width shift line
  rw [hEq, Text.indent_append hLead (Text.indent_dropIndent line), hLength]

theorem isBlankLine_shifted (width : Nat) (shift : Shift) (line : Text) :
    (shifted width shift line).isBlankLine = line.isBlankLine := by
  obtain ⟨lead, hEq, hLead, -⟩ := exists_shifted_eq width shift line
  rw [hEq, Text.isBlankLine_append hLead, Text.isBlankLine_dropIndent]

/-- **A moved item line** is read as the same item with another indentation, unless a star has come
to column zero. -/
theorem parse?_shifted (hp : parse? line = some item) (width : Nat) (shift : Shift) :
    parse? (shifted width shift line) =
      if shiftedColumn width shift item.indent item.indent = 0 ∧ item.bullet = .star then none
      else some { item with indent := shiftedColumn width shift item.indent item.indent } := by
  obtain ⟨lead, marker, after, h⟩ := exists_layout_of_parse? hp
  obtain ⟨lead', hEq, hLead, hLength⟩ := exists_shifted_eq width shift line
  have hDrop : line.dropIndent = marker ++ after := by
    rw [Text.dropIndent_eq_drop, h.indent_eq, h.drop_indent]
  rw [hDrop] at hEq
  rw [h.indent_eq] at hLength
  split
  · next hStar =>
    -- The scan takes the star, and gives it up for a heading.
    have hIndent := Text.indent_append hLead (h.indent_rest after)
    have hRest := Text.dropIndent_append hLead (h.indent_rest after)
    rw [hEq, parse?, scan?, hIndent, hRest, hLength, hStar.1]
    simp [h.take, hStar.2]
  · next hKept =>
    exact Layout.parse? ⟨hEq, hLead, hLength, h.take, h.gap, hKept, h.box, h.content⟩

/-! ## What moves -/

/-- The lines that move with the item on line `n`: those with text, from its own to the last one
that it owns. -/
def Owned (lines : Lines) (n indent m : Nat) : Prop :=
  n ≤ m ∧ m ≤ extentEnd lines n indent ∧ lines.isBlankAt m = false

instance (lines : Lines) (n indent m : Nat) : Decidable (Owned lines n indent m) :=
  inferInstanceAs (Decidable (_ ∧ _ ∧ _))

theorem owned_self (hParse : parse? (lines.lineAt n) = some item) :
    Owned lines n item.indent n :=
  ⟨Nat.le_refl n, le_extentEnd lines n item.indent, isBlankLine_eq_false_of_parse? hParse⟩

/-- What an item owns is indented at least as far as the item. -/
theorem Owned.le_indent (h : Owned lines n item.indent m)
    (hParse : parse? (lines.lineAt n) = some item) : item.indent ≤ (lines.lineAt m).indent := by
  obtain ⟨hnm, hme, hText⟩ := h
  rcases Nat.eq_or_lt_of_le hnm with rfl | hnm
  · obtain ⟨lead, marker, after, hLayout⟩ := exists_layout_of_parse? hParse
    exact Nat.le_of_eq hLayout.indent_eq.symm
  · exact Nat.le_of_lt (beneath_of_le_extentEnd hnm hme hText).2

/-- The edit of a line makes of it what a moved line is. -/
theorem shiftEdit_spec (width : Nat) (shift : Shift) (line : Text) (m : Nat) :
    (shiftEdit width shift line m).span.start.line = m ∧
      line.take (shiftEdit width shift line m).span.start.column ++
          (shiftEdit width shift line m).text ++
          line.drop (shiftEdit width shift line m).span.stop.column =
        shifted width shift line := by
  cases shift <;> simp [shiftEdit, shifted, Edit.insert, Edit.delete, Span.onLine]

/-- An edit is left out when the line has no columns to move by. -/
theorem isIdle_shiftEdit_iff (width : Nat) (shift : Shift) (line : Text) (m : Nat) :
    (shiftEdit width shift line m).isIdle = true ↔
      width = 0 ∨ shift = .outward ∧ line.indent = 0 := by
  cases shift with
  | inward => simp [shiftEdit, Edit.isIdle, Edit.insert, Text.spaces]
  | outward =>
    simp only [shiftEdit, Edit.isIdle, Edit.delete, Span.onLine, List.isEmpty_nil, Bool.and_true,
      beq_iff_eq, Position.mk.injEq, true_and]
    omega

theorem shifted_of_isIdle (h : (shiftEdit width shift line m).isIdle = true) :
    shifted width shift line = line := by
  rcases (isIdle_shiftEdit_iff width shift line m).mp h with rfl | ⟨rfl, hIndent⟩
  · cases shift with
    | inward => rfl
    | outward => rw [shifted, Nat.zero_min, List.drop_zero]
  · rw [shifted, hIndent, Nat.min_zero, List.drop_zero]

/-- An item that stands at the margin does not move outward. -/
def Free (config : Config) (item : ListItem) (shift : Shift) : Prop :=
  config.indentWidth.toNat = 0 ∨ ¬(shift = .outward ∧ item.indent = 0)

/-- The edits that move an item: one for each line that it owns, if the line has columns to move
by. -/
theorem mem_shiftEdits_iff (hParse : parse? (lines.lineAt n) = some item)
    (hFree : Free config item shift) {e : Edit} :
    e ∈ shiftEdits config lines n shift ↔
      ∃ m, Owned lines n item.indent m ∧
        shiftEdit config.indentWidth.toNat shift (lines.lineAt m) m = e ∧ ¬e.isIdle = true := by
  rw [shiftEdits, hParse]
  dsimp only
  split
  · next hStays =>
    -- Only a width of zero keeps a free item where it is, and then every edit is idle.
    have hWidth : config.indentWidth.toNat = 0 := hFree.elim id fun h => hStays.resolve_right h
    refine iff_of_false List.not_mem_nil ?_
    rintro ⟨m, -, rfl, hActive⟩
    exact hActive ((isIdle_shiftEdit_iff ..).mpr (Or.inl hWidth))
  · have hEnd := le_extentEnd lines n item.indent
    rw [List.mem_filter, List.mem_map]
    constructor
    · rintro ⟨⟨⟨l, m⟩, hMem, rfl⟩, hActive⟩
      obtain ⟨hTake, hText⟩ := List.mem_filter.mp hMem
      obtain ⟨hLow, hHigh, -, rfl⟩ := Lines.mk_mem_take_onward_iff.mp hTake
      have hText : lines.isBlankAt m = false := by
        rw [Lines.isBlankAt]
        simpa using hText
      exact ⟨m, ⟨hLow, by omega, hText⟩, rfl, by simpa using hActive⟩
    · rintro ⟨m, ⟨hLow, hHigh, hText⟩, rfl, hActive⟩
      have hm := Lines.lt_length_of_isBlankAt_eq_false hText
      refine ⟨⟨(lines.lineAt m, m), List.mem_filter.mpr ⟨?_, ?_⟩, rfl⟩, by simpa using hActive⟩
      · exact Lines.mk_mem_take_onward_iff.mpr ⟨hLow, by omega, hm, rfl⟩
      · rw [Lines.isBlankAt] at hText
        simp [hText]

/-- **What moving an item does to each line.** -/
theorem lineAt_rewrite_shiftEdits (hParse : parse? (lines.lineAt n) = some item)
    (hFree : Free config item shift) (m : Nat) :
    (Batch.rewrite (shiftEdits config lines n shift) lines).lineAt m =
      if Owned lines n item.indent m
        then shifted config.indentWidth.toNat shift (lines.lineAt m) else lines.lineAt m := by
  have hInPlace := inPlace_shiftEdits config lines n shift
  by_cases hEdit : ∃ e ∈ shiftEdits config lines n shift, e.span.start.line = m
  · obtain ⟨e, hMem, hLine⟩ := hEdit
    have hRewrite := hInPlace.lineAt_rewrite hMem
    obtain ⟨k, hOwned, rfl, -⟩ := (mem_shiftEdits_iff hParse hFree).mp hMem
    obtain ⟨hStart, hShifted⟩ :=
      shiftEdit_spec config.indentWidth.toNat shift (lines.lineAt k) k
    rw [hStart] at hLine hRewrite
    subst hLine
    rw [if_pos hOwned, hRewrite, hShifted]
  · have hNone : ∀ e ∈ shiftEdits config lines n shift, e.span.start.line ≠ m :=
      fun e hMem hLine => hEdit ⟨e, hMem, hLine⟩
    rw [Batch.lineAt_rewrite_of_forall_ne hNone]
    split
    · next hOwned =>
      -- A line that is owned and not edited has no columns to move by.
      have hIdle : (shiftEdit config.indentWidth.toNat shift (lines.lineAt m) m).isIdle = true := by
        by_contra hActive
        exact hNone _ ((mem_shiftEdits_iff hParse hFree).mpr ⟨m, hOwned, rfl, hActive⟩)
          (shiftEdit_spec ..).1
      exact (shifted_of_isIdle hIdle).symm
    · rfl

/-- A document takes the edits that move an item, and each line becomes what a moved line is. -/
theorem exists_edit?_shiftEdits (hLines : d.lines.Unbroken)
    (hParse : parse? (d.lines.lineAt n) = some item) (hFree : Free config item shift) :
    ∃ d', d.edit? (shiftEdits config d.lines n shift) = some d' ∧ d'.lineEnd = d.lineEnd ∧
      d'.lines.length = d.lines.length ∧
      ∀ m, d'.lines.lineAt m = if Owned d.lines n item.indent m
        then shifted config.indentWidth.toNat shift (d.lines.lineAt m) else d.lines.lineAt m := by
  obtain ⟨d', hEdit, hRewrite, hEnd⟩ := (inPlace_shiftEdits config d.lines n shift).exists_edit?_eq
    hLines (unbroken_shiftEdits config d.lines n shift)
  refine ⟨d', hEdit, hEnd, by rw [hRewrite, Batch.length_rewrite], fun m => ?_⟩
  rw [hRewrite, lineAt_rewrite_shiftEdits hParse hFree]

/-! ## Inward and outward again -/

/-- The edit of its line moves the cursor with its text. -/
theorem toNat_add_columnShift_shiftEdit (width : Nat) (shift : Shift) (line : Text) (m c : Nat) :
    ((c : Int) + (shiftEdit width shift line m).columnShift c).toNat =
      shiftedColumn width shift line.indent c := by
  cases shift with
  | inward =>
    simp only [shiftEdit, Edit.insert, Edit.columnShift, Text.spaces, List.length_replicate,
      shiftedColumn]
    split <;> omega
  | outward =>
    show ((c : Int) + if min width line.indent ≤ c
        then ((0 : Nat) : Int) - (min width line.indent - 0)
        else if 0 < c then ((0 + min (c - 0) 0 : Nat) : Int) - c else 0).toNat =
        c - min width line.indent
    split
    · omega
    · split <;> omega

theorem shiftedColumn_of_isIdle (h : (shiftEdit width shift line m).isIdle = true) (c : Nat) :
    shiftedColumn width shift line.indent c = c := by
  rcases (isIdle_shiftEdit_iff width shift line m).mp h with rfl | ⟨rfl, hIndent⟩
  · cases shift with
    | inward => rfl
    | outward => rw [shiftedColumn, Nat.zero_min, Nat.sub_zero]
  · rw [shiftedColumn, hIndent, Nat.min_zero, Nat.sub_zero]

/-- **The cursor of a moved item** follows the text of its line. -/
theorem mapCursor_shiftEdits (hParse : parse? (lines.lineAt p.line) = some item)
    (hFree : Free config item shift) :
    mapCursor (shiftEdits config lines p.line shift) p =
      ⟨p.line, shiftedColumn config.indentWidth.toNat shift item.indent p.column⟩ := by
  obtain ⟨lead, marker, after, hLayout⟩ := exists_layout_of_parse? hParse
  have hInPlace := inPlace_shiftEdits config lines p.line shift
  rw [Batch.mapCursor_eq hInPlace.onLine, ← hLayout.indent_eq]
  congr 1
  by_cases hIdle :
      (shiftEdit config.indentWidth.toNat shift (lines.lineAt p.line) p.line).isIdle = true
  · -- The line has no columns to move by: it has no edit, and its columns stay.
    have hNone : Batch.onLine (shiftEdits config lines p.line shift) p.line = [] := by
      rw [Batch.onLine, List.filter_eq_nil_iff]
      intro e hMem hLine
      obtain ⟨m, -, rfl, hActive⟩ := (mem_shiftEdits_iff hParse hFree).mp hMem
      have hLine := beq_iff_eq.mp hLine
      rw [(shiftEdit_spec ..).1] at hLine
      exact hActive (hLine ▸ hIdle)
    rw [hNone, shiftedColumn_of_isIdle hIdle]
    simp [Edit.columnShifts]
  · -- Its one edit is the only one that the cursor can follow.
    have hMem := (mem_shiftEdits_iff hParse hFree).mpr
      ⟨p.line, owned_self hParse, rfl, hIdle⟩
    have hOne := hInPlace.onLine_eq_singleton hMem
    rw [(shiftEdit_spec ..).1] at hOne
    rw [hOne]
    simp only [Edit.columnShifts, Int.add_zero]
    exact toNat_add_columnShift_shiftEdit ..

/-- **A command that moves an item.** -/
theorem exists_execute_shift (hp : d.lines.Inside p) (hLines : d.lines.Unbroken)
    (hParse : parse? (d.lines.lineAt p.line) = some item) (hFree : Free config item shift) :
    ∃ o d', execute config (.editable d) p shift.command = .ok (o, .editable d') ∧
      o.cursorFrom p = ⟨p.line, shiftedColumn config.indentWidth.toNat shift item.indent p.column⟩ ∧
      d'.lines.Inside (o.cursorFrom p) ∧ d'.lines.Unbroken ∧ d'.lineEnd = d.lineEnd ∧
      d'.lines.length = d.lines.length ∧
      ∀ m, d'.lines.lineAt m = if Owned d.lines p.line item.indent m
        then shifted config.indentWidth.toNat shift (d.lines.lineAt m) else d.lines.lineAt m := by
  have hPlan : Plan.ofCommand config d.lines p shift.command =
      .ofEdits (shiftEdits config d.lines p.line shift) p := by
    rw [Context.ofCommand_of_parse? config hp hParse]
    cases shift <;> rfl
  have hInPlace := inPlace_shiftEdits config d.lines p.line shift
  have hTexts := unbroken_shiftEdits config d.lines p.line shift
  obtain ⟨o, d', hExecute, hCursor, hRewrite, hEnd⟩ :=
    exists_execute_ofEdits hp hLines hPlan hInPlace hTexts
  refine ⟨o, d', hExecute, by rw [hCursor, mapCursor_shiftEdits hParse hFree], ?_, ?_, hEnd, ?_,
    fun m => ?_⟩
  · rw [hCursor, hRewrite]
    exact Batch.inside_mapCursor hp hInPlace
  · rw [hRewrite]
    exact hTexts.rewrite hLines
  · rw [hRewrite, Batch.length_rewrite]
  · rw [hRewrite, lineAt_rewrite_shiftEdits hParse hFree]

/-- A moved item has its blank lines where they were. -/
theorem isBlankAt_moved {indent : Nat}
    (hLine : ∀ m, lines'.lineAt m = if Owned lines n indent m
      then shifted width shift (lines.lineAt m) else lines.lineAt m) (m : Nat) :
    lines'.isBlankAt m = lines.isBlankAt m := by
  rw [Lines.isBlankAt, hLine]
  split
  · rw [isBlankLine_shifted, Lines.isBlankAt]
  · rfl

/-- **An item that has moved inward ends where it ended before.** What it owns has moved with it,
and what it does not own has stayed further to the left. -/
theorem extentEnd_inward (hLength : lines'.length = lines.length)
    (hLine : ∀ m, lines'.lineAt m = if Owned lines n item.indent m
      then shifted width .inward (lines.lineAt m) else lines.lineAt m) :
    extentEnd lines' n (item.indent + width) = extentEnd lines n item.indent := by
  apply extentEnd_congr hLength (isBlankAt_moved hLine)
  · -- A line of the extent has come inward as far as the item.
    intro m hnm hme hText
    have hOwned : Owned lines n item.indent m := ⟨Nat.le_of_lt hnm, hme, hText⟩
    have hIndent : item.indent + width < (lines'.lineAt m).indent := by
      rw [hLine, if_pos hOwned, indent_shifted]
      exact Nat.add_lt_add_right (beneath_of_le_extentEnd hnm hme hText).2 width
    exact ⟨Heading.levelOf_eq_zero_of_indent_pos (by omega), hIndent⟩
  · -- A line past it has stayed, so what is nested under the item now was so before.
    rintro m hem - ⟨hLevel, hIndent⟩
    rw [hLine, if_neg (fun h : Owned lines n item.indent m => absurd h.2.1 (Nat.not_le.mpr hem))]
      at hLevel hIndent
    exact ⟨hLevel, by omega⟩

/-- Outward goes what has come inward. -/
theorem shifted_outward_shifted_inward (width : Nat) (line : Text) :
    shifted width .outward (shifted width .inward line) = line := by
  have hIndent := indent_shifted width .inward line
  have hMin : min width (shifted width .inward line).indent = width := by
    rw [hIndent, shiftedColumn]
    omega
  show (shifted width .inward line).drop (min width (shifted width .inward line).indent) = line
  rw [hMin, shifted, Text.spaces]
  exact List.drop_left' List.length_replicate

/-- **The demotion of an item taken back.** In a document without carriage returns let the cursor be
on the line of an item. Demotion and then promotion, where demotion has left the cursor, both run,
and bring back the document and the cursor. In between every line of text that the item owns is
indented by the set width, and no other line has changed. -/
theorem outdent_after_indent (config : Config) {d : Document} {p : Position} {item : ListItem}
    (hReturn : ∀ l ∈ d.lines, '\r' ∉ l) (hp : d.lines.Inside p)
    (hParse : parse? (d.lines.lineAt p.line) = some item) :
    ∃ o d' o', execute config (.editable d) p .demote = .ok (o, .editable d') ∧
      (∀ m, d'.lines.lineAt m = if Owned d.lines p.line item.indent m
        then Text.spaces config.indentWidth.toNat ++ d.lines.lineAt m else d.lines.lineAt m) ∧
      execute config (.editable d') (o.cursorFrom p) .promote = .ok (o', .editable d) ∧
      o'.cursorFrom (o.cursorFrom p) = p := by
  -- The way in. The item stays an item, since its marker has not come to column zero.
  have hFreeIn : Free config item .inward := Or.inr fun h => by
    have := h.1
    contradiction
  obtain ⟨o, d', hDemote, hCursor, hq, hUnbroken, hEnd, hLength, hLine⟩ :=
    exists_execute_shift hp (Document.unbroken_lines hReturn) hParse hFreeIn
  have hOwned := owned_self hParse
  obtain ⟨lead, marker, after, hLayout⟩ := exists_layout_of_parse? hParse
  have hParse' : parse? (d'.lines.lineAt (o.cursorFrom p).line) =
      some { item with indent := item.indent + config.indentWidth.toNat } := by
    rw [hCursor, hLine, if_pos hOwned, parse?_shifted hParse, if_neg]
    · rfl
    · rintro ⟨hColumn, hStar⟩
      exact hLayout.not_heading ⟨Nat.eq_zero_of_add_eq_zero_right hColumn, hStar⟩
  -- The way out. A width that is not zero has brought the item off the margin.
  have hFreeOut : Free config { item with indent := item.indent + config.indentWidth.toNat }
      .outward := by
    rcases Nat.eq_zero_or_pos config.indentWidth.toNat with hZero | hPos
    · exact Or.inl hZero
    · exact Or.inr fun h => Nat.ne_of_gt hPos (Nat.eq_zero_of_add_eq_zero_left h.2)
  obtain ⟨o', d'', hPromote, hCursor', -, -, hEnd', hLength', hLine'⟩ :=
    exists_execute_shift hq hUnbroken hParse' hFreeOut
  have hSame : ∀ m, Owned d'.lines (o.cursorFrom p).line
      (item.indent + config.indentWidth.toNat) m ↔ Owned d.lines p.line item.indent m := by
    intro m
    rw [Owned, Owned, hCursor, extentEnd_inward hLength hLine, isBlankAt_moved hLine]
  -- What was owned is owned still, so both moves are over the same lines.
  have hDocument : d'' = d := by
    apply Document.eq_of_lines _ (hEnd'.trans hEnd)
    apply Lines.ext_lineAt (hLength'.trans hLength)
    intro m
    rw [hLine']
    by_cases hm : Owned d.lines p.line item.indent m
    · rw [if_pos ((hSame m).mpr hm), hLine, if_pos hm, shifted_outward_shifted_inward]
    · rw [if_neg (fun h => hm ((hSame m).mp h)), hLine, if_neg hm]
  refine ⟨o, d', o', hDemote, hLine, by rw [hDocument] at hPromote; exact hPromote, ?_⟩
  rw [hCursor', hCursor]
  show (⟨p.line, p.column + config.indentWidth.toNat - min config.indentWidth.toNat
    (item.indent + config.indentWidth.toNat)⟩ : Position) = p
  rw [Nat.min_eq_left (Nat.le_add_left ..), Nat.add_sub_cancel]

/-- An item at the margin with a nested one, a blank line and text, in front of its neighbour. -/
theorem outdent_after_indent_nested :
    ∃ o d' o', execute {} (.editable (.ofText "- a\n\n  * b\n   text\n- c".toList)) ⟨0, 1⟩ .demote =
        .ok (o, .editable d') ∧
      execute {} (.editable d') (o.cursorFrom ⟨0, 1⟩) .promote =
        .ok (o', .editable (.ofText "- a\n\n  * b\n   text\n- c".toList)) ∧
      o'.cursorFrom (o.cursorFrom ⟨0, 1⟩) = ⟨0, 1⟩ := by
  have hParse : parse? ((Document.ofText "- a\n\n  * b\n   text\n- c".toList).lines.lineAt 0) =
      some ⟨0, .dash, none, "a".toList⟩ := by
    decide
  obtain ⟨o, d', o', hDemote, -, hPromote, hCursor⟩ :=
    outdent_after_indent {} (p := ⟨0, 1⟩) (by decide) ⟨by decide, by decide⟩ hParse
  exact ⟨o, d', o', hDemote, hPromote, hCursor⟩

/-! ## Outward alone -/

/-- By how much a line moves outward shows in its indentation. -/
theorem indent_shifted_outward (width : Nat) (line : Text) :
    (shifted width .outward line).indent + min width line.indent = line.indent := by
  have hIndent := indent_shifted width .outward line
  have hIndent : (shifted width .outward line).indent = line.indent - min width line.indent :=
    hIndent
  omega

/-- An item is lost when its star comes to column zero, which it does from within the width. -/
theorem exists_parse?_shifted_outward_iff (hp : parse? line = some item) :
    (∃ item', parse? (shifted width .outward line) = some item' ∧ item'.bullet = item.bullet ∧
        item'.checkbox = item.checkbox ∧ item'.content = item.content) ↔
      ¬(item.bullet = .star ∧ item.indent ≤ width) := by
  have hZero : shiftedColumn width .outward item.indent item.indent = 0 ↔ item.indent ≤ width := by
    show item.indent - min width item.indent = 0 ↔ item.indent ≤ width
    omega
  rw [parse?_shifted hp]
  split
  · next hStar => exact iff_of_false (by simp) (not_not.mpr ⟨hStar.2, hZero.mp hStar.1⟩)
  · next hKept =>
    exact iff_of_true ⟨_, rfl, rfl, rfl, rfl⟩ fun h => hKept ⟨hZero.mpr h.2, h.1⟩

/-- The lines that an item owns move outward alike when the item has the whole width to lose, or
nothing but its own line. -/
theorem owned_shifted_alike_iff (hParse : parse? (lines.lineAt n) = some item) :
    (∀ m, Owned lines n item.indent m →
        (lines.lineAt m).indent + (shifted width .outward (lines.lineAt n)).indent =
          (lines.lineAt n).indent + (shifted width .outward (lines.lineAt m)).indent) ↔
      width ≤ item.indent ∨ extentEnd lines n item.indent = n := by
  obtain ⟨lead, marker, after, hLayout⟩ := exists_layout_of_parse? hParse
  have hIndent := hLayout.indent_eq
  have hItem := indent_shifted_outward width (lines.lineAt n)
  constructor
  · -- The last line is nested, so it has more columns to lose than the item.
    intro hAlike
    by_contra hNot
    obtain ⟨hNarrow, hNested⟩ := not_or.mp hNot
    have hLow : n < extentEnd lines n item.indent :=
      Nat.lt_of_le_of_ne (le_extentEnd ..) (Ne.symm hNested)
    have hText := isBlankAt_extentEnd hLow
    have hBeneath := (beneath_of_le_extentEnd hLow (Nat.le_refl _) hText).2
    have hSame := hAlike _ ⟨Nat.le_of_lt hLow, Nat.le_refl _, hText⟩
    have hLast := indent_shifted_outward width (lines.lineAt (extentEnd lines n item.indent))
    omega
  · intro hCase m hm
    have hLine := indent_shifted_outward width (lines.lineAt m)
    rcases hCase with hWide | hAlone
    · -- All that the item owns is indented by the width too.
      have hFurther := hm.le_indent hParse
      omega
    · have hSelf : m = n := Nat.le_antisymm (hAlone ▸ hm.2.1) hm.1
      rw [hSelf]

/-- **An item that moves outward.** When there are edits to move an item outward, a document
without carriage returns takes them. They change nothing but the indentation of the lines that the
item owns: each of them loses the set width, or all of its indentation where that is less. The item
is still read with its marker, its checkbox and its content, unless it is marked by a star that
comes to column zero. Every line that it owns moves as far as the item itself when the item is
indented by the width at least, or owns its own line only; otherwise its last line moves further.
-/
theorem outdent_keeps_item_iff (config : Config) {d : Document} {n : Nat} {item : ListItem}
    (hReturn : ∀ l ∈ d.lines, '\r' ∉ l) (hParse : parse? (d.lines.lineAt n) = some item)
    (hEdits : shiftEdits config d.lines n .outward ≠ []) :
    ∃ d', d.edit? (shiftEdits config d.lines n .outward) = some d' ∧ d'.lineEnd = d.lineEnd ∧
      d'.lines.length = d.lines.length ∧
      (∀ m, ¬Owned d.lines n item.indent m → d'.lines.lineAt m = d.lines.lineAt m) ∧
      (∀ m, Owned d.lines n item.indent m → d'.lines.lineAt m =
        (d.lines.lineAt m).drop (min config.indentWidth.toNat (d.lines.lineAt m).indent)) ∧
      ((∃ item', parse? (d'.lines.lineAt n) = some item' ∧ item'.bullet = item.bullet ∧
          item'.checkbox = item.checkbox ∧ item'.content = item.content) ↔
        ¬(item.bullet = .star ∧ item.indent ≤ config.indentWidth.toNat)) ∧
      ((∀ m, Owned d.lines n item.indent m →
          (d.lines.lineAt m).indent + (d'.lines.lineAt n).indent =
            (d.lines.lineAt n).indent + (d'.lines.lineAt m).indent) ↔
        config.indentWidth.toNat ≤ item.indent ∨ extentEnd d.lines n item.indent = n) := by
  have hFree : Free config item .outward := by
    by_contra hNot
    obtain ⟨hWidth, hMargin⟩ := not_or.mp hNot
    apply hEdits
    rw [shiftEdits, hParse]
    exact if_pos (Or.inr (not_not.mp hMargin))
  obtain ⟨d', hEdit, hEnd, hLength, hLine⟩ :=
    exists_edit?_shiftEdits (Document.unbroken_lines hReturn) hParse hFree
  have hOwn := owned_self hParse
  refine ⟨d', hEdit, hEnd, hLength, fun m hm => ?_, fun m hm => ?_, ?_, ?_⟩
  · rw [hLine, if_neg hm]
  · rw [hLine, if_pos hm]
    rfl
  · rw [hLine, if_pos hOwn]
    exact exists_parse?_shifted_outward_iff hParse
  · rw [← owned_shifted_alike_iff hParse]
    refine forall₂_congr fun m hm => ?_
    rw [hLine n, if_pos hOwn, hLine m, if_pos hm]

/-- A nested item that moves outward by the whole width, with the item nested in it. -/
theorem outdent_keeps_item_iff_wide :
    ∃ d', (Document.ofText "- a\n  * b\n    + c\n- d".toList).edit?
        (shiftEdits { indentWidth := 1 }
          ["- a".toList, "  * b".toList, "    + c".toList, "- d".toList] 1 .outward) = some d' ∧
      ∃ item', parse? (d'.lines.lineAt 1) = some item' ∧ item'.bullet = .star ∧
        item'.checkbox = none ∧ item'.content = "b".toList := by
  have hParse : parse? ((Document.ofText "- a\n  * b\n    + c\n- d".toList).lines.lineAt 1) =
      some ⟨2, .star, none, "b".toList⟩ := by
    decide
  have hEdits : shiftEdits { indentWidth := 1 }
      (Document.ofText "- a\n  * b\n    + c\n- d".toList).lines 1 .outward ≠ [] := by
    decide
  obtain ⟨d', hEdit, -, -, -, -, hItem, -⟩ :=
    outdent_keeps_item_iff { indentWidth := 1 } (by decide) hParse hEdits
  exact ⟨d', hEdit, hItem.mpr (by decide)⟩

/-- An item marked by a star comes to column zero and turns into a heading. A nested item that is
two columns in catches up with its owner, which has one column to lose. -/
theorem outdented_apart :
    ((Document.ofText "  * a".toList).edit?
        (shiftEdits {} ["  * a".toList] 0 .outward)).map Document.lines = some ["* a".toList] ∧
      parse? "* a".toList = none ∧ Heading.levelOf "* a".toList = 1 ∧
      ((Document.ofText " - a\n  - b".toList).edit?
        (shiftEdits {} [" - a".toList, "  - b".toList] 0 .outward)).map Document.lines =
          some ["- a".toList, "- b".toList] := by
  decide

end ListItem

end Outliner
