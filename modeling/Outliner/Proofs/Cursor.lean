import Outliner.Editor.Cursor
import Outliner.Proofs.Batch.Unbroken
import Outliner.Proofs.LineEnd
import Outliner.Proofs.Lines

/-!
# Outliner — the cursor follows its text

A cursor is moved by the edits of its line, each of which is asked by how many columns of the old
line it moves it. The answers are summed up, and no edit knows of another. This module says what
the sum means: the text in front of the cursor is what the edits up to there make of the old text in
front, and the text behind it what the other edits make of the rest. A cursor inside a text that is
replaced stays as far from the start of the new one as it was from the start of the old, or comes to
the end of the new one.

* `Edit.Around` — the edit takes out the characters on both sides of a column.
* `Batch.upTo`, `Batch.beyond` — the edits in front of a column, and those behind it.
* `Batch.Along` — what the edits of one line have in common that fit.

Main results:

* `rewriteLine_split` — a line with its edits made, in two parts.
* `column_mapCursor` — a cursor outside the texts that are replaced.
* `column_mapCursor_of_around` — a cursor inside one of them.
* `cursor_follows_text` — both, and the line that they are about.
-/

namespace Outliner

variable {lines : Lines} {edits : List Edit} {e f : Edit} {p : Position} {line : Text} {n c : Nat}

/-! ## Edits around a column -/

namespace Edit

/-- The edit takes out the characters on both sides of the column. -/
def Around (c : Nat) (e : Edit) : Prop :=
  e.span.start.column < c ∧ c < e.span.stop.column

theorem Around.start_lt_stop (h : e.Around c) : e.span.start.column < e.span.stop.column :=
  Nat.lt_trans h.1 h.2

/-- The edit, seen from the part of its line that starts in the column. -/
def shiftLeft (c : Nat) (e : Edit) : Edit :=
  ⟨.onLine e.span.start.line (e.span.start.column - c) (e.span.stop.column - c), e.text⟩

theorem columnShift_of_stop_le (h : e.span.stop.column ≤ c) :
    e.columnShift c = e.linePatch.growth :=
  if_pos h

theorem columnShift_of_le_start (h : c ≤ e.span.start.column) (hStop : c < e.span.stop.column) :
    e.columnShift c = 0 := by
  rw [columnShift, if_neg (Nat.not_le.mpr hStop), if_neg (Nat.not_lt.mpr h)]

theorem columnShifts_append (c : Nat) (before after : List Edit) :
    columnShifts c (before ++ after) = columnShifts c before + columnShifts c after := by
  induction before with
  | nil => simp [columnShifts]
  | cons e rest ih => rw [List.cons_append, columnShifts, columnShifts, ih, Int.add_assoc]

theorem columnShifts_congr {d : Nat} (h : ∀ e ∈ edits, e.columnShift c = e.columnShift d) :
    columnShifts c edits = columnShifts d edits := by
  induction edits with
  | nil => rfl
  | cons e rest ih =>
    obtain ⟨he, hRest⟩ := List.forall_mem_cons.mp h
    rw [columnShifts, columnShifts, he, ih hRest]

end Edit

namespace Batch

/-- The edits that end in the column, or in front of it. -/
def upTo (c : Nat) (edits : List Edit) : List Edit :=
  edits.filter (·.span.stop.column ≤ c)

/-- The other edits, seen from there. -/
def beyond (c : Nat) (edits : List Edit) : List Edit :=
  (edits.filter (c < ·.span.stop.column)).map (Edit.shiftLeft c)

theorem onLine_upTo (c : Nat) (edits : List Edit) (n : Nat) :
    onLine (upTo c edits) n = upTo c (onLine edits n) :=
  List.filter_comm ..

theorem onLine_beyond (c : Nat) (edits : List Edit) (n : Nat) :
    onLine (beyond c edits) n = beyond c (onLine edits n) := by
  rw [onLine, beyond, List.filter_map, beyond, onLine, List.filter_comm]
  rfl

theorem map_linePatch_upTo (c : Nat) (edits : List Edit) :
    (upTo c edits).map Edit.linePatch = (edits.map Edit.linePatch).filter (·.stop ≤ c) := by
  rw [List.filter_map]
  rfl

theorem map_linePatch_beyond (c : Nat) (edits : List Edit) :
    (beyond c edits).map Edit.linePatch =
      ((edits.map Edit.linePatch).filter (c < ·.stop)).map (Patch.shiftLeft c) := by
  rw [beyond, List.filter_map, List.map_map, List.map_map]
  rfl

/-! ## The edits of one line -/

/-- The edits lie within the text of the line, and of two of them one ends before the other
starts. -/
structure Along (line : Text) (edits : List Edit) : Prop where
  forward : ∀ e ∈ edits, e.span.start.column ≤ e.span.stop.column
  inside : ∀ e ∈ edits, e.span.stop.column ≤ line.length
  apart : edits.Pairwise fun e f =>
    e.span.stop.column ≤ f.span.start.column ∨ f.span.stop.column ≤ e.span.start.column

/-- The edits of a batch that fits lie along their lines. -/
theorem Fits.along (h : Fits lines edits) (hEdits : ∀ e ∈ edits, e.OnLine lines) (n : Nat) :
    Along (lines.lineAt n) (onLine edits n) where
  forward e he := (hEdits e (List.mem_filter.mp he).1).forward
  inside e he := by
    obtain ⟨he, hLine⟩ := List.mem_filter.mp he
    rw [← beq_iff_eq.mp hLine]
    exact (hEdits e he).inside
  apart := by
    rw [onLine, List.pairwise_filter]
    refine h.apart.imp_of_mem ?_
    intro e f he hf hClash heLine hfLine
    exact apart_of_not_clash (hEdits e he) (hEdits f hf) hClash
      ((beq_iff_eq.mp heLine).trans (beq_iff_eq.mp hfLine).symm)

namespace Along

theorem inside_of_mem_map (h : Along line edits) :
    ∀ p ∈ edits.map Edit.linePatch, p.start ≤ p.stop ∧ p.stop ≤ line.length := by
  intro p hp
  obtain ⟨e, he, rfl⟩ := List.mem_map.mp hp
  exact ⟨h.forward e he, h.inside e he⟩

theorem pairwise_conflicts (h : Along line edits) :
    (edits.map Edit.linePatch).Pairwise fun p q => p.conflicts q = false := by
  rw [List.pairwise_map]
  refine h.apart.imp_of_mem ?_
  intro e f he hf hApart
  rw [← Bool.not_eq_true, Patch.conflicts_iff (h.forward e he) (h.forward f hf)]
  simp only [Edit.linePatch]
  omega

/-- An edit has the others on its two sides. -/
theorem exists_eq_append (h : Along line edits) (he : e ∈ edits) :
    ∃ before after, edits = before ++ e :: after ∧ ∀ f ∈ before ++ after,
      f.span.stop.column ≤ e.span.start.column ∨ e.span.stop.column ≤ f.span.start.column := by
  obtain ⟨before, after, rfl⟩ := List.append_of_mem he
  obtain ⟨-, hAfter, hBefore⟩ := List.pairwise_append.mp h.apart
  refine ⟨before, after, rfl, ?_⟩
  intro f hf
  rcases List.mem_append.mp hf with hf | hf
  · exact hBefore f hf e (List.mem_cons_self ..)
  · exact ((List.pairwise_cons.mp hAfter).1 f hf).symm

/-- No edit is around the start of another. -/
theorem not_around_start (h : Along line edits) (he : e ∈ edits) :
    ∀ f ∈ edits, ¬f.Around e.span.start.column := by
  intro f hf
  have hForward := h.forward e he
  obtain ⟨before, after, rfl, hSides⟩ := h.exists_eq_append he
  rw [Edit.Around]
  rcases List.mem_append.mp hf with hf | hf
  · have := hSides f (List.mem_append_left _ hf)
    omega
  · rcases List.mem_cons.mp hf with rfl | hf
    · omega
    · have := hSides f (List.mem_append_right _ hf)
      omega

/-- The edits in front of a column lie along the text in front of it. -/
theorem upTo (h : Along line edits) (c : Nat) : Along (line.take c) (upTo c edits) where
  forward e he := h.forward e (List.mem_filter.mp he).1
  inside e he := by
    obtain ⟨he, hStop⟩ := List.mem_filter.mp he
    rw [List.length_take]
    exact Nat.le_min.mpr ⟨of_decide_eq_true hStop, h.inside e he⟩
  apart := h.apart.filter _

/-- A column that no edit is around parts the reading of the line. -/
theorem readThrough_eq_append (h : Along line edits) (hc : c ≤ line.length)
    (hOutside : ∀ e ∈ edits, ¬e.Around c) :
    Patch.readThrough (edits.map Edit.linePatch) line =
      Patch.readThrough ((Batch.upTo c edits).map Edit.linePatch) (line.take c) ++
        Patch.readThrough ((beyond c edits).map Edit.linePatch) (line.drop c) := by
  rw [map_linePatch_upTo, map_linePatch_beyond]
  refine Patch.readThrough_split hc ?_
  intro p hp
  obtain ⟨e, he, rfl⟩ := List.mem_map.mp hp
  have hOutside := hOutside e he
  rw [Edit.Around] at hOutside
  refine ⟨h.forward e he, ?_⟩
  simp only [Edit.linePatch]
  omega

end Along

/-! ## What the shifts add up to -/

/-- A column outside the texts that are replaced is moved by the edits in front of it, each of which
moves it by its growth. -/
theorem columnShifts_eq_totalGrowth (hOutside : ∀ e ∈ edits, ¬e.Around c) :
    Edit.columnShifts c edits = Patch.totalGrowth ((upTo c edits).map Edit.linePatch) := by
  induction edits with
  | nil => rfl
  | cons e rest ih =>
    obtain ⟨he, hRest⟩ := List.forall_mem_cons.mp hOutside
    rw [Edit.columnShifts, ih hRest]
    by_cases hStop : e.span.stop.column ≤ c
    · rw [Edit.columnShift_of_stop_le hStop, upTo, upTo,
        List.filter_cons_of_pos (by simpa using hStop)]
      rfl
    · rw [Edit.Around] at he
      rw [Edit.columnShift_of_le_start (by omega) (by omega), upTo, upTo,
        List.filter_cons_of_neg (by simpa using hStop), Int.zero_add]

namespace Along

/-- What the edits in front of such a column leave of the text in front of it ends where the column
has been moved to. -/
theorem length_readThrough_upTo (h : Along line edits) (hc : c ≤ line.length)
    (hOutside : ∀ e ∈ edits, ¬e.Around c) :
    ((Patch.readThrough ((Batch.upTo c edits).map Edit.linePatch) (line.take c)).length : Int) =
      c + Edit.columnShifts c edits := by
  have hFront := h.upTo c
  rw [Patch.length_readThrough hFront.inside_of_mem_map hFront.pairwise_conflicts,
    columnShifts_eq_totalGrowth hOutside, List.length_take_of_le hc]

/-- A column inside a text that is replaced is moved like the start of this text, and as far from
there as the new text goes. -/
theorem columnShifts_of_around (h : Along line edits) (he : e ∈ edits) (hAround : e.Around c) :
    c + Edit.columnShifts c edits =
      e.span.start.column + Edit.columnShifts e.span.start.column edits +
        (min (c - e.span.start.column) e.text.length : Nat) := by
  obtain ⟨hStart, hStop⟩ := hAround
  obtain ⟨before, after, rfl, hSides⟩ := h.exists_eq_append he
  -- The other edits move both columns alike, as they end in front of both or start behind both.
  have hOthers : ∀ f ∈ before ++ after, f.columnShift c = f.columnShift e.span.start.column := by
    intro f hf
    have hForward : f.span.start.column ≤ f.span.stop.column := by
      refine h.forward f ?_
      rcases List.mem_append.mp hf with hf | hf
      · exact List.mem_append_left _ hf
      · exact List.mem_append_right _ (List.mem_cons_of_mem _ hf)
    rcases hSides f hf with hBefore | hAfter
    · rw [Edit.columnShift_of_stop_le (by omega), Edit.columnShift_of_stop_le hBefore]
    · rw [Edit.columnShift_of_le_start (by omega) (by omega),
        Edit.columnShift_of_le_start (by omega) (by omega)]
  have hBefore := Edit.columnShifts_congr fun f hf => hOthers f (List.mem_append_left after hf)
  have hAfter := Edit.columnShifts_congr fun f hf => hOthers f (List.mem_append_right before hf)
  have hSelf : e.columnShift c =
      ((e.span.start.column + min (c - e.span.start.column) e.text.length : Nat) : Int) - c := by
    rw [Edit.columnShift, if_neg (Nat.not_le.mpr hStop), if_pos hStart]
  rw [Edit.columnShifts_append, Edit.columnShifts_append, Edit.columnShifts, Edit.columnShifts,
    hBefore, hAfter, hSelf, Edit.columnShift_of_le_start (Nat.le_refl _) (by omega)]
  omega

/-- Behind the start of a replacement its text comes first. -/
theorem prefix_readThrough_beyond (h : Along line edits) (he : e ∈ edits)
    (hProper : e.span.start.column < e.span.stop.column) (text : Text) :
    e.text <+: Patch.readThrough ((beyond e.span.start.column edits).map Edit.linePatch) text := by
  have hForward := h.forward
  obtain ⟨before, after, rfl, hSides⟩ := h.exists_eq_append he
  -- The edits behind the start of this one start behind its end.
  have hOthers : ∀ others : List Edit, (∀ f ∈ others, f ∈ before ++ after) →
      ∀ p ∈ (beyond e.span.start.column others).map Edit.linePatch, p.start ≠ 0 := by
    intro others hMem p hp
    rw [beyond, List.map_map] at hp
    obtain ⟨f, hf, rfl⟩ := List.mem_map.mp hp
    obtain ⟨hf, hStop⟩ := List.mem_filter.mp hf
    have hStop : e.span.start.column < f.span.stop.column := of_decide_eq_true hStop
    have := hSides f (hMem f hf)
    show f.span.start.column - e.span.start.column ≠ 0
    omega
  have hSplit : (beyond e.span.start.column (before ++ e :: after)).map Edit.linePatch =
      (beyond e.span.start.column before).map Edit.linePatch ++
        (e.shiftLeft e.span.start.column).linePatch ::
          (beyond e.span.start.column after).map Edit.linePatch := by
    rw [beyond, List.filter_append, List.filter_cons_of_pos (by simpa using hProper)]
    simp [beyond]
  have hStart : (e.shiftLeft e.span.start.column).linePatch.start = 0 := Nat.sub_self _
  have hStop : 0 < (e.shiftLeft e.span.start.column).linePatch.stop := Nat.sub_pos_of_lt hProper
  rw [hSplit]
  exact Patch.prefix_readThrough hStart hStop
    (hOthers before fun f hf => List.mem_append_left _ hf)
    (hOthers after fun f hf => List.mem_append_right _ hf) text

end Along

/-! ## Lines and their cursors -/

/-- **A line with its edits made,** in two parts around a column. -/
theorem rewriteLine_split (hFits : Fits lines edits) (hEdits : ∀ e ∈ edits, e.OnLine lines)
    (hc : c ≤ (lines.lineAt n).length) (hOutside : ∀ e ∈ onLine edits n, ¬e.Around c) :
    rewriteLine edits n (lines.lineAt n) =
      rewriteLine (upTo c edits) n ((lines.lineAt n).take c) ++
        rewriteLine (beyond c edits) n ((lines.lineAt n).drop c) := by
  rw [rewriteLine, rewriteLine, rewriteLine, onLine_upTo, onLine_beyond]
  exact (hFits.along hEdits n).readThrough_eq_append hc hOutside

/-- The edits that move a cursor are those of its line. -/
theorem mapCursor_eq (h : ∀ e ∈ edits, e.OnLine lines) (p : Position) :
    mapCursor edits p =
      ⟨p.line, (p.column + Edit.columnShifts p.column (onLine edits p.line)).toNat⟩ := by
  have hHere : (edits.filter fun e => e.span.start.line == p.line && e.span.stop.line == p.line) =
      onLine edits p.line := by
    apply List.filter_congr
    intro e he
    rw [(h e he).same_line, Bool.and_self]
  rw [mapCursor, hHere]

/-- **A cursor outside the texts that are replaced** comes to the end of what the edits in front of
it leave of the text in front of it. -/
theorem column_mapCursor (hFits : Fits lines edits) (hEdits : ∀ e ∈ edits, e.OnLine lines)
    (hp : lines.Inside p) (hOutside : ∀ e ∈ onLine edits p.line, ¬e.Around p.column) :
    (mapCursor edits p).column =
      (rewriteLine (upTo p.column edits) p.line ((lines.lineAt p.line).take p.column)).length := by
  have hLength := (hFits.along hEdits p.line).length_readThrough_upTo hp.column_le hOutside
  rw [mapCursor_eq hEdits, rewriteLine, onLine_upTo]
  dsimp only
  omega

/-- **A cursor inside a text that is replaced** stays as far from its start, or comes to the end of
the new text. -/
theorem column_mapCursor_of_around (hFits : Fits lines edits)
    (hEdits : ∀ e ∈ edits, e.OnLine lines) (he : e ∈ onLine edits p.line)
    (hAround : e.Around p.column) :
    (mapCursor edits p).column =
      (mapCursor edits ⟨p.line, e.span.start.column⟩).column +
        min (p.column - e.span.start.column) e.text.length := by
  have hAlong := hFits.along hEdits p.line
  have hInside := hAlong.inside e he
  have ⟨hStart, hStop⟩ := hAround
  have hShifts := hAlong.columnShifts_of_around he hAround
  have hLength := hAlong.length_readThrough_upTo (by omega) (hAlong.not_around_start he)
  rw [mapCursor_eq hEdits, mapCursor_eq hEdits]
  dsimp only
  omega

/-- The start of a text that is replaced is on the line. -/
theorem inside_start (hEdits : ∀ e ∈ edits, e.OnLine lines) (he : e ∈ onLine edits n) :
    lines.Inside ⟨n, e.span.start.column⟩ := by
  obtain ⟨hMem, hLine⟩ := List.mem_filter.mp he
  obtain rfl : e.span.start.line = n := beq_iff_eq.mp hLine
  have hOn := hEdits e hMem
  exact ⟨hOn.line_lt, Nat.le_trans hOn.forward hOn.inside⟩

/-- The text of a replacement stands where a cursor at the start of the old text comes to. -/
theorem prefix_drop_mapCursor (hFits : Fits lines edits) (hEdits : ∀ e ∈ edits, e.OnLine lines)
    (he : e ∈ onLine edits n) (hProper : e.span.start.column < e.span.stop.column) :
    e.text <+: (rewriteLine edits n (lines.lineAt n)).drop
      (mapCursor edits ⟨n, e.span.start.column⟩).column := by
  have hAlong := hFits.along hEdits n
  have hInside := inside_start hEdits he
  have hOutside := hAlong.not_around_start he
  rw [column_mapCursor hFits hEdits hInside hOutside,
    rewriteLine_split hFits hEdits hInside.column_le hOutside, List.drop_left, rewriteLine,
    onLine_beyond]
  exact hAlong.prefix_readThrough_beyond he hProper _

/-- **The cursor stays in its line.** -/
theorem column_mapCursor_le (hFits : Fits lines edits) (hEdits : ∀ e ∈ edits, e.OnLine lines)
    (hp : lines.Inside p) :
    (mapCursor edits p).column ≤ (rewriteLine edits p.line (lines.lineAt p.line)).length := by
  have hOf : ∀ q : Position, lines.Inside q → (∀ e ∈ onLine edits q.line, ¬e.Around q.column) →
      (mapCursor edits q).column ≤ (rewriteLine edits q.line (lines.lineAt q.line)).length := by
    intro q hq hOutside
    rw [column_mapCursor hFits hEdits hq hOutside,
      rewriteLine_split hFits hEdits hq.column_le hOutside, List.length_append]
    exact Nat.le_add_right ..
  by_cases hOutside : ∀ e ∈ onLine edits p.line, ¬e.Around p.column
  · exact hOf p hp hOutside
  · -- The start of the old text is outside, and the new text is on the line from there on.
    push Not at hOutside
    obtain ⟨e, he, hAround⟩ := hOutside
    have hStart := hOf _ (inside_start hEdits he)
      ((hFits.along hEdits p.line).not_around_start he)
    have hText := (prefix_drop_mapCursor hFits hEdits he hAround.start_lt_stop).length_le
    rw [List.length_drop] at hText
    rw [column_mapCursor_of_around hFits hEdits he hAround]
    dsimp only at hStart
    omega

/-- **The cursor follows its text.** When the edits of a batch that fits each stay on one line and
write no line feed, the document takes them, and a cursor on the line stays in it. If no text around
the cursor is replaced, the text in front of it is what the edits up to there make of the text that
was in front, and the text behind it is what the others make of the rest. If a text around it is
replaced, the cursor is as far from the start of the new text as it was from the start of the old,
or at the end of the new text when this is shorter. The line is then read again, which makes a
difference only if there are carriage returns. -/
theorem cursor_follows_text {d : Document} (hp : d.lines.Inside p) (hFits : Fits d.lines edits)
    (hEdits : ∀ e ∈ edits, e.OnLine d.lines) (hTexts : ∀ e ∈ edits, '\n' ∉ e.text) :
    let line := d.lines.lineAt p.line
    let line' := rewriteLine edits p.line line
    let column := (mapCursor edits p).column
    (∃ d', d.edit? edits = some d' ∧ d'.lines.lineAt p.line = line'.dropReturn ∧
        (line.Unbroken → Unbroken edits → d'.lines.lineAt p.line = line')) ∧
      column ≤ line'.length ∧
      ((∀ e ∈ onLine edits p.line, ¬e.Around p.column) →
        line'.take column = rewriteLine (upTo p.column edits) p.line (line.take p.column) ∧
        column = (rewriteLine (upTo p.column edits) p.line (line.take p.column)).length ∧
        line'.drop column = rewriteLine (beyond p.column edits) p.line (line.drop p.column)) ∧
      ∀ e ∈ onLine edits p.line, e.Around p.column →
        let before := line.take e.span.start.column
        let start := (rewriteLine (upTo e.span.start.column edits) p.line before).length
        e.text <+: line'.drop start ∧
          column = start + min (p.column - e.span.start.column) e.text.length := by
  intro line line' column
  refine ⟨?_, column_mapCursor_le hFits hEdits hp, ?_, ?_⟩
  · have hResult : (result d edits).lines.lineAt p.line = line'.dropReturn := by
      rw [result_lines_of_feed_notMem hEdits hTexts, Lines.lineAt_map rfl,
        lineAt_rewrite hp.line_lt]
    refine ⟨result d edits, by rw [Document.edit?_eq, if_pos hFits], hResult, ?_⟩
    intro hLine hUnbroken
    have hReturn : '\r' ∉ line' := notMem_rewriteLine (fun e he => (hUnbroken e he).2) hLine.2 _
    rw [hResult, Text.dropReturn_eq_self_iff]
    exact fun hLast => hReturn (List.mem_of_getLast? hLast)
  · intro hOutside
    have hColumn : column = _ := column_mapCursor hFits hEdits hp hOutside
    have hSplit : line' = _ := rewriteLine_split hFits hEdits hp.column_le hOutside
    refine ⟨?_, hColumn, ?_⟩
    · rw [hSplit, hColumn, List.take_left]
    · rw [hSplit, hColumn, List.drop_left]
  · intro e he hAround before start
    have hStart : (mapCursor edits ⟨p.line, e.span.start.column⟩).column = start :=
      column_mapCursor hFits hEdits (inside_start hEdits he)
        ((hFits.along hEdits p.line).not_around_start he)
    rw [← hStart]
    exact ⟨prefix_drop_mapCursor hFits hEdits he hAround.start_lt_stop,
      column_mapCursor_of_around hFits hEdits he hAround⟩

/-- A cursor inside the second of three texts that touch each other, the first one taken out and the
last one put in, with an edit of another line beside them. -/
theorem cursor_follows_text_touching :
    let d := Document.ofText "a\nabcdef".toList
    let p : Position := ⟨1, 5⟩
    let edits : List Edit := [⟨.onLine 1 2 6, "wxyz-".toList⟩, .delete (.onLine 1 0 2),
      .insert ⟨1, 6⟩ "!".toList, ⟨.onLine 0 0 1, []⟩]
    d.lines.Inside p ∧ Fits d.lines edits ∧ (∀ e ∈ edits, e.OnLine d.lines) ∧
      (∀ e ∈ edits, '\n' ∉ e.text) ∧
      (∃ d', d.edit? edits = some d' ∧ d'.lines.lineAt 1 = "wxyz-!".toList) ∧
      (mapCursor edits p).column = 0 + min (5 - 2) 5 := by
  intro d p edits
  have hp : d.lines.Inside p := ⟨by decide, by decide⟩
  have hFits : Fits d.lines edits := by decide
  have hEdits : ∀ e ∈ edits, e.OnLine d.lines := by
    simp only [edits, List.forall_mem_cons, List.not_mem_nil, false_implies, implies_true, and_true]
    exact ⟨⟨rfl, by decide, by decide, by decide⟩, ⟨rfl, by decide, by decide, by decide⟩,
      ⟨rfl, by decide, by decide, by decide⟩, ⟨rfl, by decide, by decide, by decide⟩⟩
  have hTexts : ∀ e ∈ edits, '\n' ∉ e.text := by decide
  obtain ⟨⟨d', hEdit, hLine, -⟩, -, -, hInside⟩ := cursor_follows_text hp hFits hEdits hTexts
  obtain ⟨-, hColumn⟩ := hInside ⟨.onLine 1 2 6, "wxyz-".toList⟩ (by decide) ⟨by decide, by decide⟩
  exact ⟨hp, hFits, hEdits, hTexts, ⟨d', hEdit, hLine.trans (by decide)⟩, hColumn.trans (by decide)⟩

/-- A text that is inserted at the cursor comes to stand in front of it. -/
example : mapCursor [.insert ⟨0, 1⟩ "ab".toList] ⟨0, 1⟩ = ⟨0, 3⟩ := by
  decide

end Batch

end Outliner
