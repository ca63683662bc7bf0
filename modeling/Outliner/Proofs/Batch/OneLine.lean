import Outliner.Proofs.Batch.Unbroken
import Outliner.Proofs.LineEnd
import Outliner.Proofs.Lines

/-!
# Outliner — batches on one line

A batch whose edits are all on one line, and write no line feed, has no business with the other
lines. It keeps them in their places; but to land it, the whole document is joined and read again,
and reading drops a carriage return at the end of each line. A document whose lines have none is
left as it was. One that holds a line with a carriage return at its end, such as a text gives that
has two of them there, loses it to every batch, the empty one included.

* `Edit.clamp` — an edit with its columns brought within the text of their lines.

Main results:

* `result_lines_of_same_line` — what edits leave that each stay on one line, wherever in it.
* `other_lines_kept_iff` — when the lines that no edit is on are kept.
-/

namespace Outliner

/-! ## Columns past the end of a line -/

namespace Lines

/-- On a line that exists, only the column is brought inside. -/
theorem clamp_line {lines : Lines} {p : Position} (h : p.line < lines.length) :
    lines.clamp p = ⟨p.line, min p.column (lines.lineAt p.line).length⟩ := by
  have hLine : p.line ≤ lines.last := by
    rw [last]
    omega
  rw [clamp, Nat.min_eq_left hLine]

/-- An offset takes a column past the end of the line for the end. -/
theorem offset_clamp {lines : Lines} {p : Position} (h : p.line < lines.length) :
    lines.offset (lines.clamp p) = lines.offset p := by
  rw [clamp_line h, offset, offset]
  dsimp only
  omega

end Lines

/-- The edit with both its ends brought within the text of their lines. -/
def Edit.clamp (lines : Lines) (e : Edit) : Edit :=
  ⟨⟨lines.clamp e.span.start, lines.clamp e.span.stop⟩, e.text⟩

namespace Batch

variable {lines : Lines} {edits : List Edit}

/-- An edit of a batch that fits, if it stays on one line, stays on it within its text. -/
theorem onLine_clamp (hFits : Fits lines edits) {e : Edit} (he : e ∈ edits)
    (hSame : e.span.stop.line = e.span.start.line) : (e.clamp lines).OnLine lines := by
  obtain ⟨hStart, hStop⟩ := hFits.lines_exist e he
  have hForward := hFits.forward e he
  obtain ⟨⟨⟨n, a⟩, ⟨m, b⟩⟩, t⟩ := e
  obtain rfl : m = n := hSame
  have hLine : m < lines.length := hStart
  have hClamp : Edit.clamp lines ⟨⟨⟨m, a⟩, ⟨m, b⟩⟩, t⟩ =
      ⟨.onLine m (min a (lines.lineAt m).length) (min b (lines.lineAt m).length), t⟩ := by
    rw [Edit.clamp, Lines.clamp_line hStart, Lines.clamp_line hStop]
    rfl
  rw [hClamp]
  have hForward : lines.offset ⟨m, a⟩ ≤ lines.offset ⟨m, b⟩ := hForward
  refine Edit.onLine_mk hLine ?_ (Nat.min_le_right ..) t
  rw [Lines.offset, Lines.offset] at hForward
  dsimp only at hForward
  omega

/-- Columns past the end make no difference to the stretches of a batch. -/
theorem patches_map_clamp (hFits : Fits lines edits) :
    patches lines (edits.map (Edit.clamp lines)) = patches lines edits := by
  rw [patches, patches, List.zipIdx_map, List.map_map]
  apply List.map_congr_left
  rintro ⟨e, order⟩ he
  obtain ⟨hStart, hStop⟩ := hFits.lines_exist e (List.fst_mem_of_mem_zipIdx he)
  show patch lines (e.clamp lines) order = patch lines e order
  rw [patch, patch, Edit.clamp, Lines.offset_clamp hStart, Lines.offset_clamp hStop]

/-! ## What is left of the lines -/

/-- **Edits on one line each** leave every line in its place, if they write no line feed. Each line
has its edits made, and is then read again. -/
theorem result_lines_of_same_line {d : Document} (hFits : Fits d.lines edits)
    (hSame : ∀ e ∈ edits, e.span.stop.line = e.span.start.line)
    (hTexts : ∀ e ∈ edits, '\n' ∉ e.text) :
    (result d edits).lines =
      (rewrite (edits.map (Edit.clamp d.lines)) d.lines).map Text.dropReturn := by
  -- Within the text of their lines, edits can be made line by line; past it they land in the same
  -- places.
  have hOnLine : ∀ e ∈ edits.map (Edit.clamp d.lines), e.OnLine d.lines :=
    List.forall_mem_map.mpr fun e he => onLine_clamp hFits he (hSame e he)
  have hTexts' : ∀ e ∈ edits.map (Edit.clamp d.lines), '\n' ∉ e.text :=
    List.forall_mem_map.mpr hTexts
  have hResult : result d edits = result d (edits.map (Edit.clamp d.lines)) := by
    rw [result, result, patches_map_clamp hFits]
  rw [hResult, result_lines_of_feed_notMem hOnLine hTexts']

/-- A line that no edit is on is read again, and nothing else happens to it. -/
theorem lineAt_result_of_ne {d : Document} {k n : Nat} (hFits : Fits d.lines edits)
    (hLine : ∀ e ∈ edits, e.span.start.line = k ∧ e.span.stop.line = k)
    (hTexts : ∀ e ∈ edits, '\n' ∉ e.text) (hn : n ≠ k) :
    (result d edits).lines.lineAt n = (d.lines.lineAt n).dropReturn := by
  have hSame : ∀ e ∈ edits, e.span.stop.line = e.span.start.line :=
    fun e he => (hLine e he).2.trans (hLine e he).1.symm
  have hNone : onLine (edits.map (Edit.clamp d.lines)) n = [] := by
    rw [onLine, List.filter_eq_nil_iff, List.forall_mem_map]
    intro e he
    rw [Edit.clamp, Lines.clamp_line (hFits.lines_exist e he).1, beq_iff_eq]
    show e.span.start.line ≠ n
    rw [(hLine e he).1]
    exact Ne.symm hn
  rw [result_lines_of_same_line hFits hSame hTexts, Lines.lineAt_map rfl]
  rcases Nat.lt_or_ge n d.lines.length with hLength | hLength
  · rw [lineAt_rewrite hLength, rewriteLine_of_onLine_eq_nil hNone]
  · rw [Lines.lineAt_of_length_le hLength, Lines.lineAt_of_length_le (by rwa [length_rewrite])]

/-- A batch without edits has the document read again. -/
theorem edit?_nil (d : Document) :
    ∃ d', d.edit? [] = some d' ∧ d'.lines = d.lines.map Text.dropReturn ∧ d'.lineEnd = d.lineEnd := by
  have hFits : Fits d.lines [] := ⟨by simp, by simp, .nil⟩
  refine ⟨result d [], by rw [Document.edit?_eq, if_pos hFits], ?_, lineEnd_result d _⟩
  rw [result_lines_of_same_line hFits (by simp) (by simp), List.map_nil, rewrite_nil]

/-- **The other lines.** A batch that lands, and whose edits are all on line `k` and write no line
feed, keeps the number of lines, and drops the carriage return at the end of every other line that
has one. So it keeps the other lines exactly when none of them has one, and the empty batch keeps
the document exactly when no line of it has one. -/
theorem other_lines_kept_iff {d d' : Document} {k : Nat} (hLanded : d.edit? edits = some d')
    (hLine : ∀ e ∈ edits, e.span.start.line = k ∧ e.span.stop.line = k)
    (hTexts : ∀ e ∈ edits, '\n' ∉ e.text) :
    d'.lines.length = d.lines.length ∧
      (∀ n, n ≠ k → d'.lines.lineAt n = (d.lines.lineAt n).dropReturn) ∧
      ((∀ n, n ≠ k → d'.lines.lineAt n = d.lines.lineAt n) ↔
        ∀ n, n ≠ k → (d.lines.lineAt n).getLast? ≠ some '\r') ∧
      (d.edit? [] = some d ↔ ∀ l ∈ d.lines, l.getLast? ≠ some '\r') := by
  rw [Document.edit?_eq] at hLanded
  split at hLanded
  · next hFits =>
    obtain rfl : result d edits = d' := Option.some.inj hLanded
    have hSame : ∀ e ∈ edits, e.span.stop.line = e.span.start.line :=
      fun e he => (hLine e he).2.trans (hLine e he).1.symm
    have hOther : ∀ n, n ≠ k → (result d edits).lines.lineAt n = (d.lines.lineAt n).dropReturn :=
      fun n hn => lineAt_result_of_ne hFits hLine hTexts hn
    refine ⟨?_, hOther, ?_, ?_⟩
    · rw [result_lines_of_same_line hFits hSame hTexts, List.length_map, length_rewrite]
    · apply forall₂_congr
      intro n hn
      rw [hOther n hn, Text.dropReturn_eq_self_iff]
    · obtain ⟨d', hEmpty, hLines, hEnd⟩ := edit?_nil d
      rw [hEmpty, Option.some.injEq]
      calc d' = d
          ↔ d.lines.map Text.dropReturn = d.lines :=
            ⟨fun h => by rw [← hLines, h], fun h => Document.eq_of_lines (hLines.trans h) hEnd⟩
        _ ↔ d.lines.map Text.dropReturn = d.lines.map id := by rw [List.map_id]
        _ ↔ ∀ l ∈ d.lines, l.dropReturn = l := List.map_inj_left
        _ ↔ ∀ l ∈ d.lines, l.getLast? ≠ some '\r' :=
            forall₂_congr fun l _ => Text.dropReturn_eq_self_iff
  · contradiction

/-- An edit past the end of the line in the middle, and one at its start. -/
theorem other_lines_kept_iff_returnFeed :
    let d := Document.ofText "a\r\nb\r\nc".toList
    let edits := [Edit.insert ⟨1, 9⟩ "x".toList, .delete (.onLine 1 0 1)]
    (∀ e ∈ edits, e.span.start.line = 1 ∧ e.span.stop.line = 1) ∧ (∀ e ∈ edits, '\n' ∉ e.text) ∧
      ∃ d', d.edit? edits = some d' ∧ d'.lines.length = 3 ∧
        (∀ n, n ≠ 1 → d'.lines.lineAt n = d.lines.lineAt n) ∧ d.edit? [] = some d := by
  intro d edits
  have hLine : ∀ e ∈ edits, e.span.start.line = 1 ∧ e.span.stop.line = 1 := by decide
  have hTexts : ∀ e ∈ edits, '\n' ∉ e.text := by decide
  obtain ⟨d', hLanded⟩ := Option.isSome_iff_exists.mp (by decide : (d.edit? edits).isSome = true)
  obtain ⟨hLength, -, hKept, hEmpty⟩ := other_lines_kept_iff hLanded hLine hTexts
  have hReturn : ∀ l ∈ d.lines, l.getLast? ≠ some '\r' := by decide
  refine ⟨hLine, hTexts, d', hLanded, hLength, hKept.mpr fun n _ => ?_, hEmpty.mpr hReturn⟩
  rcases Nat.lt_or_ge n d.lines.length with hn | hn
  · rw [Lines.lineAt_of_lt hn]
    exact hReturn _ (List.getElem_mem hn)
  · rw [Lines.lineAt_of_length_le hn]
    simp

/-- The first line of this text has a carriage return in front of its line end. An edit on the second
line takes it away, and so does the empty batch. -/
theorem return_lost_elsewhere :
    let d := Document.ofText "a\r\r\nb".toList
    d.lines = ["a\r".toList, "b".toList] ∧
      (d.edit? [.insert ⟨1, 0⟩ "x".toList]).map Document.lines =
        some ["a".toList, "xb".toList] ∧
      (d.edit? []).map Document.lines = some ["a".toList, "b".toList] := by
  decide

end Batch

end Outliner
