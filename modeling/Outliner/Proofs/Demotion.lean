import Outliner.Proofs.Execution
import Outliner.Proofs.Subtree

/-!
# Outliner — demotion taken back

Promotion and demotion are commands, so beside the document there is a cursor to bring back. Each of
them finds the subtree of the heading again, and maps the cursor past the stars that it replaces on
the line of the heading. Demotion leaves more stars than it found, so no two cursors fall together,
and it leaves the subtree with the lines that it had, whatever follows it.

* `Heading.movedColumn` — where the cursor goes when stars are replaced.

Main results:

* `mapCursor_shiftEdits` — a command that moves a subtree takes the cursor there.
* `endsAt_demoted` — a demoted subtree ends where it ended before.
* `promote_after_demote` — promotion takes a demotion back, and the cursor with it.
-/

namespace Outliner

namespace Heading

variable {config : Config} {lines lines' : Lines} {d : Document} {p : Position} {n m : Nat}
  {shift : Shift}

/-! ## The cursor -/

/-- Where a cursor in column `c` goes when `level` stars make place for `level'` others: behind the
stars it stays with its text, among them it stays where it is, as long as there are stars. -/
def movedColumn (level level' c : Nat) : Nat :=
  if level ≤ c then c - level + level' else min c level'

theorem movedColumn_self (level c : Nat) : movedColumn level level c = c := by
  rw [movedColumn]
  split <;> omega

/-- More stars, and then as many as before. -/
theorem movedColumn_movedColumn {level level' : Nat} (h : level ≤ level') (c : Nat) :
    movedColumn level' level (movedColumn level level' c) = c := by
  unfold movedColumn
  split <;> split <;> omega

/-- In its new column the cursor is still in the text of its line. -/
theorem movedColumn_le {line : Text} {c : Nat} (hc : c ≤ line.length) (level : Nat) :
    movedColumn (levelOf line) level c ≤ (withLevel level line).length := by
  have hLevel := levelOf_le_length line
  simp only [movedColumn, withLevel, List.length_append, List.length_replicate, List.length_drop]
  split <;> omega

/-- The stars of a line replaced, as an edit of the cursor's line. -/
theorem toNat_add_columnShift_stars (n level level' c : Nat) :
    ((c : Int) + Edit.columnShift ⟨.onLine n 0 level, List.replicate level' '*'⟩ c).toNat =
      movedColumn level level' c := by
  simp only [Edit.columnShift, Span.onLine, List.length_replicate, movedColumn]
  split
  · omega
  · split <;> omega

/-- **The cursor of a moved heading** follows the stars of its line. -/
theorem mapCursor_shiftEdits (h : Moves config lines p.line shift) :
    mapCursor (shiftEdits config lines p.line shift) p =
      ⟨p.line, movedColumn (levelOf (lines.lineAt p.line))
        (shiftedLevel (max config.minLevel 1) shift (levelOf (lines.lineAt p.line))) p.column⟩ := by
  have hInPlace := inPlace_shiftEdits config lines p.line shift
  rw [Batch.mapCursor_eq hInPlace.onLine]
  congr 1
  -- The line of the cursor has one edit, or none when the heading keeps its level.
  by_cases hKeeps : shiftedLevel (max config.minLevel 1) shift (levelOf (lines.lineAt p.line)) =
      levelOf (lines.lineAt p.line)
  · have hNone : Batch.onLine (shiftEdits config lines p.line shift) p.line = [] := by
      rw [Batch.onLine, List.filter_eq_nil_iff]
      intro edit hMem hLine
      obtain ⟨m, -, -, hTarget, rfl⟩ := (mem_shiftEdits_iff h).mp hMem
      have hLine : m = p.line := beq_iff_eq.mp hLine
      exact hTarget (hLine ▸ hKeeps)
    rw [hNone, hKeeps, movedColumn_self]
    simp [Edit.columnShifts]
  · have hEdit := (mem_shiftEdits_iff h).mpr
      ⟨p.line, ⟨Nat.le_refl _, (endsAt_subtreeEnd h.root).le⟩, h.root, hKeeps, rfl⟩
    have hOne := hInPlace.onLine_eq_singleton hEdit
    have hLine : Batch.onLine (shiftEdits config lines p.line shift) p.line = _ := hOne
    rw [hLine]
    simp only [Edit.columnShifts, Int.add_zero]
    exact toNat_add_columnShift_stars ..

/-! ## The commands -/

/-- **A command that moves a subtree,** when it changes the level of the root. -/
theorem exists_execute_shift (hp : d.lines.Inside p) (hLines : d.lines.Unbroken)
    (h : Moves config d.lines p.line shift)
    (hRoot : levelOf (moved config shift (d.lines.lineAt p.line)) ≠
      levelOf (d.lines.lineAt p.line)) :
    ∃ d' q, execute config (.editable d) p shift.command = .ok (.cursor q, .editable d') ∧
      q = ⟨p.line, movedColumn (levelOf (d.lines.lineAt p.line))
        (levelOf (moved config shift (d.lines.lineAt p.line))) p.column⟩ ∧
      d'.lines.Inside q ∧ d'.lines.Unbroken ∧ d'.lineEnd = d.lineEnd ∧
      d'.lines.length = d.lines.length ∧
      ∀ m, d'.lines.lineAt m = if p.line ≤ m ∧ m ≤ subtreeEnd d.lines p.line
        then moved config shift (d.lines.lineAt m) else d.lines.lineAt m := by
  obtain ⟨d', hEdit, hUnbroken, hEnd, hLength, hLine⟩ := exists_edit?_shiftEdits hLines h
  have hInside : p.line ≤ p.line ∧ p.line ≤ subtreeEnd d.lines p.line :=
    ⟨Nat.le_refl _, (endsAt_subtreeEnd h.root).le⟩
  rw [levelOf_moved h.root] at hRoot ⊢
  have hPlan : Plan.ofCommand config d.lines p shift.command =
      .ofEdits (shiftEdits config d.lines p.line shift) p := by
    rw [Plan.ofCommand_of_levelOf_pos config hp h.root]
    cases shift <;> rfl
  have hEdits : shiftEdits config d.lines p.line shift ≠ [] :=
    List.ne_nil_of_mem ((mem_shiftEdits_iff h).mpr ⟨p.line, hInside, h.root, hRoot, rfl⟩)
  refine ⟨d', _, ?_, rfl, ⟨by rw [hLength]; exact hp.line_lt, ?_⟩, hUnbroken, hEnd, hLength, hLine⟩
  · rw [execute_eq_ok_of_edit? hp hPlan hEdits hEdit, mapCursor_shiftEdits h]
  · rw [hLine, if_pos hInside, moved, if_neg (Nat.ne_of_gt h.root)]
    exact movedColumn_le hp.column_le _

/-- **A demoted subtree ends where it ended before.** The heading that closed it still does, since
it has not moved and the root is further down. -/
theorem endsAt_demoted (hPos : 0 < levelOf (lines.lineAt n))
    (hRoot : (max config.minLevel 1).toNat ≤ levelOf (lines.lineAt n))
    (hLength : lines'.length = lines.length)
    (hLine : ∀ m, lines'.lineAt m = if n ≤ m ∧ m ≤ subtreeEnd lines n
      then moved config .inward (lines.lineAt m) else lines.lineAt m) :
    EndsAt lines' n (levelOf (lines.lineAt n) + 1) (subtreeEnd lines n) := by
  apply endsAt_moved hLength hLine hPos
  · intro m hnm hme
    apply closes_moved_eq_false
    intro hHeading
    -- The headings inside were below the root, and have moved with it.
    have hBelow := (endsAt_subtreeEnd hPos).lt_levelOf hnm hme hHeading
    have hDown : levelOf (moved config .inward (lines.lineAt m)) = levelOf (lines.lineAt m) + 1 :=
      levelOf_moved_inward hHeading (by omega)
    omega
  · rw [closes_iff, closes_iff]
    omega

/-- **Demotion taken back.** In a document without carriage returns let the cursor be on a heading
that is at the floor or below it. Demotion and then promotion, where demotion has left the cursor,
both run, and bring back the document and the cursor. -/
theorem promote_after_demote (config : Config) {d : Document} {p : Position}
    (hReturn : ∀ l ∈ d.lines, '\r' ∉ l) (hp : d.lines.Inside p)
    (hLevel : max 1 config.minLevel.toNat ≤ levelOf (d.lines.lineAt p.line)) :
    ∃ d' q, execute config (.editable d) p .demote = .ok (.cursor q, .editable d') ∧
      execute config (.editable d') q .promote = .ok (.cursor p, .editable d) := by
  have hFloor := toNat_floor config
  have hPos : 0 < levelOf (d.lines.lineAt p.line) := by omega
  have hRoot : (max config.minLevel 1).toNat ≤ levelOf (d.lines.lineAt p.line) := by omega
  have hEnds := endsAt_subtreeEnd hPos
  -- The way down: the root goes down by one level, and so does every heading below it.
  have hDown : levelOf (moved config .inward (d.lines.lineAt p.line)) =
      levelOf (d.lines.lineAt p.line) + 1 := levelOf_moved_inward hPos hRoot
  obtain ⟨d', q, hDemote, hCursor, hq, hUnbroken, hEnd, hLength, hLine⟩ :=
    exists_execute_shift hp (Document.unbroken_lines hReturn)
      (⟨hPos, fun h => by contradiction⟩ : Moves config d.lines p.line .inward) (by omega)
  have hRoot' : d'.lines.lineAt q.line = moved config .inward (d.lines.lineAt p.line) := by
    rw [hCursor, hLine, if_pos ⟨Nat.le_refl _, hEnds.le⟩]
  have hUp : moved config .outward (d'.lines.lineAt q.line) = d.lines.lineAt p.line := by
    rw [hRoot']
    exact moved_outward_moved_inward fun _ => hRoot
  -- The way back: the root is above the floor by one level, and its subtree is the same.
  have hMoves : Moves config d'.lines q.line .outward := by
    refine ⟨?_, fun _ => ?_⟩ <;> rw [hRoot', hDown] <;> omega
  have hSame : subtreeEnd d'.lines q.line = subtreeEnd d.lines p.line := by
    rw [subtreeEnd_eq_iff hMoves.root, hRoot', hDown, hCursor]
    exact endsAt_demoted hPos hRoot hLength hLine
  obtain ⟨d'', q', hPromote, hCursor', -, -, hEnd', hLength', hLine'⟩ :=
    exists_execute_shift hq hUnbroken hMoves (by rw [hUp, hRoot', hDown]; omega)
  have hDocument : d'' = d := by
    apply Document.eq_of_lines _ (hEnd'.trans hEnd)
    apply Lines.ext_lineAt (hLength'.trans hLength)
    intro m
    rw [hLine', hSame, hLine, hCursor]
    split
    · next hInside =>
      apply moved_outward_moved_inward
      intro hHeading
      rcases Nat.eq_or_lt_of_le hInside.1 with rfl | hnm
      · exact hRoot
      · exact Nat.le_trans hRoot (Nat.le_of_lt (hEnds.lt_levelOf hnm hInside.2 hHeading))
    · rfl
  have hPlace : q' = p := by
    rw [hCursor', hUp, hRoot', hCursor, movedColumn_movedColumn (by omega)]
  rw [hDocument, hPlace] at hPromote
  exact ⟨d', q, hDemote, hPromote⟩

/-- From among the stars of a subtree in front of a sibling, at a floor of two. -/
theorem promote_after_demote_at_floor :
    ∃ d' q, execute { minLevel := 2 }
        (.editable (.ofText "* A\n** B\n*** C\ntext\n** D".toList)) ⟨1, 1⟩ .demote =
          .ok (.cursor q, .editable d') ∧
      execute { minLevel := 2 } (.editable d') q .promote =
        .ok (.cursor ⟨1, 1⟩, .editable (.ofText "* A\n** B\n*** C\ntext\n** D".toList)) :=
  promote_after_demote { minLevel := 2 } (by decide) ⟨by decide, by decide⟩ (by decide)

end Heading

end Outliner
