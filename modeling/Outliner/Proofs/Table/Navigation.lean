import Outliner.Proofs.Execution
import Outliner.Proofs.Opening
import Outliner.Proofs.Table.Order

/-!
# Outliner — moving through a table

A move looks for a neighbour along the row of the cursor, and then for the nearest row on that side
that is no rule. This comes to the neighbour in the list of all cells of the table, so a move and
the opposite move undo each other.

* `Table.cellAt?` — the cell that a place is in.
* `Plan.EndsIn`, `Table.EndsIn` — a plan, or a command, that comes to a cell and does nothing else.

Main results:

* `endsIn_nextCell`, `endsIn_previousCell` — what the plans of the two moves come to.
* `classify_of_isRow`, `execute_of_isRow` — in a cell of a row a command is about the table.
* `endsIn_neighbours` — from any place in a cell the moves come to its neighbours.
* `navigation_row_major` — the moves follow the list of cells, and each takes the other back.
-/

namespace Outliner

namespace Table

variable {lines : Lines} {n i : Nat}

/-! ## What a move comes to -/

/-- The cell that a place is in. -/
def cellAt? (lines : Lines) (p : Position) : Option (Nat × Nat) :=
  (cellIndex? (lines.lineAt p.line) p.column).map (p.line, ·)

theorem cellAt?_eq_some_iff {p : Position} :
    cellAt? lines p = some (n, i) ↔
      p.line = n ∧ cellIndex? (lines.lineAt p.line) p.column = some i := by
  unfold cellAt?
  rw [Option.map_eq_some_iff]
  constructor
  · rintro ⟨j, hj, hEq⟩
    obtain ⟨hLine, rfl⟩ := Prod.mk.inj hEq
    exact ⟨hLine, hj⟩
  · rintro ⟨rfl, hIndex⟩
    exact ⟨i, hIndex, rfl⟩

end Table

namespace Plan

variable {lines : Lines} {n i : Nat} {p : Position}

/-- A plan that puts the cursor into the cell, if there is one, and does nothing else. -/
inductive EndsIn (lines : Lines) : Plan → Option (Nat × Nat) → Prop where
  | cell {q : Position} {c : Nat × Nat} (h : Table.cellAt? lines q = some c) :
    EndsIn lines (.apply [] q) (some c)
  | unchanged : EndsIn lines .unchanged none

/-- Into the first of the rows that is no rule, at the cell that is picked. -/
theorem endsIn_intoRow {rows : List (Text × Nat)} {pick : Text → Option Nat} (index : Text → Nat)
    (hRows : ∀ x ∈ rows.filter (!Table.isRule ·.1),
      x.1 = lines.lineAt x.2 ∧ Table.isRow (lines.lineAt x.2) = true)
    (hPick : ∀ line, Table.isRow line = true →
      ∃ start, pick line = some start ∧ Table.cellIndex? line start = some (index line)) :
    EndsIn lines (intoRow rows pick)
      (((rows.filter (!Table.isRule ·.1)).map Prod.snd).head?.map fun m =>
        (m, index (lines.lineAt m))) := by
  unfold intoRow
  rw [← List.head?_filter]
  cases hFound : rows.filter (!Table.isRule ·.1) with
  | nil => exact .unchanged
  | cons x rest =>
    obtain ⟨l, m⟩ := x
    rw [hFound] at hRows
    obtain ⟨hLine, hRow⟩ : l = lines.lineAt m ∧ Table.isRow (lines.lineAt m) = true :=
      hRows _ (List.mem_cons_self ..)
    subst hLine
    obtain ⟨start, hStart, hIndex⟩ := hPick _ hRow
    rw [List.head?_cons]
    dsimp only
    rw [hStart]
    exact .cell (Table.cellAt?_eq_some_iff.mpr ⟨rfl, hIndex⟩)

section

variable (hRow : Table.isRow (lines.lineAt p.line) = true)
  (hCell : Table.cellIndex? (lines.lineAt p.line) p.column = some i)

include hRow hCell

/-- **What the move to the next cell comes to.** -/
theorem endsIn_nextCell :
    EndsIn lines (nextCell lines p) (Table.cellsAfter lines p.line i).head? := by
  unfold nextCell
  rcases Nat.lt_or_eq_of_le (Nat.succ_le_of_lt (Table.lt_length_cells hRow hCell)) with hi | hi
  · -- Within the row.
    obtain ⟨start, hStart, hIndex⟩ := Table.exists_nextCell? hRow hCell hi
    rw [hStart, Table.head?_cellsAfter_of_lt hi]
    exact .cell (Table.cellAt?_eq_some_iff.mpr ⟨rfl, hIndex⟩)
  · -- From the last cell of the row to the first of a row below.
    rw [Table.nextCell?_eq_none hRow hCell hi, Table.head?_cellsAfter_of_eq hRow hi]
    refine endsIn_intoRow (fun _ => 0) (fun x hx => ?_) fun line => Table.exists_firstCell?
    obtain ⟨hLine, -, hTogether, -⟩ := (Table.mem_rowsBelow_iff hRow).mp hx
    exact ⟨hLine, hTogether.left⟩

/-- **What the move to the previous cell comes to.** -/
theorem endsIn_previousCell :
    EndsIn lines (previousCell lines p) (Table.cellsBefore lines p.line i).getLast? := by
  unfold previousCell
  cases i with
  | succ i =>
    -- Within the row.
    obtain ⟨start, hStart, hIndex⟩ := Table.exists_previousCell? hCell
    have hi := Nat.lt_of_succ_lt (Table.lt_length_cells hRow hCell)
    rw [hStart, Table.getLast?_cellsBefore_succ hi]
    exact .cell (Table.cellAt?_eq_some_iff.mpr ⟨rfl, hIndex⟩)
  | zero =>
    -- From the first cell of the row to the last of a row above.
    rw [Table.previousCell?_eq_none hCell, Table.getLast?_cellsBefore_zero hRow]
    refine endsIn_intoRow (fun line => (Table.cells line).length - 1) (fun x hx => ?_)
      fun line => Table.exists_lastCell?
    obtain ⟨hLine, -, hTogether, -⟩ := (Table.mem_rowsAbove_iff hRow).mp hx
    exact ⟨hLine, hTogether.left⟩

end

end Plan

/-! ## Running a move -/

namespace Table

variable {config : Config} {host : Host} {p : Position} {i : Nat}

/-- An answer that puts the cursor into the cell, if there is one; the host is as before. -/
inductive EndsIn (host : Host) : Except Error (Outcome × Host) → Option (Nat × Nat) → Prop where
  | cell {q : Position} {c : Nat × Nat} (h : cellAt? host.lines q = some c) :
    EndsIn host (.ok (.cursor q, host)) (some c)
  | unchanged : EndsIn host (.ok (.unchanged, host)) none

/-- A row is the context of every place in it. -/
theorem classify_of_isRow (config : Config) {lines : Lines}
    (hRow : isRow (lines.lineAt p.line) = true) :
    Context.classify config lines p =
      .table p.line (cells (lines.lineAt p.line)) (cellIndex? (lines.lineAt p.line) p.column) := by
  have hHeading := Heading.parse?_eq_none config.keywords (levelOf_eq_zero_of_isRow hRow)
  have hOwner : Context.ownerContext? config lines p.line = none := by
    unfold Context.ownerContext?
    apply if_pos
    refine Or.inr ?_
    simp [Context.isStructural, hRow]
  unfold Context.classify
  simp only [hHeading, parseBegin?_eq_none_of_isRow hRow, parse?_eq_none_of_isRow hRow, hOwner,
    Option.getD_none]
  rw [Context.classifyRest, if_pos hRow]

/-- In a cell of a row a command is about the table. -/
theorem execute_of_isRow {command : Command} (hRow : isRow (host.lines.lineAt p.line) = true)
    (hCell : cellIndex? (host.lines.lineAt p.line) p.column = some i) :
    execute config host p command =
      match Plan.onTable config host.lines p command with
      | .apply [] cursor => .ok (.cursor cursor, host)
      | .apply edits cursor => match host.edit? edits with
        | some host => .ok (.cursor cursor, host)
        | none => .error .batchRejected
      | .fold lines => .ok (.fold lines, host)
      | .unchanged => .ok (.unchanged, host) := by
  have hLine := lt_length_of_isRow hRow
  have hColumn := Nat.le_of_lt (lt_length_of_cellIndex? hCell)
  have hBounds : host.lines.inBounds p = true := by
    unfold Lines.inBounds
    rw [Bool.and_eq_true, decide_eq_true_eq, decide_eq_true_eq]
    exact ⟨by omega, hColumn⟩
  have hClamp : host.lines.clamp p = p :=
    Lines.clamp_of_le (by unfold Lines.last; omega) hColumn
  have hPlan : Plan.ofCommand config host.lines p command =
      Plan.onTable config host.lines p command := by
    rw [Plan.ofCommand, hClamp, classify_of_isRow config hRow, Plan.inContext]
  rw [execute, hBounds, hPlan]
  rfl

theorem endsIn_execute {command : Command} {cell? : Option (Nat × Nat)}
    (hRow : isRow (host.lines.lineAt p.line) = true)
    (hCell : cellIndex? (host.lines.lineAt p.line) p.column = some i)
    (h : (Plan.onTable config host.lines p command).EndsIn host.lines cell?) :
    EndsIn host (execute config host p command) cell? := by
  rw [execute_of_isRow hRow hCell]
  generalize Plan.onTable config host.lines p command = plan at h
  cases h with
  | cell hq => exact .cell hq
  | unchanged => exact .unchanged

theorem EndsIn.exists_cellAt? {answer : Except Error (Outcome × Host)} {cell? : Option (Nat × Nat)}
    {q : Position} (h : EndsIn host answer cell?) (hq : answer = .ok (.cursor q, host)) :
    ∃ m j, cell? = some (m, j) ∧ cellAt? host.lines q = some (m, j) := by
  subst hq
  cases h with
  | cell h => exact ⟨_, _, rfl, h⟩

/-- From any place in a cell of the table the moves come to the neighbours of the cell. -/
theorem endsIn_neighbours (config : Config) {front rest : List (Nat × Nat)} {n m j : Nat}
    (h : cellsAround host.lines n = front ++ (m, j) :: rest)
    (hp : cellAt? host.lines p = some (m, j)) :
    EndsIn host (execute config host p .nextCell) rest.head? ∧
      EndsIn host (execute config host p .previousCell) front.getLast? := by
  obtain ⟨rfl, hCell⟩ := cellAt?_eq_some_iff.mp hp
  have hMem : (p.line, j) ∈ cellsAround host.lines n := by
    rw [h]
    exact List.mem_append_right _ (List.mem_cons_self ..)
  obtain ⟨hTogether, hRule, hj⟩ := mem_cellsAround_iff.mp hMem
  have hRow := hTogether.left
  -- The list holds the cell once, so it can be split there in one way only.
  have hOnce : (p.line, j) ∉ front ∧ (p.line, j) ∉ rest := by
    have hNodup := nodup_cellsAround host.lines n
    rw [h, List.nodup_middle, List.nodup_cons, List.mem_append, not_or] at hNodup
    exact hNodup.1
  have hSplit := cellsAround_eq hRow hRule hj
  rw [cellsAround, hTogether.rowsAround_eq, ← cellsAround, h,
    List.append_cons_inj_of_notMem hOnce.1 hOnce.2] at hSplit
  obtain ⟨hFront, -, hRest⟩ := hSplit
  rw [hFront, hRest]
  exact ⟨endsIn_execute hRow hCell (Plan.endsIn_nextCell hRow hCell),
    endsIn_execute hRow hCell (Plan.endsIn_previousCell hRow hCell)⟩

/-- **Moving through a table** from a cell of a row that is no rule. In the list of the cells of the
table, row by row, the cell has its place once. The next cell is the one after it, the previous cell
the one before; there the cursor goes, and where there is none the command does nothing. In either
case the host is as before. From where the cursor has gone, the opposite move comes back to the
cell. -/
theorem navigation_row_major (config : Config) {host : Host} {p : Position} {i : Nat}
    (hRow : isRow (host.lines.lineAt p.line) = true)
    (hRule : isRule (host.lines.lineAt p.line) = false)
    (hCell : cellIndex? (host.lines.lineAt p.line) p.column = some i) :
    ∃ front rest, cellsAround host.lines p.line = front ++ (p.line, i) :: rest ∧
      (cellsAround host.lines p.line).Pairwise Precedes ∧
      EndsIn host (execute config host p .nextCell) rest.head? ∧
      EndsIn host (execute config host p .previousCell) front.getLast? ∧
      (∀ q, execute config host p .nextCell = .ok (.cursor q, host) →
        EndsIn host (execute config host q .previousCell) (some (p.line, i))) ∧
      ∀ q, execute config host p .previousCell = .ok (.cursor q, host) →
        EndsIn host (execute config host q .nextCell) (some (p.line, i)) := by
  obtain ⟨front, rest, h⟩ : ∃ front rest,
      cellsAround host.lines p.line = front ++ (p.line, i) :: rest :=
    ⟨_, _, cellsAround_eq hRow hRule (lt_length_cells hRow hCell)⟩
  have hp : cellAt? host.lines p = some (p.line, i) := cellAt?_eq_some_iff.mpr ⟨rfl, hCell⟩
  obtain ⟨hNext, hPrevious⟩ := endsIn_neighbours config h hp
  refine ⟨front, rest, h, pairwise_cellsAround .., hNext, hPrevious, fun q hq => ?_, fun q hq => ?_⟩
  · -- In front of the cell after this one stands this one.
    obtain ⟨m, j, hHead, hCellQ⟩ := hNext.exists_cellAt? hq
    obtain ⟨rest', rfl⟩ := List.head?_eq_some_iff.mp hHead
    rw [List.append_cons] at h
    have hBack := (endsIn_neighbours config h hCellQ).2
    rwa [List.getLast?_concat] at hBack
  · -- Behind the cell before this one stands this one.
    obtain ⟨m, j, hLast, hCellQ⟩ := hPrevious.exists_cellAt? hq
    obtain ⟨front', rfl⟩ := List.getLast?_eq_some_iff.mp hLast
    rw [List.append_assoc, List.singleton_append] at h
    exact (endsIn_neighbours config h hCellQ).1

/-- With the cursor on the pipe that closes a row: over a rule to an empty cell, and back along the
row to a cell of no width. -/
theorem navigation_row_major_over_rule :
    let host := Host.editable (Document.ofText "|| b |\n|-+-|\n|   |c|".toList)
    EndsIn host (execute {} host ⟨0, 5⟩ .nextCell) (some (2, 0)) ∧
      EndsIn host (execute {} host ⟨0, 5⟩ .previousCell) (some (0, 0)) := by
  intro host
  have hCells : cellsAround host.lines 0 = [(0, 0)] ++ (0, 1) :: [(2, 0), (2, 1)] := by decide
  obtain ⟨front, rest, h, -, hNext, hPrevious, -⟩ :=
    navigation_row_major {} (p := ⟨0, 5⟩) (i := 1)
      (show isRow (host.lines.lineAt 0) = true by decide) (by decide) (by decide)
  rw [hCells, List.append_cons_inj_of_notMem (by decide) (by decide)] at h
  obtain ⟨hFront, -, hRest⟩ := h
  rw [← hRest] at hNext
  rw [← hFront] at hPrevious
  exact ⟨hNext, hPrevious⟩

end Table

end Outliner
