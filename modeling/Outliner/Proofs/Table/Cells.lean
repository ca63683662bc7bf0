import Outliner.Proofs.Lines
import Outliner.Proofs.Table
import Outliner.Proofs.Text

/-!
# Outliner — the cells of a row

The texts of the cells come from cutting a row at its pipes, the columns of the cells from counting
them. Both see the same cells: a cell lies between two pipes that follow each other, and holds the
columns after the first of them up to the second. Every move along a row ends in the cell that it is
for.

* `isRow_iff`, `cells_of_trim_eq` — the text of a row, and what its cells are cut out of.
* `mem_pipes_iff`, `pairwise_pipes`, `length_pipes` — the columns of the pipes.
* `length_cells` — a row has one cell less than pipes.
* `pipesBefore_eq` — the columns of a cell.

Main results:

* `exists_contentOf?` — the content of a cell starts in that cell.
* `exists_nextCell?`, `nextCell?_eq_none`, `exists_previousCell?`, `previousCell?_eq_none` — from a
  cell to its neighbours.
* `exists_firstCell?`, `exists_lastCell?` — into a row from its ends.
-/

namespace Outliner

/-! ## Counting a character -/

namespace Text

variable {c : Char}

/-- Cutting at a character leaves one piece more than there are of it. -/
theorem length_splitOn (c : Char) (t : Text) : (t.splitOn c).length = t.count c + 1 := by
  unfold List.splitOn
  induction t with
  | nil => rfl
  | cons a t ih =>
    rw [List.splitOnP_cons_eq_if_modifyHead, List.count_cons]
    split
    · rw [List.length_cons, ih]
    · rw [List.length_modifyHead, ih, Nat.add_zero]

theorem count_trimStart (hc : isBlank c = false) (t : Text) : t.trimStart.count c = t.count c := by
  unfold trimStart
  induction t with
  | nil => rfl
  | cons a t ih =>
    by_cases ha : isBlank a = true
    · have hne : a ≠ c := by
        rintro rfl
        rw [ha] at hc
        contradiction
      rw [List.dropWhile_cons_of_pos ha, ih, List.count_cons_of_ne hne]
    · rw [List.dropWhile_cons_of_neg ha]

/-- Only white space is cut off. -/
theorem count_trim (hc : isBlank c = false) (t : Text) : t.trim.count c = t.count c := by
  rw [trim, trimEnd, List.count_reverse, ← trimStart, count_trimStart hc, List.count_reverse,
    count_trimStart hc]

end Text

namespace Table

variable {row inner : Text} {a b column i : Nat}

/-! ## The text of a row -/

/-- A row is what has a pipe at each end of its text. -/
theorem isRow_iff : isRow row = true ↔ ∃ inner, row.trim = '|' :: (inner ++ ['|']) := by
  simp only [isRow, Bool.and_eq_true, decide_eq_true_eq, beq_iff_eq]
  constructor
  · rintro ⟨⟨hLength, hHead⟩, hLast⟩
    obtain ⟨t, ht⟩ := List.head?_eq_some_iff.mp hHead
    rw [ht] at hLength hLast ⊢
    rcases List.eq_nil_or_concat t with rfl | ⟨inner, c, rfl⟩
    · exact absurd hLength (by decide)
    · rw [List.concat_eq_append, ← List.cons_append, List.getLast?_concat] at hLast
      obtain rfl := Option.some.inj hLast
      exact ⟨inner, by rw [List.concat_eq_append]⟩
  · rintro ⟨inner, hTrim⟩
    rw [hTrim]
    exact ⟨⟨by simp, rfl⟩, by rw [← List.cons_append, List.getLast?_concat]⟩

/-- The cells are the pieces of the text between these two pipes, without the white space at their
ends. -/
theorem cells_of_trim_eq (h : row.trim = '|' :: (inner ++ ['|'])) :
    cells row = (inner.splitOn '|').map Text.trim := by
  have hPieces : row.trim.splitOn '|' = [] :: (inner.splitOn '|' ++ [[]]) := by
    calc row.trim.splitOn '|'
        = List.splitOn '|' [] ++ (inner ++ ['|']).splitOn '|' := by
          rw [h]
          exact List.splitOn_append_cons_self [] _
      _ = [] :: (inner.splitOn '|' ++ [[]]) := by
          rw [List.splitOn_append_cons_self inner []]
          rfl
  rw [cells, if_pos (isRow_iff.mpr ⟨inner, h⟩), hPieces, List.drop_one, List.tail_cons,
    List.dropLast_concat]

theorem trimStart_spaces_append (n : Nat) (t : Text) :
    Text.trimStart (Text.spaces n ++ '|' :: t) = '|' :: t := by
  have hLead : ∀ c ∈ Text.spaces n, Text.isBlank c = true := fun c =>
    Text.isBlank_of_mem_spaces
  rw [Text.trimStart, List.dropWhile_append_of_pos hLead, List.dropWhile_cons_of_neg (by decide)]

theorem trim_spaces_append (n : Nat) (inner : Text) :
    Text.trim (Text.spaces n ++ '|' :: (inner ++ ['|'])) = '|' :: (inner ++ ['|']) := by
  rw [Text.trim, trimStart_spaces_append, ← List.cons_append, Text.trimEnd_concat (by decide)]

/-! ## Pipes -/

theorem mem_pipes_iff : column ∈ pipes row ↔ row[column]? = some '|' := by
  unfold pipes
  rw [List.mem_map]
  constructor
  · rintro ⟨⟨c, k⟩, hMem, rfl⟩
    obtain ⟨hMem, hc⟩ := List.mem_filter.mp hMem
    rw [List.mk_mem_zipIdx_iff_getElem?] at hMem
    have hc : c = '|' := beq_iff_eq.mp hc
    rw [hMem, hc]
  · intro h
    exact ⟨('|', column), List.mem_filter.mpr ⟨List.mk_mem_zipIdx_iff_getElem?.mpr h, rfl⟩, rfl⟩

/-- The pipes stand in order. -/
theorem pairwise_pipes (row : Text) : (pipes row).Pairwise (· < ·) := by
  unfold pipes
  rw [List.pairwise_map]
  exact (Lines.pairwise_zipIdx row 0).filter _

theorem length_pipes (row : Text) : (pipes row).length = row.count '|' := by
  calc (pipes row).length
      = row.zipIdx.countP (·.1 == '|') := by
        rw [pipes, List.length_map, List.countP_eq_length_filter]
    _ = (row.zipIdx.map Prod.fst).countP (· == '|') := by rw [List.countP_map]; rfl
    _ = row.count '|' := by rw [List.zipIdx_map_fst, List.count]

/-- A row opens with one pipe and closes with another. -/
theorem two_le_length_pipes (h : isRow row = true) : 2 ≤ (pipes row).length := by
  obtain ⟨inner, hTrim⟩ := isRow_iff.mp h
  rw [length_pipes, ← Text.count_trim (by decide) row, hTrim, List.count_cons_self,
    List.count_append, List.count_singleton_self]
  omega

/-- A row has one cell less than pipes. -/
theorem length_cells (h : isRow row = true) :
    (cells row).length + 1 = (pipes row).length := by
  obtain ⟨inner, hTrim⟩ := isRow_iff.mp h
  rw [cells_of_trim_eq hTrim, List.length_map, Text.length_splitOn, length_pipes,
    ← Text.count_trim (by decide) row, hTrim, List.count_cons_self, List.count_append,
    List.count_singleton_self]

theorem length_cells_pos (h : isRow row = true) : 0 < (cells row).length := by
  have := length_cells h
  have := two_le_length_pipes h
  omega

/-! ## The columns of a cell -/

/-- The columns after one pipe and up to the next have the same pipes to their left. -/
theorem pipesBefore_eq (ha : (pipes row)[i]? = some a) (hb : (pipes row)[i + 1]? = some b)
    (hac : a < column) (hcb : column ≤ b) : pipesBefore row column = i + 1 := by
  have hSorted := List.pairwise_iff_getElem.mp (pairwise_pipes row)
  obtain ⟨hi, rfl⟩ := List.getElem?_eq_some_iff.mp ha
  obtain ⟨hi', rfl⟩ := List.getElem?_eq_some_iff.mp hb
  have hLeft : ∀ x ∈ (pipes row).take (i + 1), x < column := by
    intro x hx
    obtain ⟨k, hk, rfl⟩ := List.mem_take_iff_getElem.mp hx
    rcases Nat.eq_or_lt_of_le (show k ≤ i by omega) with rfl | hki
    · exact hac
    · exact Nat.lt_trans (hSorted k i (by omega) hi hki) hac
  have hRight : ∀ x ∈ (pipes row).drop (i + 1), ¬x < column := by
    intro x hx
    obtain ⟨k, hk, rfl⟩ := List.mem_drop_iff_getElem.mp hx
    rcases Nat.eq_zero_or_pos k with rfl | hk0
    · exact Nat.not_lt.mpr hcb
    · have := hSorted (i + 1) (i + 1 + k) hi' (by omega) (by omega)
      omega
  rw [pipesBefore, ← List.take_append_drop (i + 1) (pipes row), List.filter_append,
    List.filter_eq_self.mpr (by simpa using hLeft),
    List.filter_eq_nil_iff.mpr (by simpa using hRight), List.append_nil, List.length_take]
  omega

theorem pipesBefore_zero (row : Text) : pipesBefore row 0 = 0 := by
  rw [pipesBefore, List.filter_eq_nil_iff.mpr (by simp)]
  rfl

theorem cellIndex?_eq_some_iff :
    cellIndex? row column = some i ↔
      pipesBefore row column = i + 1 ∧ i + 1 < (pipes row).length := by
  unfold cellIndex?
  constructor
  · intro h
    dsimp only at h
    split at h
    · injection h
      omega
    · contradiction
  · rintro ⟨hi, hLength⟩
    rw [hi, if_pos ⟨Nat.le_add_left 1 i, hLength⟩, Nat.add_sub_cancel]

/-- A column in a cell is one of the row: it is not right of the pipe that closes the cell. -/
theorem lt_length_of_cellIndex? (h : cellIndex? row column = some i) : column < row.length := by
  obtain ⟨hBefore, hCount⟩ := cellIndex?_eq_some_iff.mp h
  by_contra hColumn
  have hAll : ∀ pipe ∈ pipes row, pipe < column := fun pipe hPipe =>
    Nat.lt_of_lt_of_le (lt_length_of_mem_pipes hPipe) (Nat.le_of_not_lt hColumn)
  rw [pipesBefore, List.filter_eq_self.mpr (by simpa using hAll)] at hBefore
  omega

/-- Where the content of a cell starts is right of the pipe that opens it. -/
theorem lt_contentAfter (row : Text) (pipe : Nat) : pipe < contentAfter row pipe := by
  unfold contentAfter
  dsimp only
  split <;> omega

/-- It is not right of the pipe that closes the cell: the spaces behind the opening pipe end there
at the latest. -/
theorem contentAfter_le_of_pipe (hb : row[b]? = some '|') (hab : a < b) :
    contentAfter row a ≤ b := by
  have hGap : ((row.drop (a + 1)).takeWhile (· == ' ')).length ≤ b - (a + 1) := by
    by_contra hLong
    obtain ⟨rest, hRest⟩ := List.takeWhile_prefix (· == ' ') (l := row.drop (a + 1))
    have hAt : (row.drop (a + 1))[b - (a + 1)]? = some '|' := by
      rw [List.getElem?_drop, Nat.add_sub_cancel' hab, hb]
    rw [← hRest, List.getElem?_append_left (Nat.lt_of_not_le hLong)] at hAt
    exact absurd (List.mem_takeWhile_imp (List.mem_of_getElem? hAt)) (by decide)
  unfold contentAfter
  dsimp only
  split <;> omega

/-- **The content of a cell starts in that cell.** -/
theorem exists_contentOf? (h : i + 1 < (pipes row).length) :
    ∃ start, contentOf? row i = some start ∧ cellIndex? row start = some i := by
  have ha : (pipes row)[i]? = some (pipes row)[i] := List.getElem?_eq_getElem _
  have hb : (pipes row)[i + 1]? = some (pipes row)[i + 1] := List.getElem?_eq_getElem _
  have hab : (pipes row)[i] < (pipes row)[i + 1] :=
    List.pairwise_iff_getElem.mp (pairwise_pipes row) i (i + 1) _ h (Nat.lt_succ_self i)
  have hPipe := mem_pipes_iff.mp (List.mem_of_getElem? hb)
  refine ⟨contentAfter row (pipes row)[i], ?_, ?_⟩
  · rw [contentOf?, ha, Option.map_some]
  · rw [cellIndex?_eq_some_iff]
    exact ⟨pipesBefore_eq ha hb (lt_contentAfter ..) (contentAfter_le_of_pipe hPipe hab), h⟩

/-! ## Moves along a row -/

section

variable (hRow : isRow row = true)

include hRow

/-- The cell that holds a column is one of the cells of the row. -/
theorem lt_length_cells (h : cellIndex? row column = some i) : i < (cells row).length := by
  have := length_cells hRow
  have := (cellIndex?_eq_some_iff.mp h).2
  omega

theorem exists_nextCell? (h : cellIndex? row column = some i) (hi : i + 1 < (cells row).length) :
    ∃ start, nextCell? row column = some start ∧ cellIndex? row start = some (i + 1) := by
  have hCount : i + 1 + 1 < (pipes row).length := by
    have := length_cells hRow
    omega
  obtain ⟨hBefore, -⟩ := cellIndex?_eq_some_iff.mp h
  obtain ⟨start, hStart, hIndex⟩ := exists_contentOf? hCount
  refine ⟨start, ?_, hIndex⟩
  rw [nextCell?, hBefore]
  show (if i + 1 + 1 < (pipes row).length then contentOf? row (i + 1) else none) = some start
  rw [if_pos hCount, hStart]

theorem nextCell?_eq_none (h : cellIndex? row column = some i) (hi : i + 1 = (cells row).length) :
    nextCell? row column = none := by
  have hCount : ¬i + 1 + 1 < (pipes row).length := by
    have := length_cells hRow
    omega
  obtain ⟨hBefore, -⟩ := cellIndex?_eq_some_iff.mp h
  rw [nextCell?, hBefore]
  exact if_neg hCount

theorem exists_firstCell? :
    ∃ start, firstCell? row = some start ∧ cellIndex? row start = some 0 := by
  have hCount : 0 + 1 < (pipes row).length := two_le_length_pipes hRow
  obtain ⟨start, hStart, hIndex⟩ := exists_contentOf? hCount
  refine ⟨start, ?_, hIndex⟩
  rw [firstCell?, nextCell?, pipesBefore_zero]
  show (if 0 + 1 < (pipes row).length then contentOf? row 0 else none) = some start
  rw [if_pos hCount, hStart]

theorem exists_lastCell? :
    ∃ start, lastCell? row = some start ∧
      cellIndex? row start = some ((cells row).length - 1) := by
  have hTwo := two_le_length_pipes hRow
  have hLast : (pipes row).length - 2 = (cells row).length - 1 := by
    have := length_cells hRow
    omega
  obtain ⟨start, hStart, hIndex⟩ :=
    exists_contentOf? (show (cells row).length - 1 + 1 < (pipes row).length by omega)
  refine ⟨start, ?_, hIndex⟩
  unfold lastCell?
  dsimp only
  rw [if_pos hTwo, hLast, hStart]

end

theorem exists_previousCell? (h : cellIndex? row column = some (i + 1)) :
    ∃ start, previousCell? row column = some start ∧ cellIndex? row start = some i := by
  obtain ⟨hBefore, hCount⟩ := cellIndex?_eq_some_iff.mp h
  obtain ⟨start, hStart, hIndex⟩ := exists_contentOf? (Nat.lt_of_succ_lt hCount)
  refine ⟨start, ?_, hIndex⟩
  rw [previousCell?, hBefore]
  exact hStart

theorem previousCell?_eq_none (h : cellIndex? row column = some 0) :
    previousCell? row column = none := by
  rw [previousCell?, (cellIndex?_eq_some_iff.mp h).1]
  rfl

end Table

end Outliner
