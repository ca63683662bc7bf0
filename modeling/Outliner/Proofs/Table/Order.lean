import Mathlib.Data.List.Sort
import Outliner.Proofs.Heading
import Outliner.Proofs.Table.Cells

/-!
# Outliner — the cells of a table in order

A table is a block of rows without a gap; its cells are those of the rows that are no rules, row by
row. The searches that a move makes, down and up from a row, find the rows of its table and no
others, so the list of all cells can be put together from what they find.

* `Together` — two lines are rows of one table.
* `rowsAround`, `cellsAround` — the rows of the table around a line, and its cells.
* `rowsBelow`, `rowsAbove` — what a search downward and upward finds.
* `cellsBefore`, `cellsAfter` — the cells before and after a given one.

Main results:

* `mem_cellsAround_iff`, `pairwise_cellsAround` — which cells a table has, and in which order.
* `cellsAround_eq` — where among them a given cell is.
* `head?_cellsAfter_of_lt`, `head?_cellsAfter_of_eq`, `getLast?_cellsBefore_succ`,
  `getLast?_cellsBefore_zero` — which cells come next to it.
-/

namespace Outliner

namespace Table

variable {lines : Lines} {m n k i j : Nat}

theorem lt_length_of_isRow (h : isRow (lines.lineAt n) = true) : n < lines.length := by
  apply Lines.lt_length_of_lineAt_ne_nil
  intro hNil
  rw [hNil] at h
  exact absurd h (by decide)

/-! ## The table around a line -/

/-- Both lines and all between them are rows. -/
def Together (lines : Lines) (m n : Nat) : Prop :=
  ∀ k ≤ max m n, min m n ≤ k → isRow (lines.lineAt k) = true

instance (lines : Lines) (m n : Nat) : Decidable (Together lines m n) :=
  inferInstanceAs (Decidable (∀ k ≤ max m n, min m n ≤ k → isRow (lines.lineAt k) = true))

theorem Together.left (h : Together lines m n) : isRow (lines.lineAt m) = true :=
  h m (Nat.le_max_left ..) (Nat.min_le_left ..)

theorem Together.symm (h : Together lines m n) : Together lines n m := by
  intro k hk hk'
  exact h k (by omega) (by omega)

theorem Together.trans (h : Together lines k m) (h' : Together lines m n) : Together lines k n := by
  intro x hx hx'
  by_cases hBetween : min k m ≤ x ∧ x ≤ max k m
  · exact h x hBetween.2 hBetween.1
  · exact h' x (by omega) (by omega)

theorem together_self (h : isRow (lines.lineAt n) = true) : Together lines n n := by
  intro k hk hk'
  rwa [show k = n by omega]

/-- The rows of the table around line `n` that are no rules, downward. -/
def rowsAround (lines : Lines) (n : Nat) : List Nat :=
  (List.range lines.length).filter fun m => Together lines m n ∧ isRule (lines.lineAt m) = false

theorem mem_rowsAround_iff :
    m ∈ rowsAround lines n ↔ Together lines m n ∧ isRule (lines.lineAt m) = false := by
  unfold rowsAround
  rw [List.mem_filter, List.mem_range, decide_eq_true_eq]
  exact and_iff_right_of_imp fun h => lt_length_of_isRow h.1.left

theorem pairwise_rowsAround (lines : Lines) (n : Nat) : (rowsAround lines n).Pairwise (· < ·) :=
  List.pairwise_lt_range.filter _

/-- All rows of a table have the same table around them. -/
theorem Together.rowsAround_eq (h : Together lines m n) :
    rowsAround lines m = rowsAround lines n := by
  apply (pairwise_rowsAround lines m).eq_of_mem_iff (pairwise_rowsAround lines n)
  intro k
  rw [mem_rowsAround_iff, mem_rowsAround_iff]
  apply and_congr_left
  intro _
  exact ⟨fun hk => hk.trans h, fun hk => hk.trans h.symm⟩

/-! ## The rows on either side -/

/-- A walk comes to a place when every place up to there lets it pass. -/
theorem mem_takeWhile_map_range'_iff {α : Type} {p : α → Bool} {f : Nat → α} {count : Nat} {x : α} :
    x ∈ ((List.range' i count).map f).takeWhile p ↔
      ∃ k, i ≤ k ∧ k < i + count ∧ f k = x ∧ ∀ j, i ≤ j → j ≤ k → p (f j) = true := by
  -- On the number of places ahead.
  induction count generalizing i with
  | zero =>
    simp only [List.range'_zero, List.map_nil, List.takeWhile_nil, List.not_mem_nil, false_iff]
    rintro ⟨k, hk, hk', -⟩
    omega
  | succ count ih =>
    rw [List.range'_succ, List.map_cons, List.takeWhile_cons]
    split
    · next hp =>
      rw [List.mem_cons, ih]
      constructor
      · rintro (rfl | ⟨k, hk, hk', rfl, hAll⟩)
        · refine ⟨i, Nat.le_refl i, by omega, rfl, fun j hj hj' => ?_⟩
          rwa [show j = i by omega]
        · refine ⟨k, by omega, by omega, rfl, fun j hj hj' => ?_⟩
          rcases Nat.eq_or_lt_of_le hj with rfl | hj
          · exact hp
          · exact hAll j hj hj'
      · rintro ⟨k, hk, hk', rfl, hAll⟩
        rcases Nat.eq_or_lt_of_le hk with rfl | hk
        · exact Or.inl rfl
        · exact Or.inr ⟨k, hk, by omega, rfl, fun j hj hj' => hAll j (by omega) hj'⟩
    · next hp =>
      simp only [List.not_mem_nil, false_iff]
      rintro ⟨k, hk, -, -, hAll⟩
      exact hp (hAll i (Nat.le_refl i) hk)

theorem mem_map_snd_iff {rows : List (Text × Nat)} {P : Nat → Prop}
    (h : ∀ x, x ∈ rows ↔ x.1 = lines.lineAt x.2 ∧ P x.2) : m ∈ rows.map Prod.snd ↔ P m := by
  rw [List.mem_map]
  constructor
  · rintro ⟨x, hx, rfl⟩
    exact ((h x).mp hx).2
  · intro hm
    exact ⟨(lines.lineAt m, m), (h _).mpr ⟨rfl, hm⟩, rfl⟩

/-- The rows below line `n` in its table that are no rules, nearest first. -/
def rowsBelow (lines : Lines) (n : Nat) : List (Text × Nat) :=
  ((lines.onward (n + 1)).takeWhile (isRow ·.1)).filter (!isRule ·.1)

/-- The rows above line `n` in its table that are no rules, nearest first. -/
def rowsAbove (lines : Lines) (n : Nat) : List (Text × Nat) :=
  ((lines.above n).takeWhile (isRow ·.1)).filter (!isRule ·.1)

section

variable (hRow : isRow (lines.lineAt n) = true)

include hRow

theorem mem_rowsBelow_iff {x : Text × Nat} :
    x ∈ rowsBelow lines n ↔
      x.1 = lines.lineAt x.2 ∧ n < x.2 ∧ Together lines x.2 n ∧
        isRule (lines.lineAt x.2) = false := by
  unfold rowsBelow
  rw [List.mem_filter, Lines.onward_eq_map, mem_takeWhile_map_range'_iff]
  constructor
  · rintro ⟨⟨k, -, hk, rfl, hAll⟩, hRule⟩
    refine ⟨rfl, by simp; omega, fun j hj hj' => ?_, by simpa using hRule⟩
    dsimp only at hj hj'
    -- What lies between is the row itself or a step of the walk.
    rcases Nat.eq_or_lt_of_le (show n ≤ j by omega) with rfl | hnj
    · exact hRow
    · have := hAll (j - (n + 1)) (Nat.zero_le _) (by omega)
      rwa [Nat.add_sub_cancel' hnj] at this
  · obtain ⟨l, m⟩ := x
    dsimp only
    rintro ⟨rfl, hnm, hTogether, hRule⟩
    have hLength := lt_length_of_isRow hTogether.left
    refine ⟨⟨m - (n + 1), Nat.zero_le _, by omega, ?_, fun j hj hj' => ?_⟩, by simpa using hRule⟩
    · rw [Nat.add_sub_cancel' hnm]
    · exact hTogether _ (by omega) (by omega)

theorem mem_rowsAbove_iff {x : Text × Nat} :
    x ∈ rowsAbove lines n ↔
      x.1 = lines.lineAt x.2 ∧ x.2 < n ∧ Together lines x.2 n ∧
        isRule (lines.lineAt x.2) = false := by
  unfold rowsAbove
  rw [List.mem_filter, Lines.above_eq_map (Nat.le_of_lt (lt_length_of_isRow hRow)),
    mem_takeWhile_map_range'_iff]
  constructor
  · rintro ⟨⟨k, -, hk, rfl, hAll⟩, hRule⟩
    refine ⟨rfl, by simp; omega, fun j hj hj' => ?_, by simpa using hRule⟩
    dsimp only at hj hj'
    -- As below, with the steps counted upward.
    rcases Nat.eq_or_lt_of_le (show j ≤ n by omega) with rfl | hjn
    · exact hRow
    · have := hAll (n - 1 - j) (Nat.zero_le _) (by omega)
      rwa [show n - 1 - (n - 1 - j) = j by omega] at this
  · obtain ⟨l, m⟩ := x
    dsimp only
    rintro ⟨rfl, hmn, hTogether, hRule⟩
    refine ⟨⟨n - 1 - m, Nat.zero_le _, by omega, ?_, fun j hj hj' => ?_⟩, by simpa using hRule⟩
    · rw [show n - 1 - (n - 1 - m) = m by omega]
    · exact hTogether _ (by omega) (by omega)

theorem mem_map_snd_rowsBelow_iff :
    m ∈ (rowsBelow lines n).map Prod.snd ↔
      n < m ∧ Together lines m n ∧ isRule (lines.lineAt m) = false :=
  mem_map_snd_iff (P := fun m => n < m ∧ Together lines m n ∧ isRule (lines.lineAt m) = false)
    fun _ => mem_rowsBelow_iff hRow

theorem mem_map_snd_rowsAbove_iff :
    m ∈ (rowsAbove lines n).map Prod.snd ↔
      m < n ∧ Together lines m n ∧ isRule (lines.lineAt m) = false :=
  mem_map_snd_iff (P := fun m => m < n ∧ Together lines m n ∧ isRule (lines.lineAt m) = false)
    fun _ => mem_rowsAbove_iff hRow

/-- The table around a row: what is above it, the row, and what is below it. -/
theorem rowsAround_eq (hRule : isRule (lines.lineAt n) = false) :
    rowsAround lines n =
      ((rowsAbove lines n).map Prod.snd).reverse ++ n :: (rowsBelow lines n).map Prod.snd := by
  have hBelow : ∀ m ∈ (rowsBelow lines n).map Prod.snd, n < m := fun m hm =>
    ((mem_map_snd_rowsBelow_iff hRow).mp hm).1
  have hAbove : ∀ m ∈ (rowsAbove lines n).map Prod.snd, m < n := fun m hm =>
    ((mem_map_snd_rowsAbove_iff hRow).mp hm).1
  apply (pairwise_rowsAround lines n).eq_of_mem_iff
  · rw [List.pairwise_append, List.pairwise_reverse, List.pairwise_cons]
    refine ⟨?_, ⟨hBelow, ?_⟩, fun m hm k hk => ?_⟩
    · exact List.pairwise_map.mpr
        (((Lines.pairwise_above lines n).sublist (List.takeWhile_sublist _)).filter _)
    · exact List.pairwise_map.mpr
        (((Lines.pairwise_onward lines (n + 1)).sublist (List.takeWhile_sublist _)).filter _)
    · have hm := hAbove m (List.mem_reverse.mp hm)
      rcases List.mem_cons.mp hk with rfl | hk
      · exact hm
      · exact Nat.lt_trans hm (hBelow k hk)
  · intro m
    rw [List.mem_append, List.mem_reverse, List.mem_cons, mem_rowsAround_iff,
      mem_map_snd_rowsAbove_iff hRow, mem_map_snd_rowsBelow_iff hRow]
    constructor
    · intro h
      rcases Nat.lt_trichotomy m n with hm | rfl | hm
      · exact Or.inl ⟨hm, h⟩
      · exact Or.inr (Or.inl rfl)
      · exact Or.inr (Or.inr ⟨hm, h⟩)
    · rintro (h | rfl | h)
      · exact h.2
      · exact ⟨together_self hRow, hRule⟩
      · exact h.2

end

/-! ## The cells of a table -/

/-- The cells of a row: its number, and theirs in it. -/
def cellsAt (lines : Lines) (n : Nat) : List (Nat × Nat) :=
  (List.range (cells (lines.lineAt n)).length).map (n, ·)

/-- The cells of the table around line `n`, row by row; rules have none. -/
def cellsAround (lines : Lines) (n : Nat) : List (Nat × Nat) :=
  (rowsAround lines n).flatMap (cellsAt lines)

theorem mem_cellsAt_iff {c : Nat × Nat} :
    c ∈ cellsAt lines n ↔ c.1 = n ∧ c.2 < (cells (lines.lineAt n)).length := by
  unfold cellsAt
  rw [List.mem_map]
  constructor
  · rintro ⟨j, hj, rfl⟩
    exact ⟨rfl, List.mem_range.mp hj⟩
  · obtain ⟨m, j⟩ := c
    rintro ⟨rfl, hj⟩
    exact ⟨j, List.mem_range.mpr hj, rfl⟩

/-- **Which cells a table has.** -/
theorem mem_cellsAround_iff :
    (m, j) ∈ cellsAround lines n ↔
      Together lines m n ∧ isRule (lines.lineAt m) = false ∧
        j < (cells (lines.lineAt m)).length := by
  unfold cellsAround
  rw [List.mem_flatMap]
  constructor
  · rintro ⟨k, hk, hMem⟩
    obtain ⟨rfl, hj⟩ := mem_cellsAt_iff.mp hMem
    obtain ⟨hTogether, hRule⟩ := mem_rowsAround_iff.mp hk
    exact ⟨hTogether, hRule, hj⟩
  · rintro ⟨hTogether, hRule, hj⟩
    exact ⟨m, mem_rowsAround_iff.mpr ⟨hTogether, hRule⟩, mem_cellsAt_iff.mpr ⟨rfl, hj⟩⟩

/-- One cell comes before the other when a table is read row by row. -/
def Precedes (c c' : Nat × Nat) : Prop :=
  c.1 < c'.1 ∨ c.1 = c'.1 ∧ c.2 < c'.2

/-- **In which order.** -/
theorem pairwise_cellsAround (lines : Lines) (n : Nat) :
    (cellsAround lines n).Pairwise Precedes := by
  unfold cellsAround
  rw [List.pairwise_flatMap]
  constructor
  · intro m _
    apply List.pairwise_map.mpr
    exact List.pairwise_lt_range.imp fun h => Or.inr ⟨rfl, h⟩
  · apply (pairwise_rowsAround lines n).imp
    intro m k hmk x hx y hy
    rw [mem_cellsAt_iff] at hx hy
    exact Or.inl (by omega)

theorem Precedes.ne {c c' : Nat × Nat} (h : Precedes c c') : c ≠ c' := by
  rintro rfl
  rcases h with h | ⟨-, h⟩ <;> exact absurd h (Nat.lt_irrefl _)

theorem nodup_cellsAround (lines : Lines) (n : Nat) : (cellsAround lines n).Nodup :=
  (pairwise_cellsAround lines n).imp Precedes.ne

theorem getElem?_cellsAt (h : i < (cells (lines.lineAt n)).length) :
    (cellsAt lines n)[i]? = some (n, i) := by
  rw [cellsAt, List.getElem?_map, List.getElem?_range h, Option.map_some]

theorem length_cellsAt (lines : Lines) (n : Nat) :
    (cellsAt lines n).length = (cells (lines.lineAt n)).length := by
  rw [cellsAt, List.length_map, List.length_range]

/-- The cells before cell `i` of row `n`. -/
def cellsBefore (lines : Lines) (n i : Nat) : List (Nat × Nat) :=
  ((rowsAbove lines n).map Prod.snd).reverse.flatMap (cellsAt lines) ++ (cellsAt lines n).take i

/-- The cells after cell `i` of row `n`. -/
def cellsAfter (lines : Lines) (n i : Nat) : List (Nat × Nat) :=
  (cellsAt lines n).drop (i + 1) ++ ((rowsBelow lines n).map Prod.snd).flatMap (cellsAt lines)

/-- **Where in it a given cell is.** -/
theorem cellsAround_eq (hRow : isRow (lines.lineAt n) = true)
    (hRule : isRule (lines.lineAt n) = false) (hi : i < (cells (lines.lineAt n)).length) :
    cellsAround lines n = cellsBefore lines n i ++ (n, i) :: cellsAfter lines n i := by
  have hAt : (cellsAt lines n).take i ++ (n, i) :: (cellsAt lines n).drop (i + 1) =
      cellsAt lines n := by
    obtain ⟨hLength, hCell⟩ := List.getElem?_eq_some_iff.mp (getElem?_cellsAt hi)
    rw [← hCell, ← List.drop_eq_getElem_cons, List.take_append_drop]
  rw [cellsAround, rowsAround_eq hRow hRule, List.flatMap_append, List.flatMap_cons, cellsBefore,
    cellsAfter, List.append_assoc, ← List.cons_append,
    ← List.append_assoc ((cellsAt lines n).take i), hAt]

/-- The first of the cells of given rows. -/
theorem head?_flatMap_cellsAt {rows : List Nat} (h : ∀ m ∈ rows, isRow (lines.lineAt m) = true) :
    (rows.flatMap (cellsAt lines)).head? = rows.head?.map (·, 0) := by
  cases rows with
  | nil => rfl
  | cons m rows =>
    have hFirst : (cellsAt lines m).head? = some (m, 0) := by
      rw [List.head?_eq_getElem?]
      exact getElem?_cellsAt (length_cells_pos (h m (List.mem_cons_self ..)))
    rw [List.flatMap_cons, List.head?_append, hFirst]
    rfl

/-- The last of the cells of given rows, which are listed upward. -/
theorem getLast?_flatMap_cellsAt {rows : List Nat}
    (h : ∀ m ∈ rows, isRow (lines.lineAt m) = true) :
    (rows.reverse.flatMap (cellsAt lines)).getLast? =
      rows.head?.map fun m => (m, (cells (lines.lineAt m)).length - 1) := by
  cases rows with
  | nil => rfl
  | cons m rows =>
    have hPos := length_cells_pos (h m (List.mem_cons_self ..))
    have hLast : (cellsAt lines m).getLast? =
        some (m, (cells (lines.lineAt m)).length - 1) := by
      rw [List.getLast?_eq_getElem?, length_cellsAt]
      exact getElem?_cellsAt (Nat.sub_lt hPos Nat.one_pos)
    rw [List.reverse_cons, List.flatMap_append, List.flatMap_singleton, List.getLast?_append,
      hLast]
    rfl

theorem head?_cellsAfter_of_lt (hi : i + 1 < (cells (lines.lineAt n)).length) :
    (cellsAfter lines n i).head? = some (n, i + 1) := by
  rw [cellsAfter, List.head?_append, List.head?_drop, getElem?_cellsAt hi, Option.some_or]

theorem getLast?_cellsBefore_succ (hi : i < (cells (lines.lineAt n)).length) :
    (cellsBefore lines n (i + 1)).getLast? = some (n, i) := by
  rw [cellsBefore, List.getLast?_append, List.getLast?_take, if_neg (Nat.succ_ne_zero i),
    Nat.add_sub_cancel, getElem?_cellsAt hi, Option.some_or, Option.some_or]

/-- After the last cell of a row comes the first of the next row. -/
theorem head?_cellsAfter_of_eq (hRow : isRow (lines.lineAt n) = true)
    (hi : i + 1 = (cells (lines.lineAt n)).length) :
    (cellsAfter lines n i).head? = ((rowsBelow lines n).map Prod.snd).head?.map (·, 0) := by
  have hNone : (cellsAt lines n)[i + 1]? = none := by
    rw [List.getElem?_eq_none_iff, length_cellsAt]
    exact Nat.le_of_eq hi.symm
  rw [cellsAfter, List.head?_append, List.head?_drop, hNone, Option.none_or]
  apply head?_flatMap_cellsAt
  intro m hm
  exact ((mem_map_snd_rowsBelow_iff hRow).mp hm).2.1.left

/-- Before the first cell of a row comes the last of the row above. -/
theorem getLast?_cellsBefore_zero (hRow : isRow (lines.lineAt n) = true) :
    (cellsBefore lines n 0).getLast? =
      ((rowsAbove lines n).map Prod.snd).head?.map fun m =>
        (m, (cells (lines.lineAt m)).length - 1) := by
  rw [cellsBefore, List.take_zero, List.append_nil]
  apply getLast?_flatMap_cellsAt
  intro m hm
  exact ((mem_map_snd_rowsAbove_iff hRow).mp hm).2.1.left

end Table

end Outliner
