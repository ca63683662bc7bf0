import Outliner.Proofs.Table.Cells
import Outliner.Proofs.Text.Cut

/-!
# Outliner — empty rows with the layout of others

A new row has the pipes of the row that it is made from, in the same columns, and spaces in between.
It is made from the trimmed row, with its indentation put in front again as spaces; so the columns
are those of the old row when that is indented by spaces and tabs. A row that is made so is bare: it
is a row like any other, never a rule, and has nothing in its cells. No other row is made from it.

* `Bare` — the row is made of spaces and pipes.

Main results:

* `bare_blankLike` — what is made from a row is bare.
* `Bare.isRow`, `Bare.isRule`, `Bare.cells_eq`, `Bare.blankLike_eq` — what holds of bare rows.
* `getElem?_blankLike_iff` — where the new pipes are.
* `blankLike_keeps_layout` — the layout of the new row.
-/

namespace Outliner.Table

variable {row inner : Text} {n column : Nat}

/-! ## Rows of spaces and pipes -/

/-- The row is made of spaces and pipes, and its text opens and closes with a pipe. -/
def Bare (row : Text) : Prop :=
  ∃ n inner, row = Text.spaces n ++ '|' :: (inner ++ ['|']) ∧ ∀ c ∈ inner, c = ' ' ∨ c = '|'

theorem bare_blankLike (h : isRow row = true) : Bare (blankLike row) := by
  obtain ⟨inner, hTrim⟩ := isRow_iff.mp h
  refine ⟨row.indent, inner.map fun c => if c = '|' ∨ isRule row ∧ c = '+' then '|' else ' ', ?_, ?_⟩
  · simp [blankLike, hTrim]
  · intro c hc
    obtain ⟨c', -, rfl⟩ := List.mem_map.mp hc
    split
    · exact Or.inr rfl
    · exact Or.inl rfl

section

variable (h : Bare row)

include h

theorem Bare.isRow : isRow row = true := by
  obtain ⟨n, inner, rfl, -⟩ := h
  exact isRow_iff.mpr ⟨inner, trim_spaces_append n inner⟩

/-- Behind the pipe that opens the row is no dash. -/
theorem Bare.isRule : isRule row = false := by
  obtain ⟨n, inner, rfl, hInner⟩ := h
  unfold Table.isRule
  rw [trimStart_spaces_append, Bool.and_eq_false_iff]
  right
  cases inner with
  | nil => rfl
  | cons c inner =>
    have hc : c ≠ '-' := by
      rcases hInner c (List.mem_cons_self ..) with rfl | rfl <;> decide
    simp [List.isPrefixOf, Ne.symm hc]

/-- **The cells** of a bare row are empty. It has one less than pipes. -/
theorem Bare.cells_eq : cells row = List.replicate ((pipes row).length - 1) [] := by
  rw [List.eq_replicate_iff]
  constructor
  · have := length_cells h.isRow
    omega
  · intro cell hCell
    obtain ⟨n, inner, rfl, hInner⟩ := h
    rw [cells_of_trim_eq (trim_spaces_append n inner), List.mem_map] at hCell
    obtain ⟨piece, hPiece, rfl⟩ := hCell
    -- A piece between pipes has no pipe, so it is made of spaces.
    rw [← Text.isBlankLine_iff_trim_eq_nil, Text.isBlankLine, List.all_eq_true]
    intro c hc
    obtain ⟨hMem, hPipe⟩ := Text.mem_and_eq_false_of_mem_splitOnP hPiece hc
    rcases hInner c hMem with rfl | rfl
    · decide
    · exact absurd hPipe (by decide)

/-- A bare row is made from itself. -/
theorem Bare.blankLike_eq : blankLike row = row := by
  have hRule := h.isRule
  obtain ⟨n, inner, rfl, hInner⟩ := h
  have hSame : ∀ c ∈ '|' :: (inner ++ ['|']), (if c = '|' then '|' else ' ') = c := by
    intro c hc
    split
    · next hPipe => exact hPipe.symm
    · next hPipe =>
      simp only [List.mem_cons, List.mem_append, List.not_mem_nil, or_false, hPipe,
        false_or] at hc
      exact ((hInner c hc).resolve_right hPipe).symm
  simp only [blankLike, hRule, Bool.false_eq_true, false_and, or_false]
  rw [trim_spaces_append, Text.indent_spaces_append rfl, List.map_congr_left hSame, List.map_id']

end

/-! ## The columns of the new row -/

section

variable (hRow : isRow row = true)
  (hLead : ∀ c ∈ row.takeWhile Text.isBlank, Text.isSpaceOrTab c = true)

include hRow hLead

/-- Up to the white space at its end, a row is its indentation and its trimmed text. -/
theorem exists_trimEnd_eq :
    ∃ lead, row.trimEnd = lead ++ row.trim ∧ lead.length = row.indent ∧
      ∀ c ∈ lead, Text.isBlank c = true := by
  obtain ⟨inner, hTrim⟩ := isRow_iff.mp hRow
  have hBlank : row.isBlankLine = false := by
    rw [← Bool.not_eq_true, Text.isBlankLine_iff_trim_eq_nil, hTrim]
    exact List.cons_ne_nil _ _
  refine ⟨row.takeWhile Text.isBlank, Text.trimEnd_eq_append_trim hBlank, ?_,
    fun c hc => List.mem_takeWhile_imp hc⟩
  have hStart : Text.indent row.trimStart = 0 := by
    rw [Text.indent_eq_zero_iff]
    intro c hc
    rw [← Text.head?_trim, hTrim] at hc
    obtain rfl := Option.some.inj hc
    decide
  calc (row.takeWhile Text.isBlank).length
      = Text.indent (row.takeWhile Text.isBlank ++ row.trimStart) :=
        (Text.indent_append hLead hStart).symm
    _ = row.indent := by rw [Text.trimStart, List.takeWhile_append_dropWhile]

theorem length_blankLike : (blankLike row).length = row.trimEnd.length := by
  obtain ⟨lead, hEnd, hLength, -⟩ := exists_trimEnd_eq hRow hLead
  rw [hEnd, blankLike]
  simp [Text.spaces, hLength]

/-- **The pipes of the new row** are where the old one has them, and where it has crossings if it is
a rule. -/
theorem getElem?_blankLike_iff :
    (blankLike row)[column]? = some '|' ↔
      row[column]? = some '|' ∨ isRule row = true ∧ row[column]? = some '+' := by
  obtain ⟨lead, hEnd, hLength, hBlank⟩ := exists_trimEnd_eq hRow hLead
  have hSpaces : (Text.spaces row.indent).length = lead.length := by
    rw [hLength, Text.spaces, List.length_replicate]
  rw [← Text.getElem?_trimEnd_iff (t := row) (c := '|') (by decide),
    ← Text.getElem?_trimEnd_iff (t := row) (c := '+') (by decide), hEnd, blankLike]
  rcases Nat.lt_or_ge column lead.length with hFront | hBehind
  · -- In the indentation neither row has anything but white space.
    have hLeft : ∀ c, lead[column]? = some c → Text.isBlank c = true := fun c hc =>
      hBlank c (List.mem_of_getElem? hc)
    rw [List.getElem?_append_left (by rwa [hSpaces]), List.getElem?_append_left hFront]
    constructor
    · intro h
      exact absurd (List.eq_of_mem_replicate (List.mem_of_getElem? h)) (by decide)
    · rintro (h | ⟨-, h⟩) <;> exact absurd (hLeft _ h) (by decide)
  · rw [List.getElem?_append_right (by rwa [hSpaces]), List.getElem?_append_right hBehind, hSpaces,
      List.getElem?_map]
    cases row.trim[column - lead.length]? with
    | none => simp
    | some c => by_cases hPipe : c = '|' <;> simp [hPipe]

end

/-- **The layout of a new row.** A row that is indented by spaces and tabs at most is taken for a
pattern. What is made from it is a row and no rule. It is as long as the old row without the white
space at its end, and has pipes in the same columns; the crossings of a rule are pipes, too. Between
the pipes all its cells are empty. Made again from the new row, it is the same. -/
theorem blankLike_keeps_layout {row : Text} (hRow : isRow row = true)
    (hLead : ∀ c ∈ row.takeWhile Text.isBlank, Text.isSpaceOrTab c = true) :
    isRow (blankLike row) = true ∧ isRule (blankLike row) = false ∧
      (blankLike row).length = row.trimEnd.length ∧
      (∀ column : Nat, (blankLike row)[column]? = some '|' ↔
        row[column]? = some '|' ∨ isRule row = true ∧ row[column]? = some '+') ∧
      cells (blankLike row) = List.replicate ((pipes (blankLike row)).length - 1) [] ∧
      blankLike (blankLike row) = blankLike row := by
  have hBare := bare_blankLike hRow
  exact ⟨hBare.isRow, hBare.isRule, length_blankLike hRow hLead,
    fun column => getElem?_blankLike_iff hRow hLead, hBare.cells_eq, hBare.blankLike_eq⟩

/-- A rule with a crossing at its start, pipes side by side, and white space behind it. -/
theorem blankLike_keeps_layout_rule :
    let row : Text := "\t |-+--||+| \u3000".toList
    isRow row = true ∧ isRule row = true ∧
      (∀ c ∈ row.takeWhile Text.isBlank, Text.isSpaceOrTab c = true) ∧
      blankLike row = "  | |  ||||".toList ∧ (blankLike row).length = row.trimEnd.length ∧
      blankLike (blankLike row) = blankLike row := by
  intro row
  have hRow : isRow row = true := by decide
  have hLead : ∀ c ∈ row.takeWhile Text.isBlank, Text.isSpaceOrTab c = true := by
    rw [← List.all_eq_true]
    decide
  obtain ⟨-, -, hLength, -, -, hSame⟩ := blankLike_keeps_layout hRow hLead
  exact ⟨hRow, by decide, hLead, by decide, hLength, hSame⟩

end Outliner.Table
