import Outliner.Proofs.Table.Cells
import Outliner.Proofs.Text.Cut

/-!
# Outliner — rows written and read back

A row is written with a space on each side of every text, and read by cutting it at its pipes and
trimming the pieces. So white space at the ends of a text is lost, and a pipe in a text cannot be
told from the pipes between the texts. Texts that have neither are read back as they are. What is
read from a row never has either, so every row can be written anew without a change to its cells.

* `padded` — a text as it stands between the pipes of a row.
* `Canonical` — the texts that can be the cells of a row.

Main results:

* `cells_render` — what is read from the row of given texts, whatever they are.
* `canonical_cells` — the cells of a row are canonical, however it is written.
* `cells_read_back` — canonical texts, and no others, are read back.
-/

namespace Outliner.Table

variable {texts : List Text} {row : Text}

/-! ## What is written -/

/-- A text as it stands between the pipes of a row. -/
def padded (text : Text) : Text :=
  ' ' :: (text ++ [' '])

/-- The spaces of the pipes between the texts are those of the texts. -/
theorem intercalate_padded (h : texts ≠ []) :
    List.intercalate ['|'] (texts.map padded) =
      ' ' :: (List.intercalate [' ', '|', ' '] texts ++ [' ']) := by
  induction texts with
  | nil => contradiction
  | cons text texts ih =>
    cases texts with
    | nil => simp [padded]
    | cons text' texts =>
      -- The space behind the first text and the one in front of the second are those of the pipe.
      rw [List.map_cons, List.map_cons, List.intercalate_cons_cons, ← List.map_cons,
        ih (List.cons_ne_nil _ _), List.intercalate_cons_cons]
      simp [padded]

/-- A row is its padded texts with single pipes between them and at its ends. -/
theorem render_eq (indent : Nat) (texts : List Text) :
    render indent texts =
      Text.spaces indent ++ '|' :: (List.intercalate ['|'] (texts.map padded) ++ ['|']) := by
  cases texts with
  | nil => rfl
  | cons text texts =>
    rw [intercalate_padded (List.cons_ne_nil _ _)]
    simp [render]

theorem trim_render (indent : Nat) (texts : List Text) :
    (render indent texts).trim =
      '|' :: (List.intercalate ['|'] (texts.map padded) ++ ['|']) := by
  rw [render_eq, trim_spaces_append]

/-- What is written is a row, whatever the texts are. -/
theorem isRow_render (indent : Nat) (texts : List Text) : isRow (render indent texts) = true :=
  isRow_iff.mpr ⟨_, trim_render indent texts⟩

/-! ## What is read -/

/-- The spaces around a text belong to its first piece and to its last, and are trimmed off. -/
theorem map_trim_splitOn_padded (text : Text) :
    ((padded text).splitOn '|').map Text.trim = (text.splitOn '|').map Text.trim := by
  have hPipe : ' ' ≠ '|' := by decide
  have hBlank : ∀ c ∈ [' '], Text.isBlank c = true := fun c =>
    Text.isBlank_of_mem_spaces (n := 1)
  obtain ⟨first, others, hPieces, hFront⟩ := Text.exists_splitOn_cons hPipe (text ++ [' '])
  obtain ⟨others', last, hPieces', hBehind⟩ := Text.exists_splitOn_concat hPipe text
  have hFirst : Text.trim (' ' :: first) = Text.trim first := Text.trim_blank_append hBlank first
  calc ((padded text).splitOn '|').map Text.trim
      = ((text ++ [' ']).splitOn '|').map Text.trim := by
        rw [padded, hFront, hPieces, List.map_cons, List.map_cons, hFirst]
    _ = (text.splitOn '|').map Text.trim := by
        rw [hBehind, hPieces', List.map_append, List.map_append, List.map_singleton,
          List.map_singleton, Text.trim_append_blank hBlank]

/-- **What is read from the row of given texts:** each of them is cut at the pipes that it brings,
and the pieces are trimmed. -/
theorem cells_render (indent : Nat) (h : texts ≠ []) :
    cells (render indent texts) =
      texts.flatMap fun text => (text.splitOn '|').map Text.trim := by
  have hPadded : texts.map padded ≠ [] := by simpa using h
  calc cells (render indent texts)
      = ((texts.map padded).flatMap (List.splitOn '|')).map Text.trim := by
        rw [cells_of_trim_eq (trim_render indent texts),
          Text.splitOn_intercalate_eq_flatMap '|' hPadded]
    _ = texts.flatMap fun text => ((padded text).splitOn '|').map Text.trim := by
        rw [List.flatMap_map, List.map_flatMap]
    _ = texts.flatMap fun text => (text.splitOn '|').map Text.trim :=
        List.flatMap_congr fun text _ => map_trim_splitOn_padded text

/-- A pipe makes two cells of one text, and the white space around it is lost, too. -/
example :
    cells (render 2 ["a |\u3000b".toList, [], "\u00a0c".toList]) =
      ["a".toList, "b".toList, [], "c".toList] := by
  decide

/-! ## Texts that are read back -/

/-- There is at least one text, and no text has a pipe or white space at its ends. -/
structure Canonical (texts : List Text) : Prop where
  ne_nil : texts ≠ []
  no_pipe : ∀ text ∈ texts, '|' ∉ text
  trimmed : ∀ text ∈ texts, text.Trimmed

/-- Canonical texts are read back as they are: each of them is the one piece that it is cut into. -/
theorem Canonical.cells_render (h : Canonical texts) (indent : Nat) :
    cells (render indent texts) = texts := by
  have hText : ∀ text ∈ texts, (text.splitOn '|').map Text.trim = [text] := by
    intro text hMem
    rw [List.splitOn_eq_singleton (h.no_pipe text hMem), List.map_singleton,
      Text.trimmed_iff.mp (h.trimmed text hMem)]
  rw [Table.cells_render indent h.ne_nil, List.flatMap_congr hText, List.flatMap_singleton']

/-- The cells of a row are canonical, however the row is written. -/
theorem canonical_cells (h : isRow row = true) : Canonical (cells row) := by
  obtain ⟨inner, hTrim⟩ := isRow_iff.mp h
  have hPiece : ∀ cell ∈ cells row, ∃ piece ∈ inner.splitOn '|', Text.trim piece = cell := by
    intro cell hCell
    rwa [cells_of_trim_eq hTrim, List.mem_map] at hCell
  refine ⟨List.length_pos_iff.mp (length_cells_pos h), fun cell hCell hPipe => ?_,
    fun cell hCell => ?_⟩
  · obtain ⟨piece, hMem, rfl⟩ := hPiece cell hCell
    -- The row would have been cut at this pipe.
    obtain ⟨-, hNone⟩ := Text.mem_and_eq_false_of_mem_splitOnP hMem (Text.mem_of_mem_trim hPipe)
    exact absurd hNone (by decide)
  · obtain ⟨piece, -, rfl⟩ := hPiece cell hCell
    exact Text.trimmed_trim piece

/-- **Rows read back.** What is written for any texts is a row. Its cells are these texts exactly if
they are canonical. The cells of any row are canonical, and so they are read back when the row is
written anew, whatever indentation it gets. -/
theorem cells_read_back (indent : Nat) (texts : List Text) :
    isRow (render indent texts) = true ∧
      (cells (render indent texts) = texts ↔ Canonical texts) ∧
      ∀ row, isRow row = true →
        Canonical (cells row) ∧ cells (render indent (cells row)) = cells row := by
  have hRow := isRow_render indent texts
  refine ⟨hRow, ⟨fun hRead => ?_, fun h => h.cells_render indent⟩, fun row h => ?_⟩
  · rw [← hRead]
    exact canonical_cells hRow
  · have hCanonical := canonical_cells h
    exact ⟨hCanonical, hCanonical.cells_render indent⟩

/-- A row with wide spaces, empty cells and a cell of white space, written anew. -/
theorem cells_read_back_wide_spaces :
    let row : Text := "\t|\u3000a b|||\u00a0|".toList
    isRow row = true ∧ cells row = ["a b".toList, [], [], []] ∧
      render 1 (cells row) = " | a b |  |  |  |".toList ∧
      cells (render 1 (cells row)) = cells row := by
  intro row
  have hRow : isRow row = true := by decide
  obtain ⟨-, -, hAnew⟩ := cells_read_back 1 (cells row)
  exact ⟨hRow, by decide, by decide, (hAnew row hRow).2⟩

end Outliner.Table
