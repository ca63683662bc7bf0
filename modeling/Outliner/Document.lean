import Outliner.Lines

/-!
# Outliner — documents

A document is a text cut into lines, together with the line end that it is written with. Reading a
text accepts both line ends, also mixed; writing uses one of them throughout.

* `Document.read`, `Document.ofText` — from a text, with a given line end or with the one it shows;
* `Document.text` — the text of the document.

The two proof fields hold for every document: it has at least one line, and no line holds a line
feed.
-/

namespace Outliner

/-! ## Line ends -/

/-- How a line ends in writing. -/
inductive LineEnd where
  /-- A line feed. -/
  | feed
  /-- A carriage return and a line feed. -/
  | returnFeed
deriving DecidableEq, Repr

/-- The characters of a line end. -/
def LineEnd.chars : LineEnd → Text
  | .feed => ['\n']
  | .returnFeed => ['\r', '\n']

/-- The text without the carriage return at its end, if there is one. -/
def Text.dropReturn (t : Text) : Text :=
  if t.getLast? = some '\r' then t.dropLast else t

/-- The pieces between line feeds. -/
def Text.pieces (t : Text) : List Text :=
  t.splitOn '\n'

/-- The line end that a text shows: a carriage return before any one of its line feeds decides. -/
def LineEnd.ofText (t : Text) : LineEnd :=
  if t.pieces.dropLast.any (·.getLast? == some '\r') then .returnFeed else .feed

/-! ## Documents -/

/-- A text in lines, and the line end it is written with. -/
structure Document where
  lines : Lines
  lineEnd : LineEnd
  lines_ne_nil : lines ≠ []
  feed_not_mem : ∀ l ∈ lines, '\n' ∉ l
deriving DecidableEq, Repr

/-- No piece holds a line feed. -/
theorem Text.feed_not_mem_of_mem_pieces {t l : Text} (h : l ∈ t.pieces) : '\n' ∉ l := by
  induction t generalizing l with
  | nil =>
    simp only [Text.pieces, List.splitOn, List.splitOnP_nil, List.mem_singleton] at h
    simp [h]
  | cons c t ih =>
    simp only [Text.pieces, List.splitOn, List.splitOnP_cons_eq_if_modifyHead] at h ih
    split at h
    · rcases List.mem_cons.mp h with rfl | h
      · simp
      · exact ih h
    · next hc =>
      obtain ⟨p, ps, hp⟩ := List.exists_cons_of_ne_nil (List.splitOnP_ne_nil (· == '\n') t)
      rw [hp, List.modifyHead_cons] at h
      rw [hp] at ih
      rcases List.mem_cons.mp h with rfl | h
      · have := ih (List.mem_cons_self ..)
        simp only [beq_iff_eq] at hc
        simp [this, Ne.symm hc]
      · exact ih (List.mem_cons_of_mem _ h)

/-- Dropping the final carriage return adds no characters. -/
theorem Text.mem_of_mem_dropReturn {t : Text} {c : Char} (h : c ∈ t.dropReturn) : c ∈ t := by
  unfold Text.dropReturn at h
  split at h
  · exact (List.dropLast_sublist t).subset h
  · exact h

namespace Document

/-- Cut a text at its line feeds and drop the carriage return at the end of each line. -/
def read (lineEnd : LineEnd) (t : Text) : Document where
  lines := t.pieces.map Text.dropReturn
  lineEnd := lineEnd
  lines_ne_nil := by
    simp [Text.pieces, List.splitOn, List.splitOnP_ne_nil]
  feed_not_mem := by
    intro l hl hc
    obtain ⟨p, hp, rfl⟩ := List.mem_map.mp hl
    exact Text.feed_not_mem_of_mem_pieces hp (Text.mem_of_mem_dropReturn hc)

/-- Read a text with the line end that it shows. -/
def ofText (t : Text) : Document :=
  read (.ofText t) t

/-- The lines of the document, joined by its line end. -/
def text (d : Document) : Text :=
  List.intercalate d.lineEnd.chars d.lines

end Document

end Outliner
