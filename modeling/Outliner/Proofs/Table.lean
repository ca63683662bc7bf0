import Outliner.Proofs.Batch.Unbroken
import Outliner.Table

/-!
# Outliner — columns of table rows

Wherever a command takes the cursor in a row of a table, it stays in the text of the row.

* `contentAfter_le` — the content of a cell starts in the row, or at its end.
* `nextCell?_le`, `previousCell?_le`, `firstCell?_le`, `lastCell?_le` — so do the moves along a row.
* `unbroken_blankLike` — an empty row is unbroken.
-/

namespace Outliner.Table

variable {line : Text} {column start : Nat}

theorem lt_length_of_mem_pipes (h : column ∈ pipes line) : column < line.length := by
  obtain ⟨⟨c, k⟩, hMem, rfl⟩ := List.mem_map.mp h
  have := List.snd_lt_of_mem_zipIdx (List.mem_filter.mp hMem).1
  simpa using this

/-- The content of a cell starts in the row, or at its end. -/
theorem contentAfter_le (h : column < line.length) : contentAfter line column ≤ line.length := by
  have hGap : ((line.drop (column + 1)).takeWhile (· == ' ')).length ≤
      line.length - (column + 1) := by
    rw [← List.length_drop]
    exact (List.takeWhile_sublist _).length_le
  rw [contentAfter]
  split <;> omega

theorem contentOf?_le {i : Nat} (h : contentOf? line i = some start) : start ≤ line.length := by
  obtain ⟨pipe, hPipe, rfl⟩ := Option.map_eq_some_iff.mp h
  exact contentAfter_le (lt_length_of_mem_pipes (List.mem_of_getElem? hPipe))

theorem nextCell?_le (h : nextCell? line column = some start) : start ≤ line.length := by
  rw [nextCell?] at h
  split at h
  · exact contentOf?_le h
  · contradiction

theorem previousCell?_le (h : previousCell? line column = some start) : start ≤ line.length := by
  rw [previousCell?] at h
  split at h
  · exact contentOf?_le h
  · contradiction

theorem firstCell?_le (h : firstCell? line = some start) : start ≤ line.length :=
  nextCell?_le h

theorem lastCell?_le (h : lastCell? line = some start) : start ≤ line.length := by
  rw [lastCell?] at h
  split at h
  · exact contentOf?_le h
  · contradiction

/-- An empty row holds spaces and pipes. -/
theorem unbroken_blankLike (line : Text) : (blankLike line).Unbroken := by
  have hChar : ∀ c ∈ blankLike line, c = ' ' ∨ c = '|' := by
    intro c hc
    rcases List.mem_append.mp hc with hc | hc
    · exact Or.inl (List.eq_of_mem_replicate hc)
    · obtain ⟨c', -, rfl⟩ := List.mem_map.mp hc
      split
      · exact Or.inr rfl
      · exact Or.inl rfl
  constructor
  · intro h
    rcases hChar _ h with h | h <;> exact absurd h (by decide)
  · intro h
    rcases hChar _ h with h | h <;> exact absurd h (by decide)

end Outliner.Table
