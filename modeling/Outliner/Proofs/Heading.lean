import Outliner.Proofs.Keyword
import Outliner.Proofs.Plan.Shape

/-!
# Outliner — what commands do to headings

Facts about subtrees and the edits of headings, as far as every command on a heading relies on them:
extents stay inside the buffer, and edits stay on the lines and columns that the headings have.

* `subtreeEnd_lt`, `lastContent_lt` — extents end on lines that exist.
* `inPlace_shiftEdits`, `unbroken_shiftEdits` — moving a subtree by one level.
* `onLine_cycleEdit?`, `unbroken_cycleEdit?` — cycling a keyword.
-/

namespace Outliner

theorem Text.indent_le_length (t : Text) : t.indent ≤ t.length :=
  (List.takeWhile_sublist _).length_le

/-- The spaces and tabs after a column are part of the text. -/
theorem Text.add_indent_drop_le {t : Text} {n : Nat} (h : n ≤ t.length) :
    n + indent (t.drop n) ≤ t.length := by
  have := indent_le_length (t.drop n)
  rw [List.length_drop] at this
  omega

namespace Heading

variable {config : Config} {keywords : Keywords} {lines : Lines} {n m : Nat} {line : Text}

/-! ## Levels and extents -/

theorem levelOf_le_length (line : Text) : levelOf line ≤ line.length := by
  rw [levelOf]
  split
  · exact Nat.zero_le _
  · split
    · exact (List.takeWhile_sublist _).length_le
    · exact Nat.zero_le _

theorem parse?_eq_none (keywords : Keywords) (h : levelOf line = 0) :
    parse? keywords line = none := by
  rw [parse?_eq_ite, if_pos h]

theorem levelOf_pos_of_parse? {h : Heading} (hp : parse? keywords line = some h) :
    0 < levelOf line :=
  (isSome_parse?_iff keywords line).mp (by rw [hp]; rfl)

theorem exists_parse?_eq (keywords : Keywords) (h : 0 < levelOf line) :
    ∃ heading, parse? keywords line = some heading :=
  Option.isSome_iff_exists.mp ((isSome_parse?_iff keywords line).mpr h)

/-- A line that does not open with a star is no heading. -/
theorem levelOf_cons_of_ne {c : Char} (h : c ≠ '*') (t : Text) : levelOf (c :: t) = 0 := by
  simp [levelOf, h]

/-- A line that is indented is no heading. -/
theorem levelOf_eq_zero_of_indent_pos (h : 0 < line.indent) : levelOf line = 0 := by
  cases line with
  | nil => rfl
  | cons c t =>
    have hc : Text.isSpaceOrTab c = true := by
      by_contra hc
      simp [Text.indent, hc] at h
    apply levelOf_cons_of_ne
    rintro rfl
    contradiction

theorem lt_length_of_levelOf_pos (h : 0 < levelOf (lines.lineAt n)) : n < lines.length := by
  apply Lines.lt_length_of_lineAt_ne_nil
  intro hNil
  rw [hNil] at h
  exact absurd h (by decide)

theorem lt_length_of_parse? {h : Heading} (hp : parse? keywords (lines.lineAt n) = some h) :
    n < lines.length :=
  lt_length_of_levelOf_pos (levelOf_pos_of_parse? hp)

/-- A subtree ends on a line that exists. -/
theorem subtreeEnd_lt (hn : n < lines.length) : subtreeEnd lines n < lines.length := by
  rw [subtreeEnd]
  split
  · exact hn
  · split
    · next next hNext =>
      rw [subtreeExit] at hNext
      split at hNext
      · next i hi =>
        have hi := (List.findIdx?_eq_some_iff_findIdx_eq.mp hi).1
        rw [List.length_drop] at hi
        injection hNext with hNext
        omega
      · contradiction
    · rw [Lines.last]
      omega

/-- The last line with content exists. -/
theorem lastContent_lt (hn : n < lines.length) (last : Nat) :
    lastContent lines n last < lines.length := by
  have hLength : (((lines.take (last + 1)).drop n).reverse.dropWhile Text.isBlankLine).length ≤
      lines.length - n := by
    refine Nat.le_trans (List.dropWhile_sublist _).length_le ?_
    rw [List.length_reverse, List.length_drop, List.length_take]
    omega
  rw [lastContent]
  omega

/-! ## Moving a subtree -/

/-- Moving a subtree replaces the stars of its headings. -/
theorem inPlace_shiftEdits (config : Config) (lines : Lines) (n : Nat) (shift : Shift) :
    Batch.InPlace lines (shiftEdits config lines n shift) := by
  rw [shiftEdits]
  split
  · exact ⟨by simp, .nil⟩
  · apply Batch.inPlace_filterMap Prod.snd
    · exact (Lines.pairwise_onward lines n).sublist (List.take_sublist _ _)
    · rintro ⟨l, m⟩ hx e he
      obtain ⟨-, hm, rfl⟩ := Lines.mk_mem_onward_iff.mp (List.mem_of_mem_take hx)
      simp only [Option.ite_none_left_eq_some, Option.some.injEq] at he
      obtain ⟨-, rfl⟩ := he
      exact ⟨Edit.onLine_mk hm (Nat.zero_le _) (levelOf_le_length _) _, rfl⟩

/-- Moving a subtree writes nothing but stars. -/
theorem unbroken_shiftEdits (config : Config) (lines : Lines) (n : Nat) (shift : Shift) :
    Batch.Unbroken (shiftEdits config lines n shift) := by
  rw [shiftEdits]
  split
  · simp [Batch.Unbroken]
  · intro e he
    obtain ⟨⟨l, m⟩, -, he⟩ := List.mem_filterMap.mp he
    simp only [Option.ite_none_left_eq_some, Option.some.injEq] at he
    obtain ⟨-, rfl⟩ := he
    exact Text.unbroken_replicate (by decide) (by decide) _

/-! ## Cycling a keyword -/

theorem slot_le_length {h : Heading} (hp : parse? keywords line = some h) :
    h.level + Text.indent (line.drop h.level) ≤ line.length := by
  rw [level_of_parse? hp]
  exact Text.add_indent_drop_le (levelOf_le_length line)

/-- The keyword that is read opens the text after the stars and the gap that follows them. -/
theorem keyword_length_le {h : Heading} {word : Text} (hp : parse? keywords line = some h)
    (hWord : h.keyword = some word) :
    h.level + Text.indent (line.drop h.level) + word.length ≤ line.length := by
  have hBody := slot_le_length hp
  simp only [parse?_eq_ite, Option.ite_none_left_eq_some, Option.some.injEq] at hp
  obtain ⟨-, rfl⟩ := hp
  simp only [ofBody, takeKeyword] at hWord hBody ⊢
  split at hWord
  · injection hWord with hWord
    have hLength : word.length ≤ (Text.dropIndent (line.drop (levelOf line))).length := by
      rw [← hWord]
      exact (List.takeWhile_sublist _).length_le
    rw [Text.dropIndent_eq_drop, List.length_drop, List.length_drop] at hLength
    omega
  · contradiction

/-- Cycling a keyword stays on the line of the heading. -/
theorem onLine_cycleEdit? {e : Edit} (h : cycleEdit? keywords lines n = some e) :
    e.OnLine lines := by
  obtain ⟨heading, hp, h⟩ := Option.bind_eq_some_iff.mp h
  have hn := lt_length_of_parse? hp
  have hSlot := slot_le_length hp
  -- A word is put in, is replaced by the next one, or is taken out with the gap behind it.
  split at h
  · contradiction
  · injection h with h
    subst h
    exact Edit.onLine_mk hn (Nat.le_refl _) hSlot _
  · next current word hCurrent _ =>
    injection h with h
    subst h
    exact Edit.onLine_mk hn (Nat.le_add_right _ _) (keyword_length_le hp hCurrent) _
  · next current hCurrent _ =>
    injection h with h
    subst h
    have hGap := Text.add_indent_drop_le (keyword_length_le hp hCurrent)
    exact Edit.onLine_mk hn (Nat.le_trans (Nat.le_add_right _ _) (Nat.le_add_right _ _)) hGap _

/-- Cycling a keyword writes one of the keywords, or nothing. -/
theorem unbroken_cycleEdit? {e : Edit} (hKeywords : ∀ word ∈ keywords.all, Text.Unbroken word)
    (h : cycleEdit? keywords lines n = some e) : e.text.Unbroken := by
  have hNext : ∀ current word, keywords.next? current = some word → Text.Unbroken word :=
    fun _ word hWord => hKeywords word (Keywords.mem_all_of_next? hWord)
  obtain ⟨heading, hp, h⟩ := Option.bind_eq_some_iff.mp h
  -- The next keyword is put in or replaces the old one; past the last one the keyword goes.
  split at h
  · contradiction
  · next word _ hWord =>
    injection h with h
    subst h
    simp [Edit.insert, hNext _ _ hWord]
  · next current word _ hWord =>
    injection h with h
    subst h
    exact hNext _ _ hWord
  · injection h with h
    subst h
    exact Text.unbroken_nil

/-! ## New headings -/

/-- The stars of a new heading and the space after them are part of its line. -/
theorem level_lt_length_headingLine (level : Nat) (title : Text) :
    level + 1 ≤ (Plan.headingLine level title).length := by
  simp only [Plan.headingLine, render, plain, List.length_append, List.length_replicate,
    List.length_cons]
  omega

/-- A new heading with an unbroken title is unbroken. -/
theorem unbroken_headingLine (level : Nat) {title : Text} (h : title.Unbroken) :
    (Plan.headingLine level title).Unbroken := by
  have hParts : Text.Unbroken (List.intercalate [' '] (plain level title).parts) := by
    by_cases hTitle : title = []
    · simp [plain, parts, hTitle]
    · simp [plain, parts, hTitle, h]
  rw [Plan.headingLine, render, Text.unbroken_append_iff, Text.unbroken_cons_iff]
  exact ⟨Text.unbroken_replicate (by decide) (by decide) _, by decide, hParts⟩

end Heading

end Outliner
