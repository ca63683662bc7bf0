import Outliner.Context
import Outliner.Proofs.ListItem.Layout

/-!
# Outliner — what a line opens with

Headings, fences, list items, table rows and drawer markers are told apart by the first character of
a line that is not blank. Two of them that open with different characters are never the same line,
in whatever order a search tests for them.

* `Text.opening?` — the first character that is not blank.

Main results:

* `Heading.opening?_of_levelOf_pos`, `Block.opening?_of_parseBegin?`, `Block.opening?_of_isEnd`,
  `Table.opening?_of_isRow`, `Drawer.opening?_of_sameLetters` — a heading opens with a star, a fence
  with a hash, a row with a pipe, a drawer marker with a colon.
* `ListItem.exists_opening?_of_parse?` — an item opens with a marker.
* `ListItem.parseBegin?_eq_none_of_parse?` — so no item is a fence.
* `Block.isEnd_eq_false_of_parseBegin?` — no opening fence is a closing one.
* `Table.levelOf_eq_zero_of_isRow`, `Table.parseBegin?_eq_none_of_isRow`,
  `Table.parse?_eq_none_of_isRow` — and no row is a heading, a fence or an item.
-/

namespace Outliner

variable {line : Text}

/-! ## The first character that is not blank -/

namespace Text

/-- The first character that is not blank. -/
def opening? (t : Text) : Option Char :=
  t.trimStart.head?

theorem opening?_cons {c : Char} (h : isBlank c = false) (t : Text) :
    opening? (c :: t) = some c := by
  unfold opening? trimStart
  rw [List.dropWhile_cons_of_neg (by simp [h]), List.head?_cons]

theorem opening?_append {lead : Text} (hLead : ∀ c ∈ lead, isBlank c = true) (t : Text) :
    opening? (lead ++ t) = opening? t := by
  unfold opening? trimStart
  rw [List.dropWhile_append_of_pos hLead]

/-- When what follows the indentation is not blank, no other white space is in front of it. -/
theorem trimStart_eq_dropIndent {t : Text} {c : Char} (h : t.dropIndent.head? = some c)
    (hc : isBlank c = false) : t.trimStart = t.dropIndent := by
  obtain ⟨rest, hDrop⟩ := List.head?_eq_some_iff.mp h
  have hLead : ∀ c ∈ t.takeWhile isSpaceOrTab, isBlank c = true := fun c hc =>
    isBlank_of_isSpaceOrTab (List.mem_takeWhile_imp hc)
  calc t.trimStart
      = trimStart (t.takeWhile isSpaceOrTab ++ t.dropIndent) := by
        rw [dropIndent, List.takeWhile_append_dropWhile]
    _ = trimStart t.dropIndent := by rw [trimStart, List.dropWhile_append_of_pos hLead, trimStart]
    _ = t.dropIndent := by rw [hDrop, trimStart, List.dropWhile_cons_of_neg (by simp [hc])]

theorem opening?_dropIndent (t : Text) : opening? t.dropIndent = opening? t := by
  have hLead : ∀ c ∈ t.takeWhile isSpaceOrTab, isBlank c = true := fun c hc =>
    isBlank_of_isSpaceOrTab (List.mem_takeWhile_imp hc)
  calc opening? t.dropIndent
      = opening? (t.takeWhile isSpaceOrTab ++ t.dropIndent) := (opening?_append hLead _).symm
    _ = opening? t := by rw [dropIndent, List.takeWhile_append_dropWhile]

end Text

/-! ## What opens each kind of line -/

theorem Heading.opening?_of_levelOf_pos (h : 0 < levelOf line) : line.opening? = some '*' := by
  cases line with
  | nil => exact absurd h (by decide)
  | cons c t =>
    have hc : c = '*' := by
      by_contra hc
      rw [levelOf_cons_of_ne hc] at h
      exact absurd h (Nat.lt_irrefl 0)
    rw [hc]
    exact Text.opening?_cons (by decide) t

namespace Block

/-- A text with a mark at its start opens with it in upper case, too. -/
theorem prefix_of_dropMark? {mark t : Text} (h : (dropMark? mark t).isSome = true) :
    mark.asciiUpper <+: t.asciiUpper := by
  rw [dropMark?] at h
  split at h
  · next hSame =>
    rw [← Text.sameLetters_iff.mp hSame]
    exact (List.take_prefix _ t).map Char.toUpper
  · contradiction

/-- A hash in front of a text in upper case is there in the text. -/
theorem head?_eq_hash {mark t : Text} (h : Text.asciiUpper ('#' :: mark) <+: t.asciiUpper) :
    t.head? = some '#' := by
  cases t with
  | nil => exact absurd (List.prefix_nil.mp h) (by simp [Text.asciiUpper])
  | cons c t =>
    -- A hash is no letter, so nothing else is a hash in upper case.
    have hUpper : '#' = c.toUpper := (List.cons_prefix_cons.mp h).1
    rw [Text.eq_of_toUpper_eq hUpper.symm (by decide), List.head?_cons]

theorem prefix_of_parseBegin? (h : (parseBegin? line).isSome = true) :
    Text.asciiUpper "#+BEGIN_".toList <+: line.dropIndent.asciiUpper := by
  apply prefix_of_dropMark?
  by_contra hMark
  rw [parseBegin?, Option.not_isSome_iff_eq_none.mp hMark] at h
  contradiction

theorem prefix_of_isEnd (h : isEnd line = true) :
    Text.asciiUpper "#+END_".toList <+: line.trimStart.asciiUpper :=
  prefix_of_dropMark? h

theorem opening?_of_parseBegin? (h : (parseBegin? line).isSome = true) :
    line.opening? = some '#' := by
  rw [← Text.opening?_dropIndent]
  obtain ⟨t, hDrop⟩ := List.head?_eq_some_iff.mp (head?_eq_hash (prefix_of_parseBegin? h))
  rw [hDrop]
  exact Text.opening?_cons (by decide) t

theorem opening?_of_isEnd (h : isEnd line = true) : line.opening? = some '#' :=
  head?_eq_hash (prefix_of_isEnd h)

end Block

/-- Behind white space at the ends of its line, a drawer marker opens with a colon. -/
theorem Drawer.opening?_of_sameLetters {word : Text}
    (h : line.trim.sameLetters (':' :: word) = true) : line.opening? = some ':' := by
  rw [Text.opening?, ← Text.head?_trim]
  have hUpper := congrArg List.head? (Text.sameLetters_iff.mp h)
  cases hTrim : line.trim with
  | nil =>
    rw [hTrim] at hUpper
    contradiction
  | cons c t =>
    rw [hTrim] at hUpper
    have hUpper : c.toUpper = ':' := Option.some.inj hUpper
    rw [Text.eq_of_toUpper_eq hUpper (by decide), List.head?_cons]

theorem Drawer.opening?_of_isStart (h : isStart line = true) : line.opening? = some ':' :=
  opening?_of_sameLetters h

theorem Drawer.opening?_of_isEnd (h : isEnd line = true) : line.opening? = some ':' :=
  opening?_of_sameLetters h

theorem ListItem.exists_opening?_of_parse? {item : ListItem} (h : parse? line = some item) :
    ∃ c, line.opening? = some c ∧ Bullet.opens c = true := by
  obtain ⟨lead, marker, after, hLayout⟩ := exists_layout_of_parse? h
  obtain ⟨c, t, rfl, hc, -⟩ := hLayout.exists_head
  have hLead : ∀ c ∈ lead, Text.isBlank c = true := fun c hc =>
    Text.isBlank_of_isSpaceOrTab (hLayout.lead_blank c hc)
  refine ⟨c, ?_, hc⟩
  rw [hLayout.eq, Text.opening?_append hLead]
  exact Text.opening?_cons (Bullet.isBlank_of_opens hc) _

theorem Table.opening?_of_isRow (h : isRow line = true) : line.opening? = some '|' := by
  simp only [isRow, Bool.and_eq_true, beq_iff_eq] at h
  rw [Text.opening?, ← Text.head?_trim]
  exact h.1.2

/-! ## Lines that are not two things at once -/

theorem ListItem.parseBegin?_eq_none_of_parse? {item : ListItem} (h : parse? line = some item) :
    Block.parseBegin? line = none := by
  obtain ⟨c, hOpening, hc⟩ := exists_opening?_of_parse? h
  by_contra hFence
  rw [Block.opening?_of_parseBegin? (Option.isSome_iff_ne_none.mpr hFence)] at hOpening
  obtain rfl := Option.some.inj hOpening
  exact absurd hc (by decide)

/-- No fence both opens a block and closes one. Their marks are not the same, in whatever case. -/
theorem Block.isEnd_eq_false_of_parseBegin? (h : (parseBegin? line).isSome = true) :
    isEnd line = false := by
  by_contra hEnd
  have hBegin := prefix_of_parseBegin? h
  have hEnd := prefix_of_isEnd (by simpa using hEnd)
  rw [Text.trimStart_eq_dropIndent (head?_eq_hash hBegin) (by decide)] at hEnd
  exact absurd (List.prefix_of_prefix_length_le hEnd hBegin (by decide)) (by decide)

namespace Table

theorem levelOf_eq_zero_of_isRow (h : isRow line = true) : Heading.levelOf line = 0 := by
  by_contra hLevel
  have hOpening := Heading.opening?_of_levelOf_pos (Nat.pos_of_ne_zero hLevel)
  rw [opening?_of_isRow h] at hOpening
  exact absurd hOpening (by decide)

theorem parseBegin?_eq_none_of_isRow (h : isRow line = true) : Block.parseBegin? line = none := by
  by_contra hFence
  have hOpening := Block.opening?_of_parseBegin? (Option.isSome_iff_ne_none.mpr hFence)
  rw [opening?_of_isRow h] at hOpening
  exact absurd hOpening (by decide)

theorem parse?_eq_none_of_isRow (h : isRow line = true) : ListItem.parse? line = none := by
  by_contra hItem
  obtain ⟨item, hItem⟩ := Option.ne_none_iff_exists'.mp hItem
  obtain ⟨c, hOpening, hc⟩ := ListItem.exists_opening?_of_parse? hItem
  rw [opening?_of_isRow h] at hOpening
  obtain rfl := Option.some.inj hOpening
  exact absurd hc (by decide)

end Table

end Outliner
