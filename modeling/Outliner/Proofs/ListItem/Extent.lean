import Outliner.Proofs.Ownership

/-!
# Outliner — extents that nest

How far an item reaches is found by a search of its own for every item, and each search stops at
another indentation. Still no two items overlap in part. An item inside another one is indented
further, so what is beneath the inner item is beneath the outer one too: the search for the end of
the outer item goes past every line that the inner one owns.

Whether an item owns anything below its own line is asked by one more search, which looks at the
first line with text and no further. That line alone decides where the other search stops first.

Main results:

* `reaches_iff_find?` — a descent gets started exactly when the first line with text is beneath the
  item.
* `extentEnd_le_extentEnd` — an item that starts inside another one ends inside it.
* `hasChildren_iff` — an item has children exactly when it ends below its own line.
* `extents_laminar` — both, of the items of a buffer.
-/

namespace Outliner.ListItem

variable {lines : Lines} {indent n j : Nat}

/-! ## The first line with text -/

/-- A descent that need not lead further than to where it starts asks for one line: the first one with
text has to be beneath the item. -/
theorem reaches_iff_find? (hn : n ≤ j) :
    Reaches lines indent j n ↔
      ∃ line, (lines.drop j).find? (!·.isBlankLine) = some line ∧
        Heading.levelOf line = 0 ∧ indent < line.indent := by
  -- On the number of lines from `j` on, as the search for the end of an item goes.
  induction hRest : lines.length - j generalizing j with
  | zero =>
    have hEnd : lines.drop j = [] := List.drop_eq_nil_of_le (by omega)
    constructor
    · rintro ⟨k, hjk, -, hk, -⟩
      omega
    · rintro ⟨line, hFound, -⟩
      rw [hEnd] at hFound
      contradiction
  | succ rest ih =>
    have hj : j < lines.length := by omega
    have hDrop : lines.drop j = lines.lineAt j :: lines.drop (j + 1) := by
      rw [List.drop_eq_getElem_cons hj, Lines.lineAt_of_lt hj]
    cases hBlank : lines.isBlankAt j with
    | true =>
      -- Both pass over a blank line.
      have hLine : (lines.lineAt j).isBlankLine = true := hBlank
      rw [reaches_of_isBlankAt hBlank, ih (by omega) (by omega), hDrop,
        List.find?_cons_of_neg (by simp [hLine])]
    | false =>
      have hLine : (lines.lineAt j).isBlankLine = false := hBlank
      rw [hDrop, List.find?_cons_of_pos (by simp [hLine])]
      constructor
      · intro hReaches
        by_contra hNone
        exact not_reaches hBlank (fun hBeneath => hNone ⟨_, rfl, hBeneath⟩) hReaches
      · rintro ⟨line, hFound, hBeneath⟩
        obtain rfl := Option.some.inj hFound
        exact (reaches_of_beneath hj hBlank hBeneath).mpr (Or.inl hn)

/-- **Children.** The search for the first line below an item agrees with the search for its end. -/
theorem hasChildren_iff (lines : Lines) (n indent : Nat) :
    hasChildren lines n indent = true ↔ n < extentEnd lines n indent := by
  have hFirst : hasChildren lines n indent = true ↔
      ∃ line, (lines.drop (n + 1)).find? (!·.isBlankLine) = some line ∧
        Heading.levelOf line = 0 ∧ indent < line.indent := by
    unfold hasChildren
    cases (lines.drop (n + 1)).find? (!·.isBlankLine) <;> simp
  calc hasChildren lines n indent = true
      ↔ Reaches lines indent (n + 1) (n + 1) :=
        hFirst.trans (reaches_iff_find? (Nat.le_refl _)).symm
    _ ↔ n + 1 ≤ extentEnd lines n indent := (le_extentEnd_iff (Nat.lt_succ_self n)).symm
    _ ↔ n < extentEnd lines n indent := Iff.rfl

/-! ## Items inside items -/

/-- What is beneath an item is beneath every item that is indented less. -/
theorem Beneath.mono {indent' : Nat} (h : Beneath lines indent' n) (hIndent : indent ≤ indent') :
    Beneath lines indent n :=
  ⟨h.1, Nat.lt_of_le_of_lt hIndent h.2⟩

/-- **Extents nest.** An item that starts on a line of another one ends on a line of that one. -/
theorem extentEnd_le_extentEnd {a b indentA indentB : Nat} (hab : a < b)
    (hInside : b ≤ extentEnd lines a indentA) (hText : lines.isBlankAt b = false)
    (hIndent : (lines.lineAt b).indent ≤ indentB) :
    extentEnd lines b indentB ≤ extentEnd lines a indentA := by
  rcases extentEnd_eq_or_lt lines b indentB with hOwn | ⟨hLow, hHigh⟩
  · rw [hOwn]
    exact hInside
  · -- The inner item is beneath the outer one, and so is everything beneath the inner item.
    have hDeeper : indentA ≤ indentB := by
      have := (beneath_of_le_extentEnd hab hInside hText).2
      omega
    rw [le_extentEnd_iff (Nat.lt_trans hab hLow)]
    refine ⟨_, by omega, Nat.le_refl _, hHigh, isBlankAt_extentEnd hLow, fun m ham hme hm => ?_⟩
    rcases Nat.lt_or_ge b m with hbm | hmb
    · exact (beneath_of_le_extentEnd hbm hme hm).mono hDeeper
    · exact beneath_of_le_extentEnd ham (Nat.le_trans hmb hInside) hm

/-- **Items are laminar.** Of two items, the lower one starts below the end of the upper one, or it
ends where the upper one does or before. And an item has children, as the first line below it tells,
exactly when it ends below its own line. -/
theorem extents_laminar (lines : Lines) :
    (∀ a b itemA itemB, a < b → parse? (lines.lineAt a) = some itemA →
      parse? (lines.lineAt b) = some itemB →
        extentEnd lines a itemA.indent < b ∨
          extentEnd lines b itemB.indent ≤ extentEnd lines a itemA.indent) ∧
      ∀ a item, parse? (lines.lineAt a) = some item →
        (hasChildren lines a item.indent = true ↔ a < extentEnd lines a item.indent) := by
  refine ⟨fun a b itemA itemB hab _ hParse => ?_, fun a item _ => hasChildren_iff lines a item.indent⟩
  obtain ⟨_, _, _, hLayout⟩ := exists_layout_of_parse? hParse
  have hText : lines.isBlankAt b = false := isBlankLine_eq_false_of_parse? hParse
  rcases Nat.lt_or_ge (extentEnd lines a itemA.indent) b with hApart | hInside
  · exact Or.inl hApart
  · exact Or.inr (extentEnd_le_extentEnd hab hInside hText (Nat.le_of_eq hLayout.indent_eq))

/-- An item with another one in it, which ends at text that only the outer one owns, and a third one
below both. -/
theorem extents_laminar_inner_ends_first :
    let lines : Lines := ["- a".toList, "  - b".toList, "    deep".toList, [], "  c".toList,
      "- d".toList]
    extentEnd lines 0 0 = 4 ∧ extentEnd lines 1 2 = 2 ∧
      (4 < 1 ∨ 2 ≤ 4) ∧ (2 < 5 ∨ extentEnd lines 5 0 ≤ 2) ∧
      hasChildren lines 1 2 = true ∧ hasChildren lines 5 0 = false := by
  intro lines
  have hFirst : parse? (lines.lineAt 0) = some ⟨0, .dash, none, "a".toList⟩ := by decide
  have hInner : parse? (lines.lineAt 1) = some ⟨2, .dash, none, "b".toList⟩ := by decide
  have hLast : parse? (lines.lineAt 5) = some ⟨0, .dash, none, "d".toList⟩ := by decide
  have hEnd : extentEnd lines 0 0 = 4 := by decide
  have hInnerEnd : extentEnd lines 1 2 = 2 := by decide
  obtain ⟨hNested, hChildren⟩ := extents_laminar lines
  refine ⟨hEnd, hInnerEnd, ?_, ?_, (hChildren 1 _ hInner).mpr (by decide), ?_⟩
  · rw [← hEnd, ← hInnerEnd]
    exact hNested 0 1 _ _ (by decide) hFirst hInner
  · rw [← hInnerEnd]
    exact hNested 1 5 _ _ (by decide) hInner hLast
  · rw [← Bool.not_eq_true, hChildren 5 _ hLast]
    decide

end Outliner.ListItem
