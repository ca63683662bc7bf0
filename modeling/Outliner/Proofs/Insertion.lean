import Outliner.Proofs.Execution
import Outliner.Proofs.ListItem.Numbers
import Outliner.Proofs.Ownership

/-!
# Outliner — new items

A new item is planned on the lines as they are: its place, its number, and the numbers around it.
Only then do the lines move apart. What the plan meant as one run has to be one run afterwards.

* `ListItem.siblingNumbers`, `ListItem.Follows` — the numbers that a new item brings about, and its
  line.
* `ListItem.Insertion` — what a new item does to the lines.

Main results:

* `insertion_beside` — a new item right below or above an ordered item is in its run, and the run
  counts from one.
* `insertion_after_content_iff` — when a new item below all that is nested in an item is in its run.
-/

namespace Outliner

namespace ListItem

variable {config : Config} {lines lines' : Lines} {item : ListItem} {command : Command}
  {p : Position} {m n q : Nat} {old : Nat → Text}

/-! ## The line of the new item -/

/-- The numbers that the members of a run have around a new item, which follows the item on line `n`
and is put before line `q`. A run without numbers has none. -/
def siblingNumbers (config : Config) (lines : Lines) (n : Nat) (item : ListItem) (q : Nat) :
    List (Nat × Nat) :=
  if item.bullet.isOrdered then numbersAround q (run config lines n item.indent) else []

theorem pairwise_siblingNumbers (config : Config) (lines : Lines) (n : Nat) (item : ListItem)
    (q : Nat) : ((siblingNumbers config lines n item q).map Prod.fst).Pairwise (· < ·) := by
  rw [siblingNumbers]
  split
  · exact pairwise_numbersAround (pairwise_run config lines n item.indent) q
  · exact .nil

/-- The new item is an item like the one that it follows, and has its number in the run. -/
def Follows (config : Config) (lines : Lines) (n : Nat) (item : ListItem) (q : Nat)
    (line : Text) : Prop :=
  ∃ new, parse? line = some new ∧ new.indent = item.indent ∧
    new.bullet.isOrdered = item.bullet.isOrdered ∧
    ∀ number, new.bullet.number? = some number →
      number = UInt64.ofNat (((run config lines n item.indent).filter (· < q)).length + 1)

/-- **The line of a new item** and the edits beside it. -/
theorem exists_siblingLine_eq (config : Config) (hParse : parse? (lines.lineAt n) = some item)
    (q : Nat) (content : Text) :
    ∃ line, Plan.siblingLine config lines n item q content =
        (numberAll lines (siblingNumbers config lines n item q), line) ∧
      Follows config lines n item q line := by
  have hStandard := (standard_of_parse? hParse).next
  obtain ⟨lead, marker, after, hLayout⟩ := exists_layout_of_parse? hParse
  rw [Plan.siblingLine, renumberAround?_eq hParse, siblingNumbers]
  by_cases hOrdered : item.bullet.isOrdered = true
  · rw [if_pos hOrdered, if_pos hOrdered]
    refine ⟨_, rfl, ?_⟩
    rw [Follows]
    generalize ((run config lines n item.indent).filter (· < q)).length + 1 = number
    have hNumber : (item.sibling.bullet.withNumber (UInt64.ofNat number)).number? =
        some (UInt64.ofNat number) := by
      cases hBullet : item.bullet <;> simp_all [sibling, Bullet.next, Bullet.withNumber,
        Bullet.number?, Bullet.isOrdered]
    have hHeading : ¬(item.sibling.indent = 0 ∧
        item.sibling.bullet.withNumber (UInt64.ofNat number) = .star) := by
      rintro ⟨-, hStar⟩
      rw [hStar] at hNumber
      contradiction
    obtain ⟨new, hNew, hIndent, hBullet⟩ := exists_parse?_render_append
      { item.sibling with bullet := item.sibling.bullet.withNumber (UInt64.ofNat number) }
      (hStandard.withNumber _) hHeading content
    have hKind : new.bullet.isOrdered = item.bullet.isOrdered := by
      rw [hBullet, Bullet.isOrdered_withNumber, sibling, Bullet.isOrdered_next]
    refine ⟨new, hNew, hIndent, hKind, fun word hWord => ?_⟩
    rw [hBullet, hNumber] at hWord
    exact (Option.some.inj hWord).symm
  · rw [if_neg hOrdered, if_neg hOrdered]
    refine ⟨_, rfl, ?_⟩
    -- A marker without a number is taken over as it is.
    have hSame : item.sibling.bullet = item.bullet := by
      cases hBullet : item.bullet <;> simp_all [sibling, Bullet.next, Bullet.isOrdered]
    obtain ⟨new, hNew, hIndent, hBullet⟩ := exists_parse?_render_append item.sibling
      hStandard (fun h => hLayout.not_heading ⟨h.1, hSame ▸ h.2⟩) content
    refine ⟨new, hNew, hIndent, by rw [hBullet, hSame], fun word hWord => ?_⟩
    rw [hBullet, hSame] at hWord
    cases hBullet : item.bullet <;> simp_all [Bullet.number?, Bullet.isOrdered]

/-! ## The lines around it -/

/-- A new item has been made from the item on line `n`, and put before line `q`. The other lines have
their numbers, and are otherwise `old`: as they were, but for the end of one of them. -/
structure Insertion (config : Config) (lines lines' : Lines) (n : Nat) (item : ListItem) (q : Nat)
    (old : Nat → Text) : Prop where
  parse?_eq : parse? (lines.lineAt n) = some item
  size : lines.length + 1 < UInt64.size
  length : lines'.length = lines.length + 1
  follows : Follows config lines n item q (lines'.lineAt q)
  past : ∀ m, lines'.lineAt (Lines.past q m) =
    numberedAt (siblingNumbers config lines n item q) m (old m)
  kind : ∀ m, runLine item.indent (old m) = kinds item.indent lines m

section

variable (h : Insertion config lines lines' n item q old)

include h

theorem Insertion.kinds_eq_member : kinds item.indent lines n = .member :=
  runLine_eq_member_iff.mpr ⟨item, h.parse?_eq, rfl⟩

theorem Insertion.number_lt : ∀ m number,
    (m, number) ∈ siblingNumbers config lines n item q → number < UInt64.size := by
  intro m number hMem
  rw [siblingNumbers] at hMem
  split at hMem
  · have hLow := le_of_mem_numbersAround hMem
    have hHigh : (run config lines n item.indent).length ≤ lines.length :=
      length_run_le h.kinds_eq_member
    exact Nat.lt_of_le_of_lt (Nat.le_trans hLow (Nat.succ_le_succ hHigh)) h.size
  · contradiction

theorem Insertion.kinds_past (m : Nat) :
    kinds item.indent lines' (Lines.past q m) = kinds item.indent lines m := by
  rw [kinds, h.past, runLine_numberedAt h.number_lt (pairwise_siblingNumbers ..), h.kind]

theorem Insertion.kinds_new : kinds item.indent lines' q = .member := by
  obtain ⟨new, hNew, hIndent, -, -⟩ := h.follows
  exact runLine_eq_member_iff.mpr ⟨new, hNew, hIndent⟩

/-- What is no member has no number, and stays. -/
theorem Insertion.lineAt_past_of_notMem (hm : m ∉ run config lines n item.indent) :
    lines'.lineAt (Lines.past q m) = old m := by
  rw [h.past]
  apply numberedAt_of_eq_none
  rw [numberFor?_eq_none_iff, siblingNumbers]
  split
  · exact fun hMem => hm (mem_map_fst_numbersAround_iff.mp hMem)
  · simp

theorem Insertion.sameButNumber (m : Nat) :
    SameButNumber (old m) (lines'.lineAt (Lines.past q m)) := by
  rw [h.past]
  exact sameButNumber_numberedAt h.number_lt (pairwise_siblingNumbers ..) m (old m)

/-- **The numbers of the run.** In a run with numbers the members, the new one among them, have the
numbers from one on. -/
theorem Insertion.toNat_number (hOrdered : item.bullet.isOrdered = true) {i : Nat}
    (hi : (withMember q (run config lines n item.indent))[i]? = some m) {member : ListItem}
    {number : UInt64} (hMember : parse? (lines'.lineAt m) = some member)
    (hNumber : member.bullet.number? = some number) : number.toNat = i + 1 := by
  have hNumbers : siblingNumbers config lines n item q =
      numbersAround q (run config lines n item.indent) := by
    rw [siblingNumbers, if_pos hOrdered]
  rcases getElem?_withMember hi with ⟨rfl, rfl⟩ | ⟨k, rfl, hMem⟩
  · -- The new item has the number that is left out.
    obtain ⟨new, hNew, -, -, hWord⟩ := h.follows
    rw [hNew] at hMember
    injection hMember with hMember
    subst hMember
    have hFront : ((run config lines n item.indent).filter (· < m)).length ≤ lines.length :=
      Nat.le_trans (List.length_filter_le _ _) (length_run_le h.kinds_eq_member)
    have hSize := h.size
    rw [hWord number hNumber, UInt64.toNat_ofNat_of_lt' (by omega)]
  · -- An old member has the number that it was given.
    rw [← hNumbers] at hMem
    rw [h.past] at hMember
    exact toNat_number_numberedAt hMem (h.number_lt k _ hMem) (pairwise_siblingNumbers ..) hMember
      hNumber

end

/-! ## Running the command -/

/-- The lines after a new line has been put in beside edits that number the others. -/
theorem insertion_of_lines_eq {edits : List Edit} {line : Text}
    (hParse : parse? (lines.lineAt n) = some item) (hSize : lines.length + 1 < UInt64.size)
    (hq : q ≤ lines.length)
    (hResult : lines' =
      (Batch.rewrite edits lines).take q ++ [line] ++ (Batch.rewrite edits lines).drop q)
    (hFollows : Follows config lines n item q line)
    (hEdits : ∀ m, (Batch.rewrite edits lines).lineAt m =
      numberedAt (siblingNumbers config lines n item q) m (old m))
    (hKind : ∀ m, runLine item.indent (old m) = kinds item.indent lines m) :
    Insertion config lines lines' n item q old where
  parse?_eq := hParse
  size := hSize
  length := by
    simp only [hResult, List.length_append, List.length_take, List.length_drop,
      List.length_singleton, Batch.length_rewrite]
    omega
  follows := by
    rw [hResult, Lines.lineAt_putIn (by rwa [Batch.length_rewrite])]
    exact hFollows
  past m := by
    rw [hResult, Lines.lineAt_putIn_past (by rwa [Batch.length_rewrite]), hEdits]
  kind := hKind

/-- **An empty item put in.** -/
theorem exists_insertItem {d : Document} (hp : d.lines.Inside p) (hLines : d.lines.Unbroken)
    (hSize : d.lines.length + 1 < UInt64.size) (hParse : parse? (d.lines.lineAt n) = some item)
    (hq : q ≤ d.lines.length)
    (hPlan : Plan.ofCommand config d.lines p command = Plan.insertItem config d.lines n item q) :
    ∃ d' column, execute config (.editable d) p command =
        .ok (.cursor ⟨q, column⟩, .editable d') ∧
      Insertion config d.lines d'.lines n item q d.lines.lineAt := by
  obtain ⟨line, hSibling, hFollows⟩ := exists_siblingLine_eq config hParse q []
  obtain ⟨hInPlace, hNumbers, hLine⟩ := Plan.siblingLine_spec hParse hSibling
  rw [Plan.insertItem, hSibling] at hPlan
  obtain ⟨d', hExecute, hResult⟩ := exists_execute_eq hp hLines hPlan
    (Plan.beside_numberEdits hInPlace hNumbers) (Plan.unbroken_of_numbers hNumbers)
    (hLine Text.unbroken_nil)
  exact ⟨d', line.length, hExecute, insertion_of_lines_eq hParse hSize hq hResult hFollows
    (lineAt_rewrite_numberAll (pairwise_siblingNumbers ..)) fun _ => rfl⟩

/-- **An item split in its content.** The text right of the cursor goes into the new item below, and
the line of the cursor is cut. -/
theorem exists_splitItem {d : Document} {column : Nat} (hp : d.lines.Inside p)
    (hLines : d.lines.Unbroken) (hSize : d.lines.length + 1 < UInt64.size)
    (hParse : parse? (d.lines.lineAt p.line) = some item)
    (hContent : contentColumn? (d.lines.lineAt p.line) = some column) (hTail : column < p.column)
    (hPlan : Plan.ofCommand config d.lines p command =
      Plan.splitItem config d.lines p p.line item) :
    ∃ d' column' c, execute config (.editable d) p command =
        .ok (.cursor ⟨p.line + 1, column'⟩, .editable d') ∧
      Insertion config d.lines d'.lines p.line item (p.line + 1) fun m =>
        if m = p.line then (d.lines.lineAt p.line).take c else d.lines.lineAt m := by
  have hn := lt_length_of_parse? hParse
  obtain ⟨c, hCut, hc, hLow⟩ := Plan.exists_cutTail_eq (d.lines.lineAt p.line) p column
  have hColumn : column ≤ c := by omega
  have hc' : c ≤ (d.lines.lineAt p.line).length := Nat.le_trans hc hp.column_le
  obtain ⟨line, hSibling, hFollows⟩ := exists_siblingLine_eq config hParse (p.line + 1)
    (Plan.tailAfter (d.lines.lineAt p.line) p)
  obtain ⟨hInPlace, hNumbers, hLine⟩ := Plan.siblingLine_spec hParse hSibling
  have hDigits : ∀ item', parse? (d.lines.lineAt p.line) = some item' →
      item'.indent + (((d.lines.lineAt p.line).drop item'.indent).takeWhile Char.isDigit).length ≤
        min column p.column := by
    intro item' hParse'
    have := (digits_le_contentColumn hParse' hContent).1
    omega
  have hBeside := Plan.beside_cutTail hp hInPlace hNumbers hDigits
  have hTexts : Batch.Unbroken (numberAll d.lines (siblingNumbers config d.lines p.line item
      (p.line + 1)) ++ [Plan.cutTail (d.lines.lineAt p.line) p column]) := by
    intro e he
    rcases List.mem_append.mp he with he | he
    · exact Plan.unbroken_of_numbers hNumbers e he
    · rw [List.mem_singleton.mp he]
      exact Text.unbroken_nil
  simp only [Plan.splitItem, hContent, hSibling, ne_eq, not_true_eq_false, if_false,
    Option.getD_some, not_false_eq_true, true_and, Nat.not_le.mpr hTail] at hPlan
  rw [List.append_cons] at hPlan
  obtain ⟨d', hExecute, hResult⟩ := exists_execute_eq hp hLines hPlan hBeside hTexts
    (hLine (Plan.unbroken_tailAfter (hLines.lineAt _) p))
  rw [hCut] at hResult
  refine ⟨d', _, c, hExecute, insertion_of_lines_eq hParse hSize hn hResult hFollows
    (lineAt_rewrite_numberAll_cut (pairwise_siblingNumbers ..) hParse hContent hColumn hc') ?_⟩
  -- The cut is behind the marker, so the line is still a member.
  intro m
  split
  · next hm =>
    obtain ⟨⟨item', hParse', hIndent, -⟩, -⟩ := exists_parse?_take hParse hContent hColumn
    rw [hm, kinds, runLine_of_parse? hParse, runLine_of_parse? hParse', hIndent]
  · rfl

/-- **A new item from the line of an item** goes above it or below it. -/
theorem exists_insertion_beside (config : Config) {d : Document} (hp : d.lines.Inside p)
    (hLines : d.lines.Unbroken) (hSize : d.lines.length + 1 < UInt64.size)
    (hParse : parse? (d.lines.lineAt p.line) = some item)
    (hCommand : command = .insertSibling false ∨ command = .split) :
    ∃ d' q column old, execute config (.editable d) p command =
        .ok (.cursor ⟨q, column⟩, .editable d') ∧
      Insertion config d.lines d'.lines p.line item q old ∧ (q = p.line ∨ q = p.line + 1) ∧
      ∀ m, m ≠ p.line ∨ command = .insertSibling false → old m = d.lines.lineAt m := by
  have hn := lt_length_of_parse? hParse
  have hPlan := Context.ofCommand_of_parse? config hp hParse command
  rcases hCommand with rfl | rfl
  · simp only [Plan.onItem, ne_eq, not_true_eq_false, or_self, if_false, Bool.false_eq_true] at hPlan
    obtain ⟨d', column, hExecute, h⟩ := exists_insertItem hp hLines hSize hParse hn hPlan
    exact ⟨d', _, column, _, hExecute, h, Or.inr rfl, fun _ _ => rfl⟩
  · obtain ⟨content, hContent⟩ := exists_contentColumn hParse
    rw [Plan.onItem] at hPlan
    -- In the content the line is cut; left of it an empty item is put in above.
    rcases Nat.lt_or_ge content p.column with hTail | hFront
    · obtain ⟨d', column, c, hExecute, h⟩ :=
        exists_splitItem hp hLines hSize hParse hContent hTail hPlan
      refine ⟨d', _, column, _, hExecute, h, Or.inr rfl, fun m hm => ?_⟩
      exact if_neg (hm.resolve_right (by simp))
    · simp only [Plan.splitItem, hContent, ne_eq, not_true_eq_false, if_false, Option.getD_some,
        not_false_eq_true, true_and, hFront, if_true] at hPlan
      obtain ⟨d', column, hExecute, h⟩ :=
        exists_insertItem hp hLines hSize hParse (Nat.le_of_lt hn) hPlan
      exact ⟨d', _, column, _, hExecute, h, Or.inl rfl, fun _ _ => rfl⟩

/-- **A new item beside an ordered one.** From the line of an ordered item, without regard to what is
nested in it, or by a split, a new item is put in above or below. Its run is the old run and itself,
the numbers in it count from one, the lines outside it stay, and its old members keep everything but
their numbers, but for a line that is split. The document has no carriage returns, and fewer lines
than there are words of 64 bits to number them, as every document in memory has. -/
theorem insertion_beside (config : Config) {d : Document} {p : Position} {item : ListItem}
    {command : Command} (hReturn : ∀ l ∈ d.lines, '\r' ∉ l)
    (hSize : d.lines.length + 1 < UInt64.size) (hp : d.lines.Inside p)
    (hParse : parse? (d.lines.lineAt p.line) = some item)
    (hOrdered : item.bullet.isOrdered = true)
    (hCommand : command = .insertSibling false ∨ command = .split) :
    ∃ d' q column, execute config (.editable d) p command =
        .ok (.cursor ⟨q, column⟩, .editable d') ∧
      (q = p.line ∨ q = p.line + 1) ∧ d'.lines.length = d.lines.length + 1 ∧
      (∃ new, parse? (d'.lines.lineAt q) = some new ∧ new.indent = item.indent ∧
        new.bullet.isOrdered = true) ∧
      run config d'.lines q item.indent =
        withMember q (run config d.lines p.line item.indent) ∧
      (∀ i m, (run config d'.lines q item.indent)[i]? = some m →
        ∀ member number, parse? (d'.lines.lineAt m) = some member →
          member.bullet.number? = some number → number.toNat = i + 1) ∧
      (∀ m, m ∉ run config d.lines p.line item.indent →
        d'.lines.lineAt (Lines.past q m) = d.lines.lineAt m) ∧
      ∀ m ∈ run config d.lines p.line item.indent, m ≠ p.line ∨ command = .insertSibling false →
        SameButNumber (d.lines.lineAt m) (d'.lines.lineAt (Lines.past q m)) := by
  obtain ⟨d', q, column, old, hExecute, h, hPlace, hOld⟩ := exists_insertion_beside config
    hp (Document.unbroken_lines hReturn) hSize hParse hCommand
  have hMember := h.kinds_eq_member
  -- The new item is next to the item, so nothing can come between the two.
  have hRun : run config d'.lines q item.indent =
      withMember q (run config d.lines p.line item.indent) := by
    refine run_of_putIn h.kinds_past h.kinds_new hMember (hPlace.imp_right ?_)
    rintro rfl
    exact ⟨Nat.lt_succ_self _, clear_of_le (Nat.le_refl _), hMember ▸ solid_member⟩
  refine ⟨d', q, column, hExecute, hPlace, h.length, ?_, hRun, ?_, ?_, ?_⟩
  · obtain ⟨new, hNew, hIndent, hSame, -⟩ := h.follows
    exact ⟨new, hNew, hIndent, hSame.trans hOrdered⟩
  · intro i m hi member number hItem hNumber
    exact h.toNat_number hOrdered (hRun ▸ hi) hItem hNumber
  · intro m hm
    -- The line of the cursor is in the run.
    have hne : m ≠ p.line := by
      rintro rfl
      exact hm (mem_run_self hMember)
    rw [h.lineAt_past_of_notMem hm, hOld m (Or.inl hne)]
  · intro m _ hKept
    rw [← hOld m hKept]
    exact h.sameButNumber m

/-- An item split between two words, in front of a nested line, a dash and a number out of turn. -/
theorem insertion_beside_split :
    ∃ d' q column, execute {} (.editable (.ofText "01. a b\n   deep\n- x\n7) c".toList)) ⟨0, 5⟩
        .split = .ok (.cursor ⟨q, column⟩, .editable d') ∧
      run {} d'.lines q 0 = withMember q [0, 2, 3] := by
  have hParse : parse? "01. a b".toList = some ⟨0, .ordered 1 '.', none, "a b".toList⟩ := by decide
  have hCommand : Command.split = .insertSibling false ∨ Command.split = .split := Or.inr rfl
  have hOld : run {} ["01. a b".toList, "   deep".toList, "- x".toList, "7) c".toList] 0 0 =
      [0, 2, 3] := by decide
  obtain ⟨d', q, column, hExecute, -, -, -, hRun, -⟩ := insertion_beside {}
    (d := .ofText "01. a b\n   deep\n- x\n7) c".toList) (p := ⟨0, 5⟩) (by decide) (by decide)
    ⟨by decide, by decide⟩ hParse rfl hCommand
  exact ⟨d', q, column, hExecute, hOld ▸ hRun⟩

/-! ## Below the content of an item -/

theorem kinds_eq_blank_iff {indent : Nat} :
    kinds indent lines m = .blank ↔ lines.isBlankAt m = true := by
  rw [kinds, runLine, Lines.isBlankAt]
  split
  · next hBlank => simp [hBlank]
  · next hBlank =>
    refine iff_of_false ?_ hBlank
    split
    · simp
    · split
      · split
        · simp
        · split <;> simp
      · split <;> simp

theorem kinds_of_beneath {indent : Nat} (hText : lines.isBlankAt m = false)
    (hBeneath : Beneath lines indent m) : kinds indent lines m = .nested := by
  have hBlank : (lines.lineAt m).isBlankLine = false := hText
  rw [kinds, runLine, hBlank, hBeneath.1]
  cases hp : parse? (lines.lineAt m) with
  | none => simp [hBeneath.2]
  | some found =>
    obtain ⟨lead, marker, after, h⟩ := exists_layout_of_parse? hp
    have hIndent := hBeneath.2
    rw [h.indent_eq] at hIndent
    simp [hIndent, Nat.ne_of_gt hIndent]

/-- What an item owns below its own line: blank lines and nested ones, with a nested one last. -/
theorem kinds_of_le_extentEnd {indent : Nat} (hnm : n < m) (hm : m ≤ extentEnd lines n indent) :
    (kinds indent lines m = .blank ∨ kinds indent lines m = .nested) ∧
      kinds indent lines (extentEnd lines n indent) = .nested := by
  constructor
  · cases hBlank : lines.isBlankAt m with
    | true => exact Or.inl (kinds_eq_blank_iff.mpr hBlank)
    | false => exact Or.inr (kinds_of_beneath hBlank (beneath_of_le_extentEnd hnm hm hBlank))
  · have hLow := Nat.lt_of_lt_of_le hnm hm
    have hText := isBlankAt_extentEnd hLow
    exact kinds_of_beneath hText (beneath_of_le_extentEnd hLow (Nat.le_refl _) hText)

/-- From an item to its end only blank lines can be in the way. -/
theorem clear_extent_iff {limit indent : Nat} :
    Clear limit (kinds indent lines) (n + 1) (extentEnd lines n indent + 1) ↔
      ∀ k, n < k → k + max limit 1 ≤ extentEnd lines n indent + 1 →
        ∃ m, k ≤ m ∧ m < k + max limit 1 ∧ lines.isBlankAt m = false := by
  have hText : ∀ m, kinds indent lines m ≠ .blank ↔ lines.isBlankAt m = false := by
    intro m
    rw [Ne, kinds_eq_blank_iff, Bool.not_eq_true]
  constructor
  · intro h k hk hk'
    obtain ⟨m, hm, hm', hBlank⟩ := h.gapless k hk hk'
    exact ⟨m, hm, hm', (hText m).mp hBlank⟩
  · refine fun h => ⟨fun m hm hm' exit hStop => ?_, fun k hk hk' => ?_⟩
    · rcases (kinds_of_le_extentEnd hm (Nat.le_of_lt_succ hm')).1 with hKind | hKind <;>
        rw [hStop] at hKind <;> contradiction
    · obtain ⟨m, hm, hm', hBlank⟩ := h k hk hk'
      exact ⟨m, hm, hm', (hText m).mpr hBlank⟩

/-- **The run of the item** that a new one further down is made from: it counts from one, with the
new item in it or not. -/
theorem Insertion.toNat_number_of_lt (h : Insertion config lines lines' n item q old)
    (hOrdered : item.bullet.isOrdered = true) (hnq : n < q)
    (hEdge : (kinds item.indent lines (q - 1)).Solid) {i : Nat}
    (hi : (run config lines' n item.indent)[i]? = some m) {member : ListItem} {number : UInt64}
    (hItem : parse? (lines'.lineAt m) = some member)
    (hNumber : member.bullet.number? = some number) : number.toNat = i + 1 := by
  have hMember := h.kinds_eq_member
  refine h.toNat_number hOrdered ?_ hItem hNumber
  by_cases hClear : Clear config.blankRunLimit.toNat (kinds item.indent lines) (n + 1) q
  · -- The run of the item is that of the new one.
    have hMember' : kinds item.indent lines' n = .member := by
      rw [← hMember, ← h.kinds_past n, Lines.past_of_lt hnq]
    have hJoins : q ∈ run config lines' n item.indent :=
      (mem_run_of_putIn_iff h.kinds_past h.kinds_new hMember hnq).mpr hClear
    rw [← run_of_putIn h.kinds_past h.kinds_new hMember (Or.inr ⟨hnq, hClear, hEdge⟩),
      run_eq_of_mem hMember' hJoins]
    exact hi
  · -- The old run is all in front of the new item, and keeps its places.
    obtain ⟨hRun, hFront⟩ := run_of_putIn_apart h.kinds_past hMember hnq hClear
    have hAll : (run config lines n item.indent).filter (· < q) = run config lines n item.indent :=
      List.filter_eq_self.mpr fun m hm => decide_eq_true (hFront m hm)
    rw [hRun] at hi
    rw [withMember, hAll, List.getElem?_append_left (List.getElem?_eq_some_iff.mp hi).1]
    exact hi

/-- **A new item below the content.** From an item, or from text nested in it, a new item is put in
below all that is nested in the item. The run of the item has the new one exactly when no row of
blank lines in between is as long as the limit; a limit of zero counts as one. In either case an
ordered run counts from one. The document has no carriage returns, and fewer lines than there are
words of 64 bits. -/
theorem insertion_after_content_iff (config : Config) {d : Document} {p : Position} {n : Nat}
    {item : ListItem} (hReturn : ∀ l ∈ d.lines, '\r' ∉ l)
    (hSize : d.lines.length + 1 < UInt64.size) (hp : d.lines.Inside p)
    (hItem : (Context.classify config d.lines p).item? = some (n, item)) :
    ∃ d' q column, execute config (.editable d) p (.insertSibling true) =
        .ok (.cursor ⟨q, column⟩, .editable d') ∧
      q = extentEnd d.lines n item.indent + 1 ∧
      (∃ new, parse? (d'.lines.lineAt q) = some new ∧ new.indent = item.indent ∧
        new.bullet.isOrdered = item.bullet.isOrdered) ∧
      (q ∈ run config d'.lines n item.indent ↔
        ∀ k, n < k → k + max config.blankRunLimit.toNat 1 ≤ q →
          ∃ m, k ≤ m ∧ m < k + max config.blankRunLimit.toNat 1 ∧ d.lines.isBlankAt m = false) ∧
      (item.bullet.isOrdered = true → ∀ i m, (run config d'.lines n item.indent)[i]? = some m →
        ∀ member number, parse? (d'.lines.lineAt m) = some member →
          member.bullet.number? = some number → number.toNat = i + 1) := by
  have hHolds : Plan.Holds config d.lines p n item := Context.classify_item? hItem
  have hParse := hHolds.parse?_eq
  have hn := lt_length_of_parse? hParse
  have hPlan : Plan.ofCommand config d.lines p (.insertSibling true) =
      Plan.insertItem config d.lines n item (extentEnd d.lines n item.indent + 1) := by
    rw [Context.ofCommand_of_item hp hItem, Plan.onItem]
    simp only [true_or, if_true]
  obtain ⟨d', column, hExecute, h⟩ := exists_insertItem hp (Document.unbroken_lines hReturn) hSize
    hParse (extentEnd_lt hn item.indent) hPlan
  have hMember := h.kinds_eq_member
  have hLow : n ≤ extentEnd d.lines n item.indent := by
    rcases extentEnd_eq_or_lt d.lines n item.indent with hEq | hLt
    · exact Nat.le_of_eq hEq.symm
    · exact Nat.le_of_lt hLt.1
  have hnq : n < extentEnd d.lines n item.indent + 1 := Nat.lt_succ_of_le hLow
  -- The line in front of the new item is the item itself, or nested in it.
  have hEdge : (kinds item.indent d.lines (extentEnd d.lines n item.indent)).Solid := by
    rcases Nat.eq_or_lt_of_le hLow with hEq | hLt
    · rw [← hEq, hMember]
      exact solid_member
    · rw [(kinds_of_le_extentEnd hLt (Nat.le_refl _)).2]
      exact solid_nested
  refine ⟨d', _, column, hExecute, rfl, ?_, ?_, ?_⟩
  · obtain ⟨new, hNew, hIndent, hOrdered, -⟩ := h.follows
    exact ⟨new, hNew, hIndent, hOrdered⟩
  · rw [mem_run_of_putIn_iff h.kinds_past h.kinds_new hMember hnq, clear_extent_iff]
  · intro hOrdered i m hi member number hRead hNumber
    exact h.toNat_number_of_lt hOrdered hnq hEdge hi hRead hNumber

/-- A new item behind one blank line and a nested one. -/
theorem insertion_after_content_iff_nested :
    ∃ d' q column, execute {} (.editable (.ofText "1. a\n\n   nested\n2. b".toList)) ⟨0, 0⟩
        (.insertSibling true) = .ok (.cursor ⟨q, column⟩, .editable d') ∧
      q = 3 ∧
      (q ∈ run {} d'.lines 0 0 ↔ ∀ k, 0 < k → k + 2 ≤ q → ∃ m, k ≤ m ∧ m < k + 2 ∧
        Lines.isBlankAt ["1. a".toList, [], "   nested".toList, "2. b".toList] m = false) := by
  have hItem : (Context.classify {} ["1. a".toList, [], "   nested".toList, "2. b".toList]
      ⟨0, 0⟩).item? = some (0, ⟨0, .ordered 1 '.', none, "a".toList⟩) := by decide
  obtain ⟨d', q, column, hExecute, hq, -, hIff, -⟩ := insertion_after_content_iff {}
    (d := .ofText "1. a\n\n   nested\n2. b".toList) (p := ⟨0, 0⟩) (by decide) (by decide)
    ⟨by decide, by decide⟩ hItem
  exact ⟨d', q, column, hExecute, hq, hIff⟩

/-- Behind two blank lines the new item is in the run of the item below, and both have number two. -/
theorem new_item_apart :
    (execute {} (.editable (.ofText "1. a\n\n\n   nested\n2. b".toList)) ⟨0, 0⟩
        (.insertSibling true)).toOption.map (fun (outcome, host) => (outcome, host.lines)) =
      some (.cursor ⟨4, 3⟩,
        ["1. a".toList, [], [], "   nested".toList, "2. ".toList, "2. b".toList]) ∧
    run {} ["1. a".toList, [], [], "   nested".toList, "2. ".toList, "2. b".toList] 0 0 = [0] := by
  decide

end ListItem

end Outliner
