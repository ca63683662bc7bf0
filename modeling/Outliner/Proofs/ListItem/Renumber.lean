import Outliner.Proofs.ListItem.Numbers
import Outliner.Proofs.Plan.Handlers

/-!
# Outliner — runs that are numbered again

Numbering a run writes over the digits of its markers, which may make them longer or shorter. What a
line means to a run is a matter of its indentation and of its being an item, and neither is touched.
So the same run is found in the new lines, each member has its own place for a number, and numbering
the run again finds nothing to do.

* `ListItem.Renumbering` — the members of a run have their places as numbers.

Main results:

* `Renumbering.run_eq`, `Renumbering.parse?_eq_some` — the run after it, and its members.
* `Renumbering.renumber_eq_nil` — from no member there is anything left to number.
* `renumber_counts` — numbering a run, and numbering it again.
-/

namespace Outliner

namespace ListItem

variable {config : Config} {lines lines' : Lines} {line : Text} {item : ListItem}
  {i m n number : Nat}

/-! ## Numbers that are there -/

/-- A line that has been given a number needs no other edit to have it. -/
theorem numberColumns?_renumbered (hNumber : number < UInt64.size) (line : Text) :
    numberColumns? number (renumbered number line) = none := by
  cases hp : parse? line with
  | none =>
    rw [renumbered_of_parse?_eq_none hp, numberColumns?, hp]
    rfl
  | some item =>
    rw [numberColumns?, parse?_renumbered hp hNumber]
    -- Only an ordered item has a number, and that is the new one.
    cases hBullet : item.bullet with
    | dash | plus | star => rfl
    | ordered old delimiter =>
      show (if (UInt64.ofNat number).toNat = number then none else _) = none
      rw [if_pos (UInt64.toNat_ofNat_of_lt' hNumber)]

/-! ## The lines after it -/

/-- The members of the run of the item on line `n` have their places in it as numbers, from one on.
All else is as it was. -/
structure Renumbering (config : Config) (lines lines' : Lines) (n : Nat) (item : ListItem) :
    Prop where
  size : lines.length < UInt64.size
  parse?_eq : parse? (lines.lineAt n) = some item
  lineAt : ∀ m, lines'.lineAt m =
    numberedAt ((run config lines n item.indent).zipIdx 1) m (lines.lineAt m)

theorem pairwise_zipIdx_run (config : Config) (lines : Lines) (n indent : Nat) :
    (((run config lines n indent).zipIdx 1).map Prod.fst).Pairwise (· < ·) := by
  rw [List.zipIdx_map_fst]
  exact pairwise_run config lines n indent

theorem mk_mem_zipIdx_run {indent : Nat} (h : (run config lines n indent)[i]? = some m) :
    (m, i + 1) ∈ (run config lines n indent).zipIdx 1 :=
  List.mk_mem_zipIdx_iff_le_and_getElem?_sub.mpr ⟨Nat.le_add_left 1 i, by simpa using h⟩

section

variable (h : Renumbering config lines lines' n item)

include h

theorem Renumbering.kinds_eq_member : kinds item.indent lines n = .member :=
  runLine_eq_member_iff.mpr ⟨item, h.parse?_eq, rfl⟩

/-- A run has no more members than there are lines, so every number fits in a word. -/
theorem Renumbering.number_lt : ∀ m number,
    (m, number) ∈ (run config lines n item.indent).zipIdx 1 → number < UInt64.size := by
  intro m number hMem
  have hPlace := List.snd_lt_add_of_mem_zipIdx hMem
  have hLength : (run config lines n item.indent).length ≤ lines.length :=
    length_run_le h.kinds_eq_member
  have hSize := h.size
  omega

theorem Renumbering.kinds_eq (m : Nat) :
    kinds item.indent lines' m = kinds item.indent lines m := by
  unfold kinds
  rw [h.lineAt, runLine_numberedAt h.number_lt (pairwise_zipIdx_run ..)]

/-- **The run is found again.** -/
theorem Renumbering.run_eq :
    run config lines' n item.indent = run config lines n item.indent :=
  run_congr h.kinds_eq h.kinds_eq_member

theorem Renumbering.lineAt_of_mem
    (hMem : (m, number) ∈ (run config lines n item.indent).zipIdx 1) :
    lines'.lineAt m = renumbered number (lines.lineAt m) := by
  rw [h.lineAt]
  exact numberedAt_of_eq_some ((numberFor?_eq_some_iff (pairwise_zipIdx_run ..)).mpr hMem) _

theorem Renumbering.lineAt_of_notMem (hm : m ∉ run config lines n item.indent) :
    lines'.lineAt m = lines.lineAt m := by
  rw [h.lineAt]
  apply numberedAt_of_eq_none
  rwa [numberFor?_eq_none_iff, List.zipIdx_map_fst]

/-- **A member** is read as it was, with its place as its number if it has one. -/
theorem Renumbering.parse?_eq_some (hi : (run config lines n item.indent)[i]? = some m) :
    ∃ old, parse? (lines.lineAt m) = some old ∧ old.indent = item.indent ∧
      parse? (lines'.lineAt m) =
        some { old with bullet := old.bullet.withNumber (UInt64.ofNat (i + 1)) } := by
  obtain ⟨old, hOld, hIndent⟩ := runLine_eq_member_iff.mp
    ((mem_run_iff h.kinds_eq_member).mp (List.mem_of_getElem? hi)).1
  have hMem := mk_mem_zipIdx_run hi
  refine ⟨old, hOld, hIndent, ?_⟩
  rw [h.lineAt_of_mem hMem]
  exact parse?_renumbered hOld (h.number_lt m _ hMem)

/-- **Nothing is left to number,** from whatever member one looks. -/
theorem Renumbering.renumber_eq_nil (hm : m ∈ run config lines n item.indent) :
    renumber config lines' m = [] := by
  obtain ⟨i, hi⟩ := List.mem_iff_getElem?.mp hm
  obtain ⟨old, -, hIndent, hNew⟩ := h.parse?_eq_some hi
  unfold renumber
  rw [hNew]
  dsimp only
  split
  · -- The member has the run that was numbered, and in it every line has its number.
    have hMember' : kinds item.indent lines' n = .member := by
      rw [h.kinds_eq]
      exact h.kinds_eq_member
    rw [hIndent, run_eq_of_mem hMember' (by rwa [h.run_eq]), h.run_eq]
    apply List.filterMap_eq_nil_iff.mpr
    rintro ⟨k, number⟩ hMem
    show numberEdit? lines' k number = none
    rw [numberEdit?_eq_map, h.lineAt_of_mem hMem,
      numberColumns?_renumbered (h.number_lt k number hMem)]
    rfl
  · rfl

end

/-! ## Numbering a run -/

/-- Numbering a run gives its members their places as numbers. -/
theorem renumber_eq_numberAll (config : Config) (hParse : parse? (lines.lineAt n) = some item)
    (hOrdered : item.bullet.isOrdered = true) :
    renumber config lines n = numberAll lines ((run config lines n item.indent).zipIdx 1) := by
  unfold renumber
  rw [hParse]
  exact if_pos hOrdered

/-- **Numbering a run.** A document without carriage returns takes the edits that number the run of
an ordered item. The run is the same as before. Each of its members is read as before, but for the
number of an ordered one, which is its place in the run; only the digits of its line have changed.
No other line has. After that there is nothing to number from any member. The document has fewer
lines than there are words of 64 bits to number them, as every document in memory has. -/
theorem renumber_counts (config : Config) {d : Document} {n : Nat} {item : ListItem}
    (hReturn : ∀ l ∈ d.lines, '\r' ∉ l) (hSize : d.lines.length < UInt64.size)
    (hParse : parse? (d.lines.lineAt n) = some item) (hOrdered : item.bullet.isOrdered = true) :
    ∃ d', d.edit? (renumber config d.lines n) = some d' ∧ d'.lineEnd = d.lineEnd ∧
      d'.lines.length = d.lines.length ∧
      run config d'.lines n item.indent = run config d.lines n item.indent ∧
      (∀ i m, (run config d'.lines n item.indent)[i]? = some m →
        SameButNumber (d.lines.lineAt m) (d'.lines.lineAt m) ∧
        ∃ old new, parse? (d.lines.lineAt m) = some old ∧ parse? (d'.lines.lineAt m) = some new ∧
          new = { old with bullet := old.bullet.withNumber (UInt64.ofNat (i + 1)) } ∧
          ∀ number, new.bullet.number? = some number → number.toNat = i + 1) ∧
      (∀ m, m ∉ run config d.lines n item.indent → d'.lines.lineAt m = d.lines.lineAt m) ∧
      ∀ m ∈ run config d'.lines n item.indent, renumber config d'.lines m = [] := by
  have hEdits := renumber_eq_numberAll config hParse hOrdered
  obtain ⟨d', hEdit, hRewrite, hEnd⟩ := (inPlace_renumber config d.lines n).exists_edit?_eq
    (Document.unbroken_lines hReturn)
    (Plan.unbroken_of_numbers fun e he => exists_of_mem_renumber he)
  have h : Renumbering config d.lines d'.lines n item := by
    refine ⟨hSize, hParse, fun m => ?_⟩
    rw [hRewrite, hEdits]
    exact lineAt_rewrite_numberAll (pairwise_zipIdx_run ..) m
  refine ⟨d', hEdit, hEnd, by rw [hRewrite, Batch.length_rewrite], h.run_eq, ?_,
    fun m hm => h.lineAt_of_notMem hm, fun m hm => h.renumber_eq_nil (h.run_eq ▸ hm)⟩
  intro i m hi
  rw [h.run_eq] at hi
  obtain ⟨old, hOld, -, hNew⟩ := h.parse?_eq_some hi
  refine ⟨?_, old, _, hOld, hNew, rfl, fun word hWord => ?_⟩
  · rw [h.lineAt]
    exact sameButNumber_numberedAt h.number_lt (pairwise_zipIdx_run ..) m _
  · have hMem := mk_mem_zipIdx_run hi
    rw [h.lineAt] at hNew
    exact toNat_number_numberedAt hMem (h.number_lt m _ hMem) (pairwise_zipIdx_run ..) hNew hWord

/-- A run with leading zeros, a dash, a nested line and the largest number of all. -/
theorem renumber_counts_mixed :
    let d := Document.ofText "007. a\n   deep\n- x\n18446744073709551615) c".toList
    run {} d.lines 3 0 = [0, 2, 3] ∧
      ∃ d', d.edit? (renumber {} d.lines 3) = some d' ∧ run {} d'.lines 3 0 = [0, 2, 3] ∧
        d'.lines.lineAt 1 = "   deep".toList ∧ ∀ m ∈ [0, 2, 3], renumber {} d'.lines m = [] := by
  intro d
  have hParse : parse? (d.lines.lineAt 3) =
      some ⟨0, .ordered 18446744073709551615 ')', none, "c".toList⟩ := by decide
  have hRun : run {} d.lines 3 0 = [0, 2, 3] := by decide
  obtain ⟨d', hEdit, -, -, hSame, -, hOther, hDone⟩ :=
    renumber_counts {} (by decide) (by decide) hParse rfl
  rw [hSame, hRun] at hDone
  exact ⟨hRun, d', hEdit, hSame.trans hRun, hOther 1 (by rw [hRun]; decide), hDone⟩

end ListItem

end Outliner
