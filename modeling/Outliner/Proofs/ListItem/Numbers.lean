import Outliner.Proofs.ListItem.Run
import Outliner.Proofs.Plan.Shape

/-!
# Outliner — the numbers of a run

A batch that numbers lines writes each number over the digits of its own line. The line that is cut
in the same batch is numbered in front of the cut, so it makes no difference which comes first.

* `ListItem.numberAll` — the edits that give lines their numbers.
* `ListItem.numberFor?`, `ListItem.numberedAt` — the number that is meant for a line, and the line
  with it.
* `ListItem.numbersAround` — the numbers of a run that a new item is put into.

Main results:

* `lineAt_rewrite_numberAll`, `lineAt_rewrite_numberAll_cut` — every line after a batch of numbers.
* `getElem?_withMember` — the members of a run with a new one have the numbers from one on.
-/

namespace Outliner

namespace ListItem

variable {config : Config} {lines : Lines} {line : Text} {item : ListItem}
  {numbers : List (Nat × Nat)} {members : List Nat} {i k m n q number indent : Nat}

/-! ## Numbers for lines -/

/-- The edits that give each of the lines its number. -/
def numberAll (lines : Lines) (numbers : List (Nat × Nat)) : List Edit :=
  numbers.filterMap fun (m, number) => numberEdit? lines m number

/-- The number that is meant for a line. -/
def numberFor? (numbers : List (Nat × Nat)) (m : Nat) : Option Nat :=
  (numbers.find? (·.1 == m)).map Prod.snd

/-- What line `m` is, if it is this line, with the number that is meant for it. -/
def numberedAt (numbers : List (Nat × Nat)) (m : Nat) (line : Text) : Text :=
  match numberFor? numbers m with
  | some number => renumbered number line
  | none => line

theorem numberEdit?_eq_map (lines : Lines) (n number : Nat) :
    numberEdit? lines n number = (numberColumns? number (lines.lineAt n)).map
      fun (start, stop) => ⟨.onLine n start stop, Text.ofNat number⟩ := by
  rw [numberEdit?, numberColumns?]
  cases parse? (lines.lineAt n) with
  | none => rfl
  | some item =>
    simp only [Option.bind_eq_bind, Option.bind_some]
    cases item.bullet.number? with
    | none => rfl
    | some old =>
      simp only [Option.bind_some]
      split <;> rfl

theorem numberFor?_eq_none_iff : numberFor? numbers m = none ↔ m ∉ numbers.map Prod.fst := by
  rw [numberFor?, Option.map_eq_none_iff, List.find?_eq_none, List.mem_map, not_exists]
  constructor
  · rintro h found ⟨hMem, rfl⟩
    exact h found hMem (beq_self_eq_true _)
  · exact fun h found hMem hLine => h found ⟨hMem, beq_iff_eq.mp hLine⟩

section Down

variable (hDown : (numbers.map Prod.fst).Pairwise (· < ·))

include hDown

theorem numberFor?_eq_some_iff : numberFor? numbers m = some number ↔ (m, number) ∈ numbers := by
  rw [numberFor?, Option.map_eq_some_iff]
  constructor
  · rintro ⟨⟨m', number⟩, hFind, rfl⟩
    have hLine : m' = m := by simpa using List.find?_some hFind
    rw [← hLine]
    exact List.mem_of_find?_eq_some hFind
  · intro hMem
    cases hFind : numbers.find? (·.1 == m) with
    | none => exact absurd (beq_self_eq_true m) (List.find?_eq_none.mp hFind (m, number) hMem)
    | some found =>
      -- A line has one number at most.
      have hNodup : (numbers.map Prod.fst).Nodup := hDown.imp (fun h => Nat.ne_of_lt h)
      have hSame : found = (m, number) := List.inj_on_of_nodup_map hNodup
        (List.mem_of_find?_eq_some hFind) hMem (by simpa using List.find?_some hFind)
      exact ⟨found, rfl, by rw [hSame]⟩

theorem inPlace_numberAll (lines : Lines) : Batch.InPlace lines (numberAll lines numbers) := by
  apply Batch.inPlace_filterMap Prod.fst
  · exact List.pairwise_map.mp hDown
  · rintro ⟨m, number⟩ - e he
    exact onLine_numberEdit? he

theorem onLine_numberAll (lines : Lines) (m : Nat) :
    Batch.onLine (numberAll lines numbers) m =
      ((numberFor? numbers m).bind (numberEdit? lines m)).toList := by
  have hInPlace := inPlace_numberAll hDown lines
  cases hEdit : (numberFor? numbers m).bind (numberEdit? lines m) with
  | some e =>
    obtain ⟨number, hNumber, he⟩ := Option.bind_eq_some_iff.mp hEdit
    have hMem : e ∈ numberAll lines numbers :=
      List.mem_filterMap.mpr ⟨(m, number), (numberFor?_eq_some_iff hDown).mp hNumber, he⟩
    rw [← (onLine_numberEdit? he).2]
    exact hInPlace.onLine_eq_singleton hMem
  | none =>
    rw [Option.toList_none, Batch.onLine, List.filter_eq_nil_iff]
    intro e he hLine
    obtain ⟨⟨m', number⟩, hMem, he⟩ := List.mem_filterMap.mp he
    have he : numberEdit? lines m' number = some e := he
    have hm' : m' = m := (onLine_numberEdit? he).2.symm.trans (beq_iff_eq.mp hLine)
    subst hm'
    rw [(numberFor?_eq_some_iff hDown).mpr hMem, Option.bind_some, he] at hEdit
    contradiction

end Down

/-! ## Lines with their numbers -/

theorem numberedAt_of_eq_none (h : numberFor? numbers m = none) (line : Text) :
    numberedAt numbers m line = line := by
  rw [numberedAt, h]

theorem numberedAt_of_eq_some (h : numberFor? numbers m = some number) (line : Text) :
    numberedAt numbers m line = renumbered number line := by
  rw [numberedAt, h]

theorem numberedAt_nil (numbers : List (Nat × Nat)) (m : Nat) : numberedAt numbers m [] = [] := by
  rw [numberedAt]
  split
  · exact renumbered_of_parse?_eq_none rfl
  · rfl

theorem runLine_numberedAt (hSize : ∀ m number, (m, number) ∈ numbers → number < UInt64.size)
    (hDown : (numbers.map Prod.fst).Pairwise (· < ·)) (indent m : Nat) (line : Text) :
    runLine indent (numberedAt numbers m line) = runLine indent line := by
  rw [numberedAt]
  split
  · next number hNumber =>
    exact runLine_renumbered (hSize m number ((numberFor?_eq_some_iff hDown).mp hNumber)) indent line
  · rfl

theorem sameButNumber_numberedAt (hSize : ∀ m number, (m, number) ∈ numbers → number < UInt64.size)
    (hDown : (numbers.map Prod.fst).Pairwise (· < ·)) (m : Nat) (line : Text) :
    SameButNumber line (numberedAt numbers m line) := by
  rw [numberedAt]
  split
  · next number hNumber =>
    exact sameButNumber_renumbered (hSize m number ((numberFor?_eq_some_iff hDown).mp hNumber)) line
  · exact .refl line

theorem toNat_number_numberedAt (hMem : (m, number) ∈ numbers) (hNumber : number < UInt64.size)
    (hDown : (numbers.map Prod.fst).Pairwise (· < ·)) {word : UInt64}
    (hp : parse? (numberedAt numbers m line) = some item) (hWord : item.bullet.number? = some word) :
    word.toNat = number := by
  rw [numberedAt_of_eq_some ((numberFor?_eq_some_iff hDown).mpr hMem)] at hp
  -- Only an item has a number, and of items only the ordered ones.
  cases hOld : parse? line with
  | none =>
    rw [renumbered_of_parse?_eq_none hOld, hOld] at hp
    contradiction
  | some old =>
    rw [parse?_renumbered hOld hNumber] at hp
    injection hp with hp
    subst hp
    cases hBullet : old.bullet with
    | ordered value delimiter =>
      simp only [hBullet, Bullet.withNumber, Bullet.number?, Option.some.injEq] at hWord
      rw [← hWord, UInt64.toNat_ofNat_of_lt' hNumber]
    | dash | plus | star =>
      simp [hBullet, Bullet.withNumber, Bullet.number?] at hWord

/-- The columns that a new number is written over are in front of the content. -/
theorem numberColumns?_le {start stop column : Nat} (hp : parse? line = some item)
    (hColumn : contentColumn? line = some column)
    (h : numberColumns? number line = some (start, stop)) : start ≤ stop ∧ stop ≤ column := by
  have hDigits := (digits_le_contentColumn hp hColumn).1
  simp only [numberColumns?, hp, Option.bind_eq_bind, Option.bind_some] at h
  obtain ⟨old, -, h⟩ := Option.bind_eq_some_iff.mp h
  split at h
  · contradiction
  · injection h with h
    injection h with hStart hStop
    omega

/-- **Numbers in a batch.** Every line has the number that is meant for it. -/
theorem lineAt_rewrite_numberAll (hDown : (numbers.map Prod.fst).Pairwise (· < ·)) (m : Nat) :
    (Batch.rewrite (numberAll lines numbers) lines).lineAt m =
      numberedAt numbers m (lines.lineAt m) := by
  -- The line has one edit, if it has a number that is not its own already.
  rcases Nat.lt_or_ge m lines.length with hm | hm
  · rw [Batch.lineAt_rewrite hm, Batch.rewriteLine, onLine_numberAll hDown]
    cases hNumber : numberFor? numbers m with
    | none =>
      rw [numberedAt_of_eq_none hNumber]
      exact Patch.readThrough_nil _
    | some number =>
      rw [Option.bind_some, numberEdit?_eq_map, numberedAt_of_eq_some hNumber]
      cases hColumns : numberColumns? number (lines.lineAt m) with
      | none =>
        rw [renumbered_of_eq_none hColumns]
        exact Patch.readThrough_nil _
      | some columns =>
        have hEdit : numberEdit? lines m number =
            some ⟨.onLine m columns.1 columns.2, Text.ofNat number⟩ := by
          rw [numberEdit?_eq_map, hColumns, Option.map_some]
        have hOn := (onLine_numberEdit? hEdit).1
        rw [renumbered_of_eq_some hColumns]
        exact Patch.readThrough_singleton hOn.forward hOn.inside
  · rw [Lines.lineAt_of_length_le hm, Lines.lineAt_of_length_le (by rwa [Batch.length_rewrite]),
      numberedAt_nil]

/-- The edit that cuts line `k` at column `c`. -/
def cutAt (lines : Lines) (k c : Nat) : Edit :=
  .delete (.onLine k c (lines.lineAt k).length)

/-- The line that is cut has the number that is meant for it in front of the cut. -/
theorem rewriteLine_numberAll_cut {column c : Nat}
    (hDown : (numbers.map Prod.fst).Pairwise (· < ·)) (hp : parse? (lines.lineAt k) = some item)
    (hColumn : contentColumn? (lines.lineAt k) = some column) (hc : column ≤ c)
    (hc' : c ≤ (lines.lineAt k).length) :
    Batch.rewriteLine (numberAll lines numbers ++ [cutAt lines k c]) k (lines.lineAt k) =
      numberedAt numbers k ((lines.lineAt k).take c) := by
  have hOnLine : Batch.onLine (numberAll lines numbers ++ [cutAt lines k c]) k =
      ((numberFor? numbers k).bind (numberEdit? lines k)).toList ++ [cutAt lines k c] := by
    rw [← onLine_numberAll hDown, Batch.onLine, List.filter_append]
    simp [cutAt, Batch.onLine, Edit.delete, Span.onLine]
  have hCut : Patch.readThrough [(cutAt lines k c).linePatch] (lines.lineAt k) =
      (lines.lineAt k).take c := by
    rw [Patch.readThrough_singleton hc' (Nat.le_refl _)]
    simp [cutAt, Edit.linePatch, Edit.delete, Span.onLine]
  rw [Batch.rewriteLine, hOnLine]
  cases hNumber : numberFor? numbers k with
  | none =>
    rw [numberedAt_of_eq_none hNumber]
    exact hCut
  | some number =>
    -- The cut does not touch the columns of the number.
    have hSame := (exists_parse?_take hp hColumn hc).2 number
    rw [Option.bind_some, numberEdit?_eq_map, numberedAt_of_eq_some hNumber]
    cases hColumns : numberColumns? number (lines.lineAt k) with
    | none =>
      rw [renumbered_of_eq_none (hSame.trans hColumns)]
      exact hCut
    | some columns =>
      obtain ⟨hForward, hStop⟩ := numberColumns?_le hp hColumn hColumns
      have hBehind : ∀ p ∈ [(cutAt lines k c).linePatch], columns.2 ≤ p.start := by
        intro p hp
        rw [List.mem_singleton.mp hp]
        exact Nat.le_trans hStop hc
      -- So the number lands on the line that is cut already.
      rw [renumbered_of_eq_some (hSame.trans hColumns), ← hCut]
      exact (Patch.land_readThrough (p := ⟨columns.1, columns.2, Text.ofNat number, 0⟩) hForward
        (Nat.le_trans (Nat.le_trans hStop hc) hc') hBehind).symm

/-- **Numbers beside a cut.** The other lines have their numbers as without it. -/
theorem lineAt_rewrite_numberAll_cut {column c : Nat}
    (hDown : (numbers.map Prod.fst).Pairwise (· < ·)) (hp : parse? (lines.lineAt k) = some item)
    (hColumn : contentColumn? (lines.lineAt k) = some column) (hc : column ≤ c)
    (hc' : c ≤ (lines.lineAt k).length) (m : Nat) :
    (Batch.rewrite (numberAll lines numbers ++ [cutAt lines k c]) lines).lineAt m =
      numberedAt numbers m (if m = k then (lines.lineAt k).take c else lines.lineAt m) := by
  have hk : k < lines.length := lt_length_of_parse? hp
  by_cases hm : m = k
  · rw [hm, if_pos rfl, Batch.lineAt_rewrite hk,
      rewriteLine_numberAll_cut hDown hp hColumn hc hc']
  · have hLine : (cutAt lines k c).span.start.line ≠ m := Ne.symm hm
    rw [if_neg hm, ← lineAt_rewrite_numberAll hDown,
      Batch.rewrite_append_singleton (e := cutAt lines k c) hk, Lines.lineAt_set_of_ne hLine]

/-! ## A new item in a run -/

/-- The numbers of the members of a run around a new item on line `q`, which has the number that is
left out. -/
def numbersAround (q : Nat) (members : List Nat) : List (Nat × Nat) :=
  (members.filter (· < q)).zipIdx 1 ++
    (members.filter (q ≤ ·)).zipIdx ((members.filter (· < q)).length + 2)

/-- Renumbering around a new item gives the members of the run their numbers. -/
theorem renumberAround?_eq (hp : parse? (lines.lineAt n) = some item) (q : Nat) :
    renumberAround? config lines n q =
      if item.bullet.isOrdered then
        some (((run config lines n item.indent).filter (· < q)).length + 1,
          numberAll lines (numbersAround q (run config lines n item.indent)))
      else none := by
  rw [renumberAround?, hp, numbersAround, numberAll, List.filterMap_append]
  rfl

theorem map_fst_numbersAround (q : Nat) (members : List Nat) :
    (numbersAround q members).map Prod.fst =
      members.filter (· < q) ++ members.filter (q ≤ ·) := by
  rw [numbersAround, List.map_append, List.zipIdx_map_fst, List.zipIdx_map_fst]

theorem mem_map_fst_numbersAround_iff :
    m ∈ (numbersAround q members).map Prod.fst ↔ m ∈ members := by
  rw [map_fst_numbersAround, List.mem_append, List.mem_filter, List.mem_filter]
  simp only [decide_eq_true_eq]
  constructor
  · rintro (⟨hm, -⟩ | ⟨hm, -⟩) <;> exact hm
  · intro hm
    rcases Nat.lt_or_ge m q with hLt | hLe
    · exact Or.inl ⟨hm, hLt⟩
    · exact Or.inr ⟨hm, hLe⟩

theorem pairwise_numbersAround (h : members.Pairwise (· < ·)) (q : Nat) :
    ((numbersAround q members).map Prod.fst).Pairwise (· < ·) := by
  rw [map_fst_numbersAround]
  refine List.pairwise_append.mpr ⟨h.filter _, h.filter _, fun a ha b hb => ?_⟩
  have ha := (List.mem_filter.mp ha).2
  have hb := (List.mem_filter.mp hb).2
  simp only [decide_eq_true_eq] at ha hb
  omega

/-- The numbers go up to one more than there were members. -/
theorem le_of_mem_numbersAround (h : (m, number) ∈ numbersAround q members) :
    number ≤ members.length + 1 := by
  have hLength : (members.filter (· < q)).length + (members.filter (q ≤ ·)).length ≤
      members.length := by
    have hSplit := List.length_eq_length_filter_add (l := members) (fun m => decide (m < q))
    have hNot : members.filter (fun m => !decide (m < q)) = members.filter (q ≤ ·) := by
      apply List.filter_congr
      intro m _
      rw [← decide_not]
      simp only [Nat.not_lt]
    rw [hNot] at hSplit
    exact Nat.le_of_eq hSplit.symm
  rcases List.mem_append.mp h with h | h
  · have := List.snd_lt_add_of_mem_zipIdx h
    omega
  · have := List.snd_lt_add_of_mem_zipIdx h
    omega

/-- **The members of a run with a new one** have the numbers from one on. -/
theorem getElem?_withMember (h : (withMember q members)[i]? = some m) :
    (m = q ∧ i = (members.filter (· < q)).length) ∨
      ∃ k, Lines.past q k = m ∧ (k, i + 1) ∈ numbersAround q members := by
  rcases Nat.lt_trichotomy i (members.filter (· < q)).length with hi | rfl | hi
  · -- A member above the new item.
    rw [withMember, List.getElem?_append_left hi] at h
    have hLt := (List.mem_filter.mp (List.mem_of_getElem? h)).2
    refine Or.inr ⟨m, Lines.past_of_lt (by simpa using hLt), List.mem_append.mpr (Or.inl ?_)⟩
    exact List.mk_mem_zipIdx_iff_le_and_getElem?_sub.mpr ⟨by omega, h⟩
  · -- The new item.
    rw [withMember, List.getElem?_append_right (Nat.le_refl _), Nat.sub_self] at h
    injection h with h
    exact Or.inl ⟨h.symm, rfl⟩
  · -- A member below it, which has moved down.
    obtain ⟨j, rfl⟩ : ∃ j, i = (members.filter (· < q)).length + (j + 1) :=
      ⟨i - (members.filter (· < q)).length - 1, by omega⟩
    rw [withMember, List.getElem?_append_right (by omega), Nat.add_sub_cancel_left,
      List.getElem?_cons_succ, List.getElem?_map, Option.map_eq_some_iff] at h
    obtain ⟨k, hk, rfl⟩ := h
    have hLe := (List.mem_filter.mp (List.mem_of_getElem? hk)).2
    refine Or.inr ⟨k, Lines.past_of_le (by simpa using hLe), List.mem_append.mpr (Or.inr ?_)⟩
    refine List.mk_mem_zipIdx_iff_le_and_getElem?_sub.mpr ⟨by omega, ?_⟩
    rw [← hk]
    congr 1
    omega

end ListItem

end Outliner
