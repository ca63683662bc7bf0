import Mathlib.Data.List.Basic
import Outliner.Lines

/-!
# Outliner — numbered lines

A scan walks over lines that carry their numbers, downward from a line or upward from one. This
module says what such a walk meets, and in which order.

* `mk_mem_onward_iff`, `mk_mem_above_iff` — the lines of a walk, each with its own number.
* `pairwise_onward` — the numbers of a walk downward grow.
* `onward_eq_cons`, `above_succ` — the first step of a walk.
* `lineAt_putIn_of_lt`, `lineAt_putIn_add`, `lineAt_putIn_add_length` — the lines after some have
  been put in.
* `past`, `lineAt_putIn_past` — where the lines are after one has been put in.
* `Lines.Inside` — a place on a line that exists, within its text.
-/

namespace Outliner.Lines

variable {lines : Lines} {n m : Nat} {l : Text}

/-! ## Lines that exist -/

theorem lt_length_of_lineAt_ne_nil (h : lines.lineAt n ≠ []) : n < lines.length := by
  by_contra hn
  exact h (lineAt_of_length_le (Nat.le_of_not_lt hn))

/-- Past the last line everything is blank. -/
theorem lt_length_of_isBlankAt_eq_false (h : lines.isBlankAt n = false) : n < lines.length := by
  apply lt_length_of_lineAt_ne_nil
  intro hNil
  rw [isBlankAt, hNil] at h
  contradiction

/-- Buffers of one length with the same line everywhere are the same. -/
theorem ext_lineAt {lines' : Lines} (hLength : lines.length = lines'.length)
    (hLine : ∀ m, lines.lineAt m = lines'.lineAt m) : lines = lines' := by
  apply List.ext_getElem hLength
  intro m hm hm'
  rw [← lineAt_of_lt hm, ← lineAt_of_lt hm', hLine]

theorem lineAt_set_of_ne (h : n ≠ m) (l : Text) : lineAt (lines.set n l) m = lines.lineAt m := by
  simp [lineAt, List.getElem?_set_ne h]

theorem lineAt_set_self (hn : n < lines.length) (l : Text) : lineAt (lines.set n l) n = l := by
  simp [lineAt, List.getElem?_set_self hn]

/-- A line in its own place changes nothing. -/
theorem set_lineAt (hn : n < lines.length) : lines.set n (lines.lineAt n) = lines := by
  rw [lineAt_of_lt hn, List.set_getElem_self]

theorem lineAt_map {f : Text → Text} (hf : f [] = []) (lines : Lines) (n : Nat) :
    lineAt (lines.map f) n = f (lines.lineAt n) := by
  rcases Nat.lt_or_ge n lines.length with hn | hn
  · rw [lineAt_of_lt hn, lineAt_of_lt (by rwa [List.length_map]), List.getElem_map]
  · rw [lineAt_of_length_le hn, lineAt_of_length_le (by rwa [List.length_map]), hf]

theorem lineAt_take (h : m < n) : lineAt (lines.take n) m = lines.lineAt m := by
  simp [lineAt, List.getElem?_take_of_lt h]

theorem lineAt_drop (lines : Lines) (n m : Nat) :
    lineAt (lines.drop n) m = lines.lineAt (n + m) := by
  simp [lineAt, List.getElem?_drop]

theorem lineAt_append_left {more : Lines} (h : m < lines.length) :
    lineAt (lines ++ more) m = lines.lineAt m := by
  simp [lineAt, List.getElem?_append_left h]

theorem lineAt_append_right {more : Lines} (m : Nat) :
    lineAt (lines ++ more) (lines.length + m) = more.lineAt m := by
  simp [lineAt, List.getElem?_append_right]

/-- The place is on a line that exists, and within its text. -/
structure Inside (lines : Lines) (p : Position) : Prop where
  line_lt : p.line < lines.length
  column_le : p.column ≤ (lines.lineAt p.line).length

theorem last_lt (h : lines ≠ []) : lines.last < lines.length := by
  have := List.length_pos_iff.mpr h
  rw [last]
  omega

theorem inside_clamp (h : lines ≠ []) (p : Position) : lines.Inside (lines.clamp p) where
  line_lt := Nat.lt_of_le_of_lt (Nat.min_le_right ..) (last_lt h)
  column_le := Nat.min_le_right ..

theorem Inside.clamp_eq {p : Position} (h : lines.Inside p) : lines.clamp p = p :=
  clamp_of_le (by have := h.line_lt; rw [last]; omega) h.column_le

/-! ## Walks -/

theorem getElem?_eq_some_iff :
    lines[n]? = some l ↔ n < lines.length ∧ l = lines.lineAt n := by
  rw [List.getElem?_eq_some_iff]
  constructor
  · rintro ⟨hn, rfl⟩
    exact ⟨hn, (lineAt_of_lt hn).symm⟩
  · rintro ⟨hn, rfl⟩
    exact ⟨hn, (lineAt_of_lt hn).symm⟩

/-- Numbers in a list go up. -/
theorem pairwise_zipIdx {α : Type} (xs : List α) (n : Nat) :
    (xs.zipIdx n).Pairwise fun x y => x.2 < y.2 := by
  rw [← List.pairwise_map (f := Prod.snd) (R := (· < ·)), List.zipIdx_map_snd]
  exact List.pairwise_lt_range'

/-- The lines from `n` on are numbered from `n` on. -/
theorem onward_eq_zipIdx (lines : Lines) (n : Nat) :
    lines.onward n = (lines.drop n).zipIdx n := by
  apply List.ext_getElem?
  intro i
  simp [onward, numbered, List.getElem?_drop]

/-- The lines in front of `n`, with their numbers. -/
theorem take_numbered (lines : Lines) (n : Nat) :
    lines.numbered.take n = (lines.take n).zipIdx := by
  apply List.ext_getElem?
  intro i
  rw [numbered, List.getElem?_take, List.getElem?_zipIdx, List.getElem?_zipIdx,
    List.getElem?_take]
  split <;> rfl

/-- What a walk downward meets. -/
theorem mk_mem_onward_iff :
    (l, m) ∈ lines.onward n ↔ n ≤ m ∧ m < lines.length ∧ l = lines.lineAt m := by
  rw [onward_eq_zipIdx, List.mk_mem_zipIdx_iff_le_and_getElem?_sub, List.getElem?_drop]
  apply and_congr_right
  intro hm
  rw [Nat.add_sub_cancel' hm, getElem?_eq_some_iff]

/-- What a walk upward meets. -/
theorem mk_mem_above_iff :
    (l, m) ∈ lines.above n ↔ m < n ∧ m < lines.length ∧ l = lines.lineAt m := by
  rw [above, List.mem_reverse, take_numbered, List.mk_mem_zipIdx_iff_getElem?, List.getElem?_take]
  by_cases hm : m < n
  · rw [if_pos hm, getElem?_eq_some_iff]
    exact ⟨fun h => ⟨hm, h⟩, fun h => h.2⟩
  · simp [hm]

/-- What the first lines of a walk downward are. -/
theorem mk_mem_take_onward_iff {k : Nat} :
    (l, m) ∈ (lines.onward n).take k ↔
      n ≤ m ∧ m < n + k ∧ m < lines.length ∧ l = lines.lineAt m := by
  have hTake : (lines.onward n).take k = ((lines.drop n).take k).zipIdx n := by
    apply List.ext_getElem?
    intro i
    rw [onward_eq_zipIdx, List.getElem?_take, List.getElem?_zipIdx, List.getElem?_zipIdx,
      List.getElem?_take]
    split <;> rfl
  rw [hTake, List.mk_mem_zipIdx_iff_le_and_getElem?_sub, List.getElem?_take, List.getElem?_drop]
  apply and_congr_right
  intro hm
  rw [Nat.add_sub_cancel' hm]
  by_cases hk : m < n + k
  · rw [if_pos (by omega), getElem?_eq_some_iff]
    exact ⟨fun h => ⟨hk, h⟩, fun h => h.2⟩
  · simp [hk, show ¬m - n < k by omega]

/-- A walk downward comes to ever greater numbers. -/
theorem pairwise_onward (lines : Lines) (n : Nat) :
    (lines.onward n).Pairwise fun x y => x.2 < y.2 := by
  rw [onward_eq_zipIdx]
  exact pairwise_zipIdx _ n

/-- A walk downward, step by step. -/
theorem onward_eq_map (lines : Lines) (n : Nat) :
    lines.onward n =
      (List.range' 0 (lines.length - n)).map fun k => (lines.lineAt (n + k), n + k) := by
  apply List.ext_getElem
  · simp [onward, numbered]
  · intro k hk hk'
    have hk : n + k < lines.length := by
      simp only [onward, numbered, List.length_drop, List.length_zipIdx] at hk
      omega
    simp [onward, numbered, lineAt_of_lt hk]

/-- A walk upward, step by step. -/
theorem above_eq_map (hn : n ≤ lines.length) :
    lines.above n = (List.range' 0 n).map fun k => (lines.lineAt (n - 1 - k), n - 1 - k) := by
  apply List.ext_getElem
  · simp [above, numbered, hn]
  · intro k hk hk'
    have hk : n - 1 - k < lines.length := by
      simp only [List.length_map, List.length_range'] at hk'
      omega
    simp [above, numbered, lineAt_of_lt hk, Nat.min_eq_left hn]

/-- A walk upward comes to ever smaller numbers. -/
theorem pairwise_above (lines : Lines) (n : Nat) :
    (lines.above n).Pairwise fun x y => y.2 < x.2 := by
  rw [above, List.pairwise_reverse, take_numbered]
  exact pairwise_zipIdx _ 0

theorem onward_eq_cons (h : n < lines.length) :
    lines.onward n = (lines.lineAt n, n) :: lines.onward (n + 1) := by
  rw [onward_eq_zipIdx, onward_eq_zipIdx, List.drop_eq_getElem_cons h, List.zipIdx_cons,
    lineAt_of_lt h]

/-- A walk down comes to one more line. -/
theorem take_numbered_succ (h : n < lines.length) :
    lines.numbered.take (n + 1) = lines.numbered.take n ++ [(lines.lineAt n, n)] := by
  rw [take_numbered, take_numbered, List.take_succ_eq_append_getElem h, List.zipIdx_append,
    lineAt_of_lt h, List.length_take_of_le (Nat.le_of_lt h), Nat.zero_add]
  rfl

/-- A walk up starts one line further down. -/
theorem above_succ (h : n < lines.length) :
    lines.above (n + 1) = (lines.lineAt n, n) :: lines.above n := by
  rw [above, above, take_numbered_succ h, List.reverse_append]
  rfl

/-! ## A line put in -/

/-- Where line `m` is after a line has been put in before line `q`. -/
def past (q m : Nat) : Nat :=
  if m < q then m else m + 1

theorem past_of_lt {q : Nat} (h : m < q) : past q m = m :=
  if_pos h

theorem past_of_le {q : Nat} (h : q ≤ m) : past q m = m + 1 :=
  if_neg (Nat.not_lt.mpr h)

theorem past_ne (q m : Nat) : past q m ≠ q := by
  rw [past]
  split <;> omega

/-- The lines keep their order. -/
theorem past_lt_past_iff {q : Nat} : past q m < past q n ↔ m < n := by
  simp only [past]
  split <;> split <;> omega

theorem lt_past_iff {q : Nat} : q < past q m ↔ q ≤ m := by
  rw [past]
  split <;> omega

theorem past_injective (q : Nat) : Function.Injective (past q) := by
  intro m n h
  simp only [past] at h
  split at h <;> split at h <;> omega

/-- A line of the new buffer is the one put in, or an old one. -/
theorem eq_or_exists_past (q m : Nat) : m = q ∨ ∃ k, past q k = m := by
  rcases Nat.lt_trichotomy m q with hm | rfl | hm
  · exact Or.inr ⟨m, past_of_lt hm⟩
  · exact Or.inl rfl
  · exact Or.inr ⟨m - 1, by rw [past_of_le (by omega)]; omega⟩

/-- A line above the place where lines are put in. -/
theorem lineAt_putIn_of_lt {q : Nat} (hq : q ≤ lines.length) (h : m < q) (new : Lines) :
    lineAt (lines.take q ++ new ++ lines.drop q) m = lines.lineAt m := by
  rw [List.append_assoc, lineAt_append_left (by rwa [List.length_take_of_le hq]), lineAt_take h]

/-- One of the lines put in. -/
theorem lineAt_putIn_add {q : Nat} (hq : q ≤ lines.length) {new : Lines} (h : m < new.length) :
    lineAt (lines.take q ++ new ++ lines.drop q) (q + m) = new.lineAt m := by
  have hTake : (lines.take q).length = q := List.length_take_of_le hq
  have hRight : lineAt (lines.take q ++ (new ++ lines.drop q)) ((lines.take q).length + m) = _ :=
    lineAt_append_right m
  rw [hTake] at hRight
  rw [List.append_assoc, hRight, lineAt_append_left h]

/-- A line below them. -/
theorem lineAt_putIn_add_length {q : Nat} (hq : q ≤ lines.length) (h : q ≤ m) (new : Lines) :
    lineAt (lines.take q ++ new ++ lines.drop q) (m + new.length) = lines.lineAt m := by
  have hLength : (lines.take q ++ new).length = q + new.length := by
    rw [List.length_append, List.length_take_of_le hq]
  rw [show m + new.length = (lines.take q ++ new).length + (m - q) by omega, lineAt_append_right,
    lineAt_drop, Nat.add_sub_cancel' h]

/-- The line that was put in. -/
theorem lineAt_putIn {q : Nat} (hq : q ≤ lines.length) (new : Text) :
    lineAt (lines.take q ++ [new] ++ lines.drop q) q = new :=
  lineAt_putIn_add (m := 0) hq (Nat.zero_lt_one : 0 < [new].length)

/-- The other lines are as they were. -/
theorem lineAt_putIn_past {q : Nat} (hq : q ≤ lines.length) (new : Text) (m : Nat) :
    lineAt (lines.take q ++ [new] ++ lines.drop q) (past q m) = lines.lineAt m := by
  rw [past]
  split
  · next hm => exact lineAt_putIn_of_lt hq hm [new]
  · next hm => exact lineAt_putIn_add_length hq (Nat.le_of_not_lt hm) [new]

end Outliner.Lines
