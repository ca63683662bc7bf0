import Mathlib.Data.List.Perm.Basic
import Outliner.Proofs.Batch.ReadThrough

/-!
# Outliner — reading a text in two parts

At an offset that no patch takes out characters around, a reading falls apart: the text in front is
read with the patches that end there or before, and the text behind with all others, as a text of
its own. What is inserted at the offset itself is written in front, and a replacement that starts
there behind.

How long a text gets can be said without reading it: each patch adds its text and takes out its
stretch, wherever it stands.

* `shiftLeft`, `readFrom_eq_readThrough_shiftLeft` — patches behind an offset, seen from there.
* `growth`, `totalGrowth` — by how much patches make a text longer.

Main results:

* `readThrough_eq_append_readFrom`, `readThrough_split` — the two parts of a reading.
* `length_readThrough` — the length of a reading.
-/

namespace Outliner.Patch

variable {ps qs : List Patch} {text : Text} {k : Nat}

/-! ## Patches behind an offset -/

/-- The patch, seen from a text that starts at the given offset. -/
def shiftLeft (n : Nat) (p : Patch) : Patch :=
  { p with start := p.start - n, stop := p.stop - n }

theorem isInsertion_shiftLeft {p : Patch} (hStart : k ≤ p.start) (hForward : p.start ≤ p.stop) :
    (p.shiftLeft k).isInsertion = p.isInsertion := by
  rw [Bool.eq_iff_iff, isInsertion_iff, isInsertion_iff]
  show p.start - k = p.stop - k ↔ p.start = p.stop
  omega

theorem start_shiftLeft_beq {p : Patch} (hStart : k ≤ p.start) (i : Nat) :
    ((p.shiftLeft k).start == i) = (p.start == k + i) := by
  rw [Bool.eq_iff_iff, beq_iff_eq, beq_iff_eq]
  show p.start - k = i ↔ p.start = k + i
  omega

theorem covers_shiftLeft {p : Patch} (hStart : k ≤ p.start) (i : Nat) :
    (p.shiftLeft k).covers i = p.covers (k + i) := by
  rw [Bool.eq_iff_iff, covers_iff, covers_iff]
  show p.start - k ≤ i ∧ i < p.stop - k ↔ p.start ≤ k + i ∧ k + i < p.stop
  omega

/-- Seen from an offset, the patches behind it are made at the same places. -/
theorem readAt_shiftLeft (h : ∀ p ∈ ps, k ≤ p.start ∧ p.start ≤ p.stop) (text : Text) (i : Nat) :
    readAt (ps.map (shiftLeft k)) (text.drop k) i = readAt ps text (k + i) := by
  -- Insertions and replacements alike, and no matter which.
  have hWritten : ∀ g : Bool → Bool,
      ((ps.map (shiftLeft k)).filter fun p => g p.isInsertion && p.start == i).flatMap (·.text) =
        (ps.filter fun p => g p.isInsertion && p.start == k + i).flatMap (·.text) := by
    intro g
    rw [List.filter_map, List.flatMap_map]
    congr 1
    apply List.filter_congr
    intro p hp
    obtain ⟨hStart, hForward⟩ := h p hp
    rw [Function.comp_apply, isInsertion_shiftLeft hStart hForward, start_shiftLeft_beq hStart]
  have hInserted : insertedAt (ps.map (shiftLeft k)) i = insertedAt ps (k + i) := hWritten id
  have hReplaced : replacedAt (ps.map (shiftLeft k)) i = replacedAt ps (k + i) := hWritten not
  have hCovers : (ps.map (shiftLeft k)).any (·.covers i) = ps.any (·.covers (k + i)) := by
    rw [List.any_map, Bool.eq_iff_iff, List.any_eq_true, List.any_eq_true]
    apply exists_congr
    intro p
    apply and_congr_right
    intro hp
    rw [Function.comp_apply, covers_shiftLeft (h p hp).1]
  rw [readAt, readAt, keptAt, keptAt, hInserted, hReplaced, hCovers, List.getElem?_drop]

/-- Behind an offset a text is read as one of its own. -/
theorem readFrom_eq_readThrough_shiftLeft (hk : k ≤ text.length)
    (h : ∀ p ∈ ps, k ≤ p.start ∧ p.start ≤ p.stop) :
    readFrom ps text k = readThrough (ps.map (shiftLeft k)) (text.drop k) := by
  rw [readThrough, readFrom, readFrom, List.length_drop,
    show text.length - k + 1 - 0 = text.length + 1 - k by omega, ← Nat.add_zero k,
    ← List.map_add_range', List.flatMap_map, Nat.add_zero]
  apply List.flatMap_congr
  intro i _
  exact (readAt_shiftLeft h text i).symm

/-! ## The two parts -/

/-- What is written at an offset depends on the patches that start there or cover it. -/
theorem readAt_filter {f : Patch → Bool} {i : Nat}
    (h : ∀ p ∈ ps, p.start = i ∨ p.covers i = true → f p = true) (text : Text) :
    readAt (ps.filter f) text i = readAt ps text i := by
  have hStart : ∀ g : Patch → Bool, ((ps.filter f).filter fun p => g p && p.start == i) =
      ps.filter fun p => g p && p.start == i := by
    intro g
    rw [List.filter_filter]
    apply List.filter_congr
    intro p hp
    by_cases hAt : p.start = i
    · rw [h p hp (Or.inl hAt), Bool.and_true]
    · simp [hAt]
  have hCovers : (ps.filter f).any (·.covers i) = ps.any (·.covers i) := by
    rw [Bool.eq_iff_iff, List.any_eq_true, List.any_eq_true]
    constructor
    · rintro ⟨p, hp, hCovers⟩
      exact ⟨p, (List.mem_filter.mp hp).1, hCovers⟩
    · rintro ⟨p, hp, hCovers⟩
      exact ⟨p, List.mem_filter.mpr ⟨hp, h p hp (Or.inr hCovers)⟩, hCovers⟩
  rw [readAt, readAt, insertedAt, insertedAt, replacedAt, replacedAt, keptAt, keptAt, hStart,
    hStart, hCovers]

/-- At the end of a text only insertions are written, if no patch takes out what is behind it. -/
theorem readAt_length (h : ∀ p ∈ ps, p.start ≤ p.stop ∧ p.stop ≤ text.length) :
    readAt ps text text.length = insertedAt ps text.length := by
  have hReplaced : replacedAt ps text.length = [] := by
    rw [replacedAt, List.flatMap_eq_nil_iff]
    intro p hp
    obtain ⟨hp, hAt⟩ := List.mem_filter.mp hp
    rw [Bool.and_eq_true, Bool.not_eq_true', isInsertion_eq_false_iff, beq_iff_eq] at hAt
    have := h p hp
    omega
  have hKept : keptAt ps text text.length = [] := by
    simp [keptAt]
  rw [readAt, hReplaced, hKept, List.append_nil, List.append_nil]

theorem readFrom_length (h : ∀ p ∈ ps, p.start ≤ p.stop ∧ p.stop ≤ text.length) :
    readFrom ps text text.length = insertedAt ps text.length := by
  have hPast : readFrom ps text (text.length + 1) = [] := by
    simp [readFrom]
  rw [readFrom_succ (Nat.le_refl _), readAt_length h, hPast, List.append_nil]

/-- Of the patches that end at an offset or before, the insertions are written at the end of the
text in front of it. -/
theorem readFrom_filter_stop_le (hk : k ≤ text.length) (h : ∀ p ∈ ps, p.start ≤ p.stop) :
    readFrom (ps.filter (·.stop ≤ k)) (text.take k) k = insertedAt ps k := by
  have hLength : (text.take k).length = k := List.length_take_of_le hk
  have hInside : ∀ p ∈ ps.filter (·.stop ≤ k),
      p.start ≤ p.stop ∧ p.stop ≤ (text.take k).length := by
    intro p hp
    obtain ⟨hp, hStop⟩ := List.mem_filter.mp hp
    rw [hLength]
    exact ⟨h p hp, of_decide_eq_true hStop⟩
  have hInserted : insertedAt (ps.filter (·.stop ≤ k)) k = insertedAt ps k := by
    rw [insertedAt, insertedAt, List.filter_filter]
    congr 1
    apply List.filter_congr
    intro p _
    rw [Bool.eq_iff_iff]
    simp only [isInsertion_iff, Bool.and_eq_true, beq_iff_eq, decide_eq_true_eq]
    omega
  have hEnd := readFrom_length hInside
  rwa [hLength, hInserted] at hEnd

/-- The other patches leave out the insertions, and nothing else. -/
theorem readAt_filter_lt_stop (h : ∀ p ∈ ps, p.start ≤ p.stop) (text : Text) (k : Nat) :
    readAt (ps.filter (k < ·.stop)) text k = replacedAt ps k ++ keptAt ps text k := by
  have hInserted : insertedAt (ps.filter (k < ·.stop)) k = [] := by
    rw [insertedAt, List.filter_filter, List.flatMap_eq_nil_iff]
    intro p hp
    obtain ⟨-, hAt⟩ := List.mem_filter.mp hp
    simp only [isInsertion_iff, Bool.and_eq_true, beq_iff_eq, decide_eq_true_eq] at hAt
    omega
  have hReplaced : replacedAt (ps.filter (k < ·.stop)) k = replacedAt ps k := by
    rw [replacedAt, replacedAt, List.filter_filter]
    congr 1
    apply List.filter_congr
    intro p hp
    have := h p hp
    rw [Bool.eq_iff_iff]
    simp only [isInsertion_eq_false_iff, Bool.and_eq_true, Bool.not_eq_true', beq_iff_eq,
      decide_eq_true_eq]
    omega
  have hCovers : (ps.filter (k < ·.stop)).any (·.covers k) = ps.any (·.covers k) := by
    rw [List.any_filter]
    apply List.any_congr rfl
    intro p
    rw [Bool.eq_iff_iff, Bool.and_eq_true, decide_eq_true_eq, covers_iff]
    omega
  rw [readAt, hInserted, hReplaced, keptAt, keptAt, hCovers, List.nil_append]

/-- **The two parts of a reading,** the second one read on in the same text. -/
theorem readThrough_eq_append_readFrom (hk : k ≤ text.length)
    (h : ∀ p ∈ ps, p.start ≤ p.stop ∧ (p.stop ≤ k ∨ k ≤ p.start)) :
    readThrough ps text =
      readThrough (ps.filter (·.stop ≤ k)) (text.take k) ++
        readFrom (ps.filter (k < ·.stop)) text k := by
  have hForward : ∀ p ∈ ps, p.start ≤ p.stop := fun p hp => (h p hp).1
  have hLength : (text.take k).length = k := List.length_take_of_le hk
  -- In front of the offset only the patches of the first part are at work, behind it the others.
  have hFront : (List.range' 0 k).flatMap (readAt (ps.filter (·.stop ≤ k)) (text.take k)) =
      (List.range' 0 k).flatMap (readAt ps text) := by
    apply List.flatMap_congr
    intro i hi
    have hi : i < k := by simpa using hi
    have hText : readAt ps (text.take k) i = readAt ps text i := by
      rw [readAt, readAt, keptAt, keptAt, List.getElem?_take_of_lt hi]
    rw [readAt_filter, hText]
    intro p hp hAt
    have := h p hp
    rw [covers_iff] at hAt
    simp only [decide_eq_true_eq]
    omega
  have hBehind : readFrom (ps.filter (k < ·.stop)) text (k + 1) = readFrom ps text (k + 1) := by
    apply List.flatMap_congr
    intro i hi
    obtain ⟨hi, -⟩ := List.mem_range'_1.mp hi
    apply readAt_filter
    intro p hp hAt
    have := h p hp
    rw [covers_iff] at hAt
    simp only [decide_eq_true_eq]
    omega
  -- At the offset itself the insertions are written in front, and all else behind.
  rw [readThrough, readFrom_eq_append (Nat.zero_le k) (by omega), readFrom_succ hk, readThrough,
    readFrom_eq_append (Nat.zero_le k) (by omega), readFrom_succ hk, hBehind,
    readAt_filter_lt_stop hForward, readFrom_filter_stop_le hk hForward, Nat.sub_zero, hFront,
    readAt]
  simp only [List.append_assoc]

/-- **The two parts of a reading,** each of a text of its own. -/
theorem readThrough_split (hk : k ≤ text.length)
    (h : ∀ p ∈ ps, p.start ≤ p.stop ∧ (p.stop ≤ k ∨ k ≤ p.start)) :
    readThrough ps text =
      readThrough (ps.filter (·.stop ≤ k)) (text.take k) ++
        readThrough ((ps.filter (k < ·.stop)).map (shiftLeft k)) (text.drop k) := by
  rw [readThrough_eq_append_readFrom hk h, readFrom_eq_readThrough_shiftLeft hk]
  intro p hp
  obtain ⟨hp, hStop⟩ := List.mem_filter.mp hp
  have hStop : k < p.stop := of_decide_eq_true hStop
  have := h p hp
  omega

/-- A replacement at the start of a text is written first, if nothing else is made there. -/
theorem prefix_readThrough {q : Patch} {before after : List Patch} (hStart : q.start = 0)
    (hStop : 0 < q.stop) (hBefore : ∀ r ∈ before, r.start ≠ 0) (hAfter : ∀ r ∈ after, r.start ≠ 0)
    (text : Text) : q.text <+: readThrough (before ++ q :: after) text := by
  have hAt : readAt (before ++ q :: after) text 0 =
      q.text ++ keptAt (before ++ q :: after) text 0 := by
    have hReplacement : q.isInsertion = false := by
      rw [isInsertion, hStart, beq_eq_false_iff_ne]
      omega
    simp [readAt, insertedAt, replacedAt, filter_start_eq_nil hBefore, filter_start_eq_nil hAfter,
      hReplacement, hStart]
  rw [readThrough, readFrom_succ (Nat.zero_le _), hAt, List.append_assoc]
  exact List.prefix_append ..

/-! ## Lengths -/

/-- By how much the patch makes a text longer. -/
def growth (p : Patch) : Int :=
  p.text.length - (p.stop - p.start)

/-- By how much patches make a text longer that is read with all of them. -/
def totalGrowth : List Patch → Int
  | [] => 0
  | p :: rest => p.growth + totalGrowth rest

theorem totalGrowth_perm (hPerm : qs.Perm ps) : totalGrowth qs = totalGrowth ps := by
  induction hPerm with
  | nil => rfl
  | cons p _ ih => rw [totalGrowth, totalGrowth, ih]
  | swap p q rest =>
    simp only [totalGrowth]
    omega
  | trans _ _ ih₁ ih₂ => exact ih₁.trans ih₂

/-- What is read is the same in every order of the patches, but for its own order. -/
theorem perm_readThrough (hPerm : qs.Perm ps) (text : Text) :
    (readThrough qs text).Perm (readThrough ps text) := by
  apply List.Perm.flatMap_left
  intro k _
  have hKept : keptAt qs text k = keptAt ps text k := by
    rw [keptAt, keptAt, hPerm.any_eq]
  have hInserted : (insertedAt qs k).Perm (insertedAt ps k) := (hPerm.filter _).flatMap_right _
  have hReplaced : (replacedAt qs k).Perm (replacedAt ps k) := (hPerm.filter _).flatMap_right _
  rw [readAt, readAt, hKept]
  exact (hInserted.append hReplaced).append_right _

theorem length_land {p : Patch} (hForward : p.start ≤ p.stop) (hInside : p.stop ≤ text.length) :
    ((land text p).length : Int) = text.length + p.growth := by
  rw [land, List.length_append, List.length_append, List.length_take, List.length_drop, growth]
  omega

/-- **The length of a reading.** Each patch adds its growth, wherever it stands. -/
theorem length_readThrough (hInside : ∀ p ∈ ps, p.start ≤ p.stop ∧ p.stop ≤ text.length)
    (hApart : ps.Pairwise fun p q => p.conflicts q = false) :
    ((readThrough ps text).length : Int) = text.length + totalGrowth ps := by
  -- From left to right the patches land one by one, the last one first.
  have hOrdered : ∀ {qs : List Patch}, (∀ p ∈ qs, p.start ≤ p.stop ∧ p.stop ≤ text.length) →
      (qs.Pairwise fun p q => p.stop ≤ q.start) →
      ((readThrough qs text).length : Int) = text.length + totalGrowth qs := by
    intro qs hInside hOrder
    induction qs with
    | nil => rw [readThrough_nil, totalGrowth, Int.add_zero]
    | cons p rest ih =>
      obtain ⟨hp, hRest⟩ := List.pairwise_cons.mp hOrder
      obtain ⟨hPatch, hInside⟩ := List.forall_mem_cons.mp hInside
      have hLeft : p.stop ≤ (readThrough rest text).length := by
        rw [readThrough_eq_take_append hPatch.2 hp, List.length_append, List.length_take]
        omega
      rw [← land_readThrough hPatch.1 hPatch.2 hp, length_land hPatch.1 hLeft, ih hInside hRest,
        totalGrowth]
      omega
  have hPerm := reverse_landing_perm ps
  have hLanded := hOrdered (fun p hp => hInside p (hPerm.mem_iff.mp hp))
    (pairwise_stop_le_reverse_landing (fun p hp => (hInside p hp).1) hApart)
  rwa [(perm_readThrough hPerm text).length_eq, totalGrowth_perm hPerm] at hLanded

end Outliner.Patch
