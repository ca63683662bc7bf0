import Mathlib.Data.List.Basic
import Outliner.Batch

/-!
# Outliner — landing a batch is reading the text once

A batch lands back to front, one patch after the other, each on the text that the ones before it
have left. The text that results can be said without any order of landing: read the old text once,
from left to right, and write at every offset what belongs there. This module defines that reading
and proves the two equal.

* `readAt` — what is written at one offset: the insertions that stand there, in the order of the
  batch, then the replacement that starts there, then the old character, unless a patch covers it.
* `readThrough` — all offsets in turn, the one past the last character included.

Main results:

* `land_readThrough` — one landing step: a patch that lies to the left of all that have landed.
* `readThrough_perm` — the reading depends on the order of the patches by their insertions alone.
* `foldl_land_landing` — patches without conflicts, landed back to front, leave the reading.
-/

namespace Outliner.Patch

/-! ## The reading -/

/-- The patch takes out the character at the offset. -/
def covers (p : Patch) (k : Nat) : Bool :=
  p.start ≤ k && k < p.stop

theorem isInsertion_iff {p : Patch} : p.isInsertion = true ↔ p.start = p.stop :=
  beq_iff_eq

theorem isInsertion_eq_false_iff {p : Patch} : p.isInsertion = false ↔ p.start ≠ p.stop :=
  beq_eq_false_iff_ne

theorem covers_iff {p : Patch} {k : Nat} : p.covers k = true ↔ p.start ≤ k ∧ k < p.stop := by
  rw [covers, Bool.and_eq_true, decide_eq_true_eq, decide_eq_true_eq]

/-- The texts inserted at an offset, in the order of the list. -/
def insertedAt (patches : List Patch) (k : Nat) : Text :=
  (patches.filter fun p => p.isInsertion && p.start == k).flatMap (·.text)

/-- The text of the replacement that starts at an offset. -/
def replacedAt (patches : List Patch) (k : Nat) : Text :=
  (patches.filter fun p => !p.isInsertion && p.start == k).flatMap (·.text)

/-- The character at an offset, unless a patch takes it out. -/
def keptAt (patches : List Patch) (text : Text) (k : Nat) : Text :=
  if patches.any (·.covers k) then [] else text[k]?.toList

/-- What is written when the reading comes to an offset. -/
def readAt (patches : List Patch) (text : Text) (k : Nat) : Text :=
  insertedAt patches k ++ replacedAt patches k ++ keptAt patches text k

/-- The reading from an offset on. -/
def readFrom (patches : List Patch) (text : Text) (k : Nat) : Text :=
  (List.range' k (text.length + 1 - k)).flatMap (readAt patches text)

/-- The text read once from left to right, with the patches made. -/
def readThrough (patches : List Patch) (text : Text) : Text :=
  readFrom patches text 0

/-! ## Offsets that no patch touches -/

theorem filter_start_eq_nil {patches : List Patch} {k : Nat} (h : ∀ p ∈ patches, p.start ≠ k)
    (f : Patch → Bool) : (patches.filter fun p => f p && p.start == k) = [] := by
  rw [List.filter_eq_nil_iff]
  intro p hp
  simp [h p hp]

/-- Where no patch starts, nothing but the old character can be written. -/
theorem readAt_of_start_ne {patches : List Patch} {k : Nat} (h : ∀ p ∈ patches, p.start ≠ k)
    (text : Text) : readAt patches text k = keptAt patches text k := by
  simp [readAt, insertedAt, replacedAt, filter_start_eq_nil h]

theorem readAt_of_lt_start {patches : List Patch} {k : Nat} (h : ∀ p ∈ patches, k < p.start)
    (text : Text) : readAt patches text k = text[k]?.toList := by
  have hCovers : patches.any (·.covers k) = false := by
    rw [List.any_eq_false]
    intro p hp
    have := h p hp
    rw [covers_iff]
    omega
  rw [readAt_of_start_ne (fun p hp => Nat.ne_of_gt (h p hp)), keptAt, hCovers]
  rfl

theorem readAt_cons_of_not_covers {p : Patch} {k : Nat} (hStart : p.start ≠ k)
    (hCovers : p.covers k = false) (patches : List Patch) (text : Text) :
    readAt (p :: patches) text k = readAt patches text k := by
  simp [readAt, insertedAt, replacedAt, keptAt, hStart, hCovers]

theorem flatMap_getElem?_range' (text : Text) (k n : Nat) :
    (List.range' k n).flatMap (fun i => text[i]?.toList) = (text.drop k).take n := by
  induction n generalizing k with
  | zero => simp
  | succ n ih =>
    rw [List.range'_succ, List.flatMap_cons, ih]
    rcases Nat.lt_or_ge k text.length with hk | hk
    · rw [List.drop_eq_getElem_cons hk, List.take_succ_cons, List.getElem?_eq_getElem hk]
      rfl
    · rw [List.drop_eq_nil_of_le hk, List.drop_eq_nil_of_le (by omega),
        List.getElem?_eq_none hk]
      simp

theorem readFrom_eq_append {patches : List Patch} {text : Text} {i k : Nat} (hik : i ≤ k)
    (hk : k ≤ text.length + 1) :
    readFrom patches text i =
      (List.range' i (k - i)).flatMap (readAt patches text) ++ readFrom patches text k := by
  rw [readFrom, readFrom, ← List.flatMap_append]
  congr 1
  have := List.range'_append_1 (s := i) (m := k - i) (n := text.length + 1 - k)
  rw [show i + (k - i) = k by omega, show k - i + (text.length + 1 - k) = text.length + 1 - i
    by omega] at this
  exact this.symm

theorem readFrom_succ {text : Text} {k : Nat} (hk : k ≤ text.length) (patches : List Patch) :
    readFrom patches text k = readAt patches text k ++ readFrom patches text (k + 1) := by
  rw [readFrom_eq_append (Nat.le_succ k) (by omega), Nat.succ_sub (Nat.le_refl k)]
  simp

/-- Up to the first patch the reading is a copy. -/
theorem readThrough_eq_take_append {patches : List Patch} {text : Text} {k : Nat}
    (hk : k ≤ text.length) (h : ∀ p ∈ patches, k ≤ p.start) :
    readThrough patches text = text.take k ++ readFrom patches text k := by
  have hCopy : (List.range' 0 (k - 0)).flatMap (readAt patches text) = text.take k := by
    rw [Nat.sub_zero, ← List.drop_zero (l := text), ← flatMap_getElem?_range', List.drop_zero]
    apply List.flatMap_congr
    intro i hi
    have hi : i < k := by simpa using hi
    exact readAt_of_lt_start (fun p hp => Nat.lt_of_lt_of_le hi (h p hp)) text
  rw [readThrough, readFrom_eq_append (Nat.zero_le k) (by omega), hCopy]

theorem readThrough_nil (text : Text) : readThrough [] text = text := by
  rw [readThrough_eq_take_append (Nat.le_refl _) (by simp)]
  simp [readFrom, readAt, insertedAt, replacedAt, keptAt]

/-! ## One landing step -/

/-- What a patch writes at its own start, in front of what the patches to its right write. -/
theorem readAt_cons_start {p : Patch} {patches : List Patch} (hp : p.start ≤ p.stop)
    (h : ∀ q ∈ patches, p.stop ≤ q.start) (text : Text) :
    readAt (p :: patches) text p.start =
      p.text ++ (if p.isInsertion then readAt patches text p.start else []) := by
  by_cases hIns : p.isInsertion = true
  · have hCovers : p.covers p.start = false := by
      rw [← Bool.not_eq_true, covers_iff, isInsertion_iff.mp hIns]
      omega
    simp [readAt, insertedAt, replacedAt, keptAt, hIns, hCovers]
  · -- The patches to the right start past a replacement, and it covers its own start.
    have hLt : p.start < p.stop := by
      rw [isInsertion_iff] at hIns
      omega
    have hNe : ∀ q ∈ patches, q.start ≠ p.start := by
      intro q hq
      have := h q hq
      omega
    simp [readAt, insertedAt, replacedAt, keptAt, covers, hIns, hLt, filter_start_eq_nil hNe]

/-- Past a patch the reading goes on as if it were not there. -/
theorem readFrom_cons_of_lt {p : Patch} {k : Nat} (hStart : p.start < k) (hStop : p.stop ≤ k)
    (patches : List Patch) (text : Text) :
    readFrom (p :: patches) text k = readFrom patches text k := by
  apply List.flatMap_congr
  intro i hi
  obtain ⟨hi, -⟩ := List.mem_range'_1.mp hi
  exact readAt_cons_of_not_covers (by omega) (by simp [covers]; omega) patches text

/-- Under a replacement nothing but its text is written. -/
theorem flatMap_readAt_replacement {p : Patch} {patches : List Patch} (hp : p.start < p.stop)
    (h : ∀ q ∈ patches, p.stop ≤ q.start) (text : Text) :
    (List.range' p.start (p.stop - p.start)).flatMap (readAt (p :: patches) text) = p.text := by
  obtain ⟨n, hn⟩ : ∃ n, p.stop - p.start = n + 1 := ⟨p.stop - p.start - 1, by omega⟩
  -- Past its start the replacement covers every character, and no other patch starts there.
  have hRest : (List.range' (p.start + 1) n).flatMap (readAt (p :: patches) text) = [] := by
    rw [List.flatMap_eq_nil_iff]
    intro k hk
    obtain ⟨hLow, hHigh⟩ := List.mem_range'_1.mp hk
    have hNe : ∀ q ∈ p :: patches, q.start ≠ k := by
      intro q hq
      rcases List.mem_cons.mp hq with rfl | hq
      · omega
      · have := h q hq
        omega
    have hCovers : p.covers k = true := by
      simp [covers]
      omega
    simp [readAt_of_start_ne hNe, keptAt, hCovers]
  have hIns : p.isInsertion = false := by
    simp [isInsertion]
    omega
  rw [hn, List.range'_succ, List.flatMap_cons, hRest, readAt_cons_start (by omega) h, hIns]
  simp

/-- **A landing step.** A patch that lies to the left of all that have landed adds itself to the
reading: its offsets, resolved against the old text, are still right. -/
theorem land_readThrough {p : Patch} {patches : List Patch} {text : Text} (hp : p.start ≤ p.stop)
    (hLen : p.stop ≤ text.length) (h : ∀ q ∈ patches, p.stop ≤ q.start) :
    land (readThrough patches text) p = readThrough (p :: patches) text := by
  have hTakeLen : (text.take p.stop).length = p.stop := by
    rw [List.length_take]
    omega
  -- All that has landed is to the right, so up to the end of the patch the text is still the old.
  have hLanded : land (readThrough patches text) p =
      text.take p.start ++ (p.text ++ readFrom patches text p.stop) := by
    rw [land, readThrough_eq_take_append hLen h, List.drop_left' hTakeLen,
      List.take_append_of_le_length (by omega), List.take_take, Nat.min_eq_left hp,
      List.append_assoc]
  have hAll : ∀ q ∈ p :: patches, p.start ≤ q.start := by
    intro q hq
    rcases List.mem_cons.mp hq with rfl | hq
    · exact Nat.le_refl _
    · exact Nat.le_trans hp (h q hq)
  rw [hLanded, readThrough_eq_take_append (by omega) hAll]
  congr 1
  rcases Nat.eq_or_lt_of_le hp with hEq | hLt
  · -- An insertion: its text stands in front of what is read at its offset.
    have hIns : p.isInsertion = true := by simp [isInsertion, hEq]
    rw [← hEq, readFrom_succ (by omega) (p :: patches),
      readFrom_succ (by omega) patches,
      readFrom_cons_of_lt (Nat.lt_succ_self _) (by omega), readAt_cons_start hp h, hIns]
    simp
  · -- A replacement: its text, and then the reading past its end.
    rw [readFrom_eq_append (Nat.le_of_lt hLt) (by omega), readFrom_cons_of_lt hLt (Nat.le_refl _),
      flatMap_readAt_replacement hLt h]

/-! ## The order of landing -/

theorem landsBefore_total (p q : Patch) : p.landsBefore q = true ∨ q.landsBefore p = true := by
  unfold landsBefore
  cases hp : p.isInsertion <;> cases hq : q.isInsertion <;> simp <;> omega

theorem landsBefore_trans {p q r : Patch} (hpq : p.landsBefore q = true)
    (hqr : q.landsBefore r = true) : p.landsBefore r = true := by
  unfold landsBefore at *
  cases hp : p.isInsertion <;> cases hq : q.isInsertion <;> cases hr : r.isInsertion <;>
    simp [hp, hq, hr] at hpq hqr ⊢ <;> omega

theorem pairwise_place (p : Patch) {ps : List Patch}
    (h : ps.Pairwise fun p q => p.landsBefore q = true) :
    (place p ps).Pairwise fun p q => p.landsBefore q = true := by
  induction ps with
  | nil => simp [place]
  | cons q rest ih =>
    obtain ⟨hq, hRest⟩ := List.pairwise_cons.mp h
    rw [place]
    split
    · next hpq =>
      -- In front of `q`, and so of everything that comes after it.
      refine List.pairwise_cons.mpr ⟨?_, h⟩
      intro r hr
      rcases List.mem_cons.mp hr with rfl | hr
      · exact hpq
      · exact landsBefore_trans hpq (hq r hr)
    · next hpq =>
      -- Somewhere behind `q`, which then lands before it.
      refine List.pairwise_cons.mpr ⟨?_, ih hRest⟩
      intro r hr
      rcases List.mem_cons.mp ((place_perm p rest).mem_iff.mp hr) with rfl | hr
      · exact (landsBefore_total q r).resolve_right hpq
      · exact hq r hr

theorem pairwise_landing (ps : List Patch) :
    (landing ps).Pairwise fun p q => p.landsBefore q = true := by
  induction ps with
  | nil => exact .nil
  | cons p rest ih => exact pairwise_place p ih

/-- Of two patches without a conflict, the one that lands later ends where the other starts, or
to the left of it. -/
theorem stop_le_start_of_landsBefore {p q : Patch} (hq : q.start ≤ q.stop)
    (hLands : q.landsBefore p = true) (hApart : p.conflicts q = false) : p.stop ≤ q.start := by
  unfold landsBefore at hLands
  unfold conflicts at hApart
  cases hpi : p.isInsertion <;> cases hqi : q.isInsertion <;>
    simp [hpi, hqi] at hLands hApart <;> simp [isInsertion] at hpi hqi <;> omega

/-- Patches that each end where the next one starts, or to the left of it, landed from the last to
the first. -/
theorem foldr_land {text : Text} {ps : List Patch}
    (hInside : ∀ p ∈ ps, p.start ≤ p.stop ∧ p.stop ≤ text.length)
    (hOrder : ps.Pairwise fun p q => p.stop ≤ q.start) :
    ps.foldr (fun p t => land t p) text = readThrough ps text := by
  -- From the right: what has landed is the reading for the rest, and the next patch is left of it.
  induction ps with
  | nil => exact (readThrough_nil text).symm
  | cons p rest ih =>
    obtain ⟨hp, hRest⟩ := List.pairwise_cons.mp hOrder
    obtain ⟨hLe, hLen⟩ := hInside p (List.mem_cons_self ..)
    rw [List.foldr_cons, ih (fun q hq => hInside q (List.mem_cons_of_mem _ hq)) hRest]
    exact land_readThrough hLe hLen hp

/-! ## The reading does not depend on the order of the patches -/

theorem pairwise_conflicts_of_perm {ps qs : List Patch} (h : qs.Perm ps)
    (hApart : ps.Pairwise fun p q => p.conflicts q = false) :
    qs.Pairwise fun p q => p.conflicts q = false := by
  rw [h.pairwise_iff fun {p q} hpq => by rw [conflicts_comm, hpq]]
  exact hApart

/-- Patches without conflicts hold at most one replacement that starts at an offset. -/
theorem pairwise_filter_replacement {ps : List Patch} (hForward : ∀ p ∈ ps, p.start ≤ p.stop)
    (hApart : ps.Pairwise fun p q => p.conflicts q = false) (k : Nat) :
    (ps.filter fun p => !p.isInsertion && p.start == k).Pairwise fun _ _ => False := by
  rw [List.pairwise_filter]
  refine hApart.imp_of_mem ?_
  intro p q hp hq hpq hpk hqk
  have hp := hForward p hp
  have hq := hForward q hq
  simp only [Bool.and_eq_true, Bool.not_eq_true', beq_iff_eq] at hpk hqk
  simp [conflicts, hpk.1, hqk.1] at hpq
  simp [isInsertion] at hpk hqk
  omega

theorem replacedAt_perm {ps qs : List Patch} (hPerm : qs.Perm ps)
    (hForward : ∀ p ∈ ps, p.start ≤ p.stop)
    (hApart : ps.Pairwise fun p q => p.conflicts q = false) (k : Nat) :
    replacedAt qs k = replacedAt ps k := by
  -- Lists in which no two members stand together have at most one member.
  have hOne := pairwise_filter_replacement (fun p hp => hForward p (hPerm.mem_iff.mp hp))
    (pairwise_conflicts_of_perm hPerm hApart) k
  unfold replacedAt
  congr 1
  exact List.Perm.eq_of_pairwise (fun _ _ _ _ h _ => False.elim h) hOne
    (pairwise_filter_replacement hForward hApart k) (hPerm.filter _)

/-- **The order of patches** without conflicts matters to the reading only as far as it is the order
of the insertions at one offset. -/
theorem readThrough_perm {ps qs : List Patch} (hPerm : qs.Perm ps)
    (hForward : ∀ p ∈ ps, p.start ≤ p.stop)
    (hApart : ps.Pairwise fun p q => p.conflicts q = false)
    (hInserted : ∀ k, insertedAt qs k = insertedAt ps k) (text : Text) :
    readThrough qs text = readThrough ps text := by
  have hRead : readAt qs text = readAt ps text := by
    funext k
    have hKept : keptAt qs text k = keptAt ps text k := by
      rw [keptAt, keptAt, hPerm.any_eq]
    rw [readAt, readAt, hInserted k, replacedAt_perm hPerm hForward hApart k, hKept]
  rw [readThrough, readThrough, readFrom, readFrom, hRead]

/-! ## All landing steps -/

theorem reverse_landing_perm (ps : List Patch) : (landing ps).reverse.Perm ps :=
  (List.reverse_perm _).trans (landing_perm ps)

theorem pairwise_reverse_landing (ps : List Patch) :
    (landing ps).reverse.Pairwise fun p q => q.landsBefore p = true := by
  rw [List.pairwise_reverse]
  exact pairwise_landing ps

/-- The insertions at one offset come out of the landing order in the order of the batch. -/
theorem insertedAt_reverse_landing {ps : List Patch}
    (hNumbered : ps.Pairwise fun p q => p.order < q.order) (k : Nat) :
    insertedAt (landing ps).reverse k = insertedAt ps k := by
  have hPerm := reverse_landing_perm ps
  have hDistinct : (landing ps).reverse.Pairwise fun p q => p.order ≠ q.order := by
    rw [hPerm.pairwise_iff fun h => h.symm]
    exact hNumbered.imp Nat.ne_of_lt
  -- Both lists count upward through the batch, and they have the same members.
  have hUpward : ((landing ps).reverse.filter fun p => p.isInsertion && p.start == k).Pairwise
      fun p q => p.order < q.order := by
    rw [List.pairwise_filter]
    refine (hDistinct.and (pairwise_reverse_landing ps)).imp ?_
    rintro p q ⟨hNe, hLands⟩ hp hq
    simp only [Bool.and_eq_true, beq_iff_eq] at hp hq
    simp [landsBefore, hp, hq] at hLands
    omega
  unfold insertedAt
  congr 1
  exact (hPerm.filter _).eq_of_pairwise
    (fun p q _ _ hpq hqp => absurd hpq (Nat.lt_asymm hqp)) hUpward (hNumbered.filter _)

/-- Without conflicts the landing order, reversed, goes from left to right through the text. -/
theorem pairwise_stop_le_reverse_landing {ps : List Patch} (hForward : ∀ p ∈ ps, p.start ≤ p.stop)
    (hApart : ps.Pairwise fun p q => p.conflicts q = false) :
    (landing ps).reverse.Pairwise fun p q => p.stop ≤ q.start := by
  have hPerm := reverse_landing_perm ps
  refine ((pairwise_reverse_landing ps).and
    (pairwise_conflicts_of_perm hPerm hApart)).imp_of_mem ?_
  rintro p q - hq ⟨hpq, hpq'⟩
  exact stop_le_start_of_landsBefore (hForward q (hPerm.mem_iff.mp hq)) hpq hpq'

/-- **Landing back to front is reading from left to right.** Patches numbered as in their batch and
without conflicts, landed one after the other, leave what one reading of the old text writes. -/
theorem foldl_land_landing {text : Text} {ps : List Patch}
    (hNumbered : ps.Pairwise fun p q => p.order < q.order)
    (hInside : ∀ p ∈ ps, p.start ≤ p.stop ∧ p.stop ≤ text.length)
    (hApart : ps.Pairwise fun p q => p.conflicts q = false) :
    (landing ps).foldl land text = readThrough ps text := by
  have hPerm := reverse_landing_perm ps
  have hForward : ∀ p ∈ ps, p.start ≤ p.stop := fun p hp => (hInside p hp).1
  have hInside' : ∀ p ∈ (landing ps).reverse, p.start ≤ p.stop ∧ p.stop ≤ text.length :=
    fun p hp => hInside p (hPerm.mem_iff.mp hp)
  calc (landing ps).foldl land text
      = (landing ps).reverse.foldr (fun p t => land t p) text := by rw [List.foldr_reverse]
    _ = readThrough (landing ps).reverse text :=
        foldr_land hInside' (pairwise_stop_le_reverse_landing hForward hApart)
    _ = readThrough ps text := readThrough_perm hPerm hForward hApart
        (insertedAt_reverse_landing hNumbered) text

-- Insertions at the two ends of a replacement stand around it.
example :
    readThrough [⟨1, 3, "XY".toList, 0⟩, ⟨3, 3, "]".toList, 1⟩, ⟨1, 1, "[".toList, 2⟩]
      "abcd".toList = "a[XY]d".toList := by
  decide

end Outliner.Patch
