import Mathlib.Data.List.Sort
import Outliner.Proofs.ListItem.Layout

/-!
# Outliner — runs of items, without the walks

A run is found by walking up and down, and by counting blank lines on the way. What it is does not
depend on the walks: two items are in one run when nothing between them ends it, in whatever
direction one looks. So a run is the same from each of its members, and a new item that stands right
beside a member joins it.

* `ListItem.kinds` — what each line of a buffer means to a run.
* `ListItem.Clear` — nothing in a stretch of lines ends a run.
* `ListItem.Joined` — nothing between two lines ends a run.
* `ListItem.withMember` — the members of a run and a new one.

Main results:

* `mem_walk_iff` — a walk meets exactly the members that it has a clear way to.
* `mem_run_iff`, `run_eq_of_mem` — a run is the members that are joined to one of them, and the same
  from each of them.
* `run_class` — so the runs at one indentation are classes of items.
* `run_of_putIn` — a new item right beside a run is its new member.
* `mem_run_of_putIn_iff`, `run_of_putIn_apart` — a new item further down may stay apart from it.
-/

namespace Outliner

namespace ListItem

variable {config : Config} {lines : Lines} {limit indent i j k m n q : Nat}
  {kind kind' : Nat → RunLine}

/-! ## Stretches of lines -/

/-- What each line means to a run at the given indentation. -/
def kinds (indent : Nat) (lines : Lines) (n : Nat) : RunLine :=
  runLine indent (lines.lineAt n)

/-- From line `i` up to line `j` no line ends a run, and there are not as many blank lines in a row
as the limit allows for; a limit of zero allows for one. -/
structure Clear (limit : Nat) (kind : Nat → RunLine) (i j : Nat) : Prop where
  passable : ∀ m, i ≤ m → m < j → ∀ exit, kind m ≠ .stop exit
  gapless : ∀ k, i ≤ k → k + max limit 1 ≤ j → ∃ m, k ≤ m ∧ m < k + max limit 1 ∧ kind m ≠ .blank

theorem clear_of_le (h : j ≤ i) : Clear limit kind i j :=
  ⟨fun m _ _ => by omega, fun k _ _ => by omega⟩

theorem Clear.mono {i' j' : Nat} (h : Clear limit kind i j) (hi : i ≤ i') (hj : j' ≤ j) :
    Clear limit kind i' j' where
  passable m hm hm' := h.passable m (by omega) (by omega)
  gapless k hk hk' := h.gapless k (by omega) (by omega)

theorem Clear.congr (hKind : ∀ m, i ≤ m → m < j → kind m = kind' m) (h : Clear limit kind i j) :
    Clear limit kind' i j where
  passable m hm hm' := by
    rw [← hKind m hm hm']
    exact h.passable m hm hm'
  gapless k hk hk' := by
    obtain ⟨m, hm, hm', hBlank⟩ := h.gapless k hk hk'
    refine ⟨m, hm, hm', ?_⟩
    rw [← hKind m (by omega) (by omega)]
    exact hBlank

/-- A stretch is clear wherever its lines stand. -/
theorem clear_add_iff (a : Nat) :
    Clear limit (fun k => kind (a + k)) i j ↔ Clear limit kind (a + i) (a + j) := by
  constructor
  · intro h
    refine ⟨fun m hm hm' exit => ?_, fun k hk hk' => ?_⟩
    · have := h.passable (m - a) (by omega) (by omega) exit
      rwa [Nat.add_sub_cancel' (by omega)] at this
    · obtain ⟨m, hm, hm', hBlank⟩ := h.gapless (k - a) (by omega) (by omega)
      exact ⟨a + m, by omega, by omega, hBlank⟩
  · intro h
    refine ⟨fun m hm hm' exit => h.passable (a + m) (by omega) (by omega) exit, fun k hk hk' => ?_⟩
    obtain ⟨m, hm, hm', hBlank⟩ := h.gapless (a + k) (by omega) (by omega)
    refine ⟨m - a, by omega, by omega, ?_⟩
    rwa [Nat.add_sub_cancel' (by omega)]

/-- A stretch is clear from both ends. -/
theorem clear_reverse_iff (hk : k ≤ n) :
    Clear limit (fun i => kind (n - 1 - i)) 0 k ↔ Clear limit kind (n - k) n := by
  -- Step `i` upward from line `n` is line `n - 1 - i`; a row that starts at one of them ends there.
  constructor
  · intro h
    refine ⟨fun m hm hm' exit => ?_, fun j hj hj' => ?_⟩
    · have := h.passable (n - 1 - m) (by omega) (by omega) exit
      rwa [show n - 1 - (n - 1 - m) = m by omega] at this
    · obtain ⟨m, hm, hm', hBlank⟩ := h.gapless (n - j - max limit 1) (by omega) (by omega)
      exact ⟨n - 1 - m, by omega, by omega, hBlank⟩
  · intro h
    refine ⟨fun m hm hm' exit => h.passable (n - 1 - m) (by omega) (by omega) exit,
      fun j hj hj' => ?_⟩
    obtain ⟨m, hm, hm', hBlank⟩ := h.gapless (n - j - max limit 1) (by omega) (by omega)
    refine ⟨n - 1 - m, by omega, by omega, ?_⟩
    rwa [show n - 1 - (n - 1 - m) = m by omega]

/-- The line is neither blank nor ends a run. -/
def RunLine.Solid (line : RunLine) : Prop :=
  line ≠ .blank ∧ ∀ exit, line ≠ .stop exit

theorem solid_member : RunLine.member.Solid :=
  ⟨by simp, by simp⟩

theorem solid_nested : RunLine.nested.Solid :=
  ⟨by simp, by simp⟩

/-- At a solid line a stretch falls into two that have nothing to do with each other. -/
theorem clear_iff_of_solid (him : i ≤ m) (hmj : m < j) (hSolid : (kind m).Solid) :
    Clear limit kind i j ↔ Clear limit kind i m ∧ Clear limit kind (m + 1) j := by
  constructor
  · intro h
    exact ⟨h.mono (Nat.le_refl i) (Nat.le_of_lt hmj), h.mono (by omega) (Nat.le_refl j)⟩
  · rintro ⟨hFront, hBack⟩
    refine ⟨fun x hx hx' => ?_, fun k hk hk' => ?_⟩
    · rcases Nat.lt_trichotomy x m with hxm | rfl | hxm
      · exact hFront.passable x hx hxm
      · exact hSolid.2
      · exact hBack.passable x hxm hx'
    · -- Lines in a row are on one side of the solid line, or it is one of them.
      rcases Nat.lt_or_ge m k with hmk | hkm
      · exact hBack.gapless k hmk hk'
      · rcases Nat.lt_or_ge m (k + max limit 1) with hm | hm
        · exact ⟨m, hkm, hm, hSolid.1⟩
        · exact hFront.gapless k hk hm

/-! ## What a walk meets -/

/-- A walk has come to step `i` of the lines, the way is clear, and the last `blanks` lines on it are
the row of blank lines that ends there. -/
structure Walked (limit : Nat) (kind : Nat → RunLine) (blanks i : Nat) : Prop where
  le : blanks ≤ i
  clear : Clear limit kind 0 i
  row : ∀ k, i - blanks ≤ k → k < i → kind k = .blank
  edge : blanks < i → kind (i - blanks - 1) ≠ .blank

theorem walked_zero (limit : Nat) (kind : Nat → RunLine) : Walked limit kind 0 0 where
  le := Nat.le_refl 0
  clear := clear_of_le (Nat.le_refl 0)
  row k _ hk := absurd hk (Nat.not_lt_zero k)
  edge h := absurd h (Nat.lt_irrefl 0)

section Walked

variable {blanks : Nat} (h : Walked limit kind blanks i)

include h

/-- A step over a line that is not blank ends the row. -/
theorem Walked.solid (hSolid : (kind i).Solid) : Walked limit kind 0 (i + 1) where
  le := Nat.zero_le _
  clear := (clear_iff_of_solid (Nat.zero_le i) (Nat.lt_succ_self i) hSolid).mpr
    ⟨h.clear, clear_of_le (Nat.le_refl _)⟩
  row k hk hk' := by omega
  edge _ := hSolid.1

/-- A step over a blank line makes the row longer. -/
theorem Walked.blank (hBlank : kind i = .blank) (hLimit : blanks + 1 < limit) :
    Walked limit kind (blanks + 1) (i + 1) where
  le := Nat.succ_le_succ h.le
  clear := by
    refine ⟨fun x hx hx' => ?_, fun k hk hk' => ?_⟩
    · rcases Nat.eq_or_lt_of_le (Nat.le_of_lt_succ hx') with rfl | hx'
      · simp [hBlank]
      · exact h.clear.passable x hx hx'
    · -- A row of the limit's length that ends here reaches over the edge of the one there is.
      rcases Nat.eq_or_lt_of_le hk' with hEnd | hk'
      · exact ⟨i - blanks - 1, by omega, by omega, h.edge (by omega)⟩
      · exact h.clear.gapless k hk (by omega)
  row k hk hk' := by
    rcases Nat.eq_or_lt_of_le (Nat.le_of_lt_succ hk') with rfl | hk'
    · exact hBlank
    · exact h.row k (by omega) hk'
  edge hb := by
    rw [show i + 1 - (blanks + 1) - 1 = i - blanks - 1 by omega]
    exact h.edge (by omega)

/-- Past a row as long as the limit there is no clear way. -/
theorem Walked.not_clear (hBlank : kind i = .blank) (hLimit : limit ≤ blanks + 1) (hk : i < k) :
    ¬Clear limit kind 0 k := by
  intro hFar
  obtain ⟨b, hb, hb', hNotBlank⟩ := hFar.gapless (i + 1 - max limit 1) (by omega)
    (by have := h.le; omega)
  apply hNotBlank
  rcases Nat.eq_or_lt_of_le (Nat.le_of_lt_succ (by have := h.le; omega : b < i + 1)) with rfl | hbi
  · exact hBlank
  · exact h.row b (by omega) hbi

end Walked

theorem exists_ahead_iff {count : Nat} {P : Nat → Prop} :
    (∃ k, i ≤ k ∧ k < i + (count + 1) ∧ P k) ↔
      P i ∨ ∃ k, i + 1 ≤ k ∧ k < i + 1 + count ∧ P k := by
  constructor
  · rintro ⟨k, hk, hk', hP⟩
    rcases Nat.eq_or_lt_of_le hk with rfl | hk
    · exact Or.inl hP
    · exact Or.inr ⟨k, hk, by omega, hP⟩
  · rintro (hP | ⟨k, hk, hk', hP⟩)
    · exact ⟨i, Nat.le_refl i, by omega, hP⟩
    · exact ⟨k, by omega, by omega, hP⟩

/-- **What a walk meets:** exactly the members that it has a clear way to. The walk visits the lines
`g 0`, `g 1` and so on, and has come to step `i`. -/
theorem mem_walk_iff {g : Nat → Nat} {blanks count : Nat}
    (h : Walked limit (fun k => kinds indent lines (g k)) blanks i) :
    m ∈ (walk limit indent blanks
        ((List.range' i count).map fun k => (lines.lineAt (g k), g k))).1 ↔
      ∃ k, i ≤ k ∧ k < i + count ∧ g k = m ∧ kinds indent lines m = .member ∧
        Clear limit (fun k => kinds indent lines (g k)) 0 k := by
  -- On the number of lines ahead: each step keeps what is known of the way so far.
  induction count generalizing i blanks with
  | zero =>
    simp only [List.range'_zero, List.map_nil, walk, List.not_mem_nil, false_iff]
    rintro ⟨k, hk, hk', -⟩
    omega
  | succ count ih =>
    have hKind : runLine indent (lines.lineAt (g i)) = kinds indent lines (g i) := rfl
    -- What is no member is not met here.
    have hElsewhere : kinds indent lines (g i) ≠ .member →
        ¬(g i = m ∧ kinds indent lines m = .member ∧
          Clear limit (fun k => kinds indent lines (g k)) 0 i) := by
      rintro hNot ⟨rfl, hMember, -⟩
      exact hNot hMember
    rw [List.range'_succ, List.map_cons, walk, exists_ahead_iff, hKind]
    split
    · next hBlank =>
      rw [or_iff_right (hElsewhere (by simp [hBlank]))]
      split
      · next hLimit =>
        simp only [List.not_mem_nil, false_iff]
        rintro ⟨k, hk, -, -, -, hFar⟩
        exact h.not_clear hBlank hLimit hk hFar
      · next hLimit => exact ih (h.blank hBlank (Nat.lt_of_not_le hLimit))
    · next hMember =>
      have hRest := ih (h.solid (show RunLine.Solid (kinds indent lines (g i)) from
        hMember ▸ solid_member))
      simp only [List.mem_cons, hRest]
      apply or_congr_left
      constructor
      · rintro rfl
        exact ⟨rfl, hMember, h.clear⟩
      · rintro ⟨rfl, -⟩
        rfl
    · next hNested =>
      rw [or_iff_right (hElsewhere (by simp [hNested]))]
      exact ih (h.solid (show RunLine.Solid (kinds indent lines (g i)) from
        hNested ▸ solid_nested))
    · next exit hStop =>
      rw [or_iff_right (hElsewhere (by simp [hStop]))]
      simp only [List.not_mem_nil, false_iff]
      rintro ⟨k, hk, -, -, -, hFar⟩
      exact hFar.passable i (Nat.zero_le i) hk exit hStop

theorem lt_length_of_kinds (h : kinds indent lines m = .member) : m < lines.length := by
  obtain ⟨item, hp, -⟩ := runLine_eq_member_iff.mp h
  exact lt_length_of_parse? hp

theorem mem_walkDown_iff :
    m ∈ (walkDown limit indent lines n).1 ↔
      n < m ∧ kinds indent lines m = .member ∧ Clear limit (kinds indent lines) (n + 1) m := by
  rw [walkDown, Lines.onward_eq_map, mem_walk_iff (walked_zero _ _)]
  constructor
  · rintro ⟨k, -, -, rfl, hMember, hClear⟩
    exact ⟨by omega, hMember, (clear_add_iff (n + 1)).mp hClear⟩
  · rintro ⟨hnm, hMember, hClear⟩
    have hm := lt_length_of_kinds hMember
    refine ⟨m - (n + 1), Nat.zero_le _, by omega, by omega, hMember, (clear_add_iff (n + 1)).mpr ?_⟩
    rwa [Nat.add_zero, Nat.add_sub_cancel' (by omega)]

theorem mem_walkUp_iff (hn : n ≤ lines.length) :
    m ∈ (walkUp limit indent lines n).1 ↔
      m < n ∧ kinds indent lines m = .member ∧ Clear limit (kinds indent lines) (m + 1) n := by
  have hMissing : n - lines.length = 0 := Nat.sub_eq_zero_of_le hn
  simp only [walkUp, hMissing, Nat.lt_irrefl, false_and, if_false]
  rw [Lines.above_eq_map hn, mem_walk_iff (walked_zero _ _)]
  constructor
  · -- The steps that the walk has made upward are the lines below the member.
    rintro ⟨k, -, hk, rfl, hMember, hClear⟩
    refine ⟨by omega, hMember, ?_⟩
    rw [show n - 1 - k + 1 = n - k by omega]
    exact (clear_reverse_iff (by omega)).mp hClear
  · rintro ⟨hmn, hMember, hClear⟩
    refine ⟨n - 1 - m, Nat.zero_le _, by omega, by omega, hMember,
      (clear_reverse_iff (by omega)).mpr ?_⟩
    rwa [show n - (n - 1 - m) = m + 1 by omega]

theorem pairwise_walkUp (limit indent : Nat) (lines : Lines) (n : Nat) :
    (walkUp limit indent lines n).1.Pairwise (· > ·) := by
  rw [walkUp]
  split
  · exact .nil
  · exact (List.pairwise_map.mpr (Lines.pairwise_above lines n)).sublist (walk_sublist _ _ _ _)

/-! ## Runs -/

/-- Nothing between the two lines ends a run. -/
def Joined (limit : Nat) (kind : Nat → RunLine) (m n : Nat) : Prop :=
  Clear limit kind (min m n + 1) (max m n)

theorem joined_of_le (h : m ≤ n) : Joined limit kind m n ↔ Clear limit kind (m + 1) n := by
  rw [Joined, Nat.min_eq_left h, Nat.max_eq_right h]

theorem joined_of_ge (h : n ≤ m) : Joined limit kind m n ↔ Clear limit kind (n + 1) m := by
  rw [Joined, Nat.min_eq_right h, Nat.max_eq_left h]

theorem Joined.symm (h : Joined limit kind m n) : Joined limit kind n m := by
  rwa [Joined, Nat.min_comm, Nat.max_comm]

theorem Joined.trans (hkm : Joined limit kind k m) (hMember : kind m = .member)
    (hmn : Joined limit kind m n) : Joined limit kind k n := by
  -- The member is in front of both, behind both, or between them.
  rcases Nat.lt_or_ge (min k n) m with hLow | hLow
  · rcases Nat.lt_or_ge m (max k n) with hHigh | hHigh
    · refine (clear_iff_of_solid (m := m) (by omega) hHigh (hMember ▸ solid_member)).mpr ?_
      rcases Nat.lt_or_ge k m with hk | hk
      · exact ⟨hkm.mono (by omega) (by omega), hmn.mono (by omega) (by omega)⟩
      · exact ⟨hmn.mono (by omega) (by omega), hkm.mono (by omega) (by omega)⟩
    · rcases Nat.le_total k n with hkn | hkn
      · exact hkm.mono (by omega) (by omega)
      · exact hmn.mono (by omega) (by omega)
  · rcases Nat.le_total k n with hkn | hkn
    · exact hmn.mono (by omega) (by omega)
    · exact hkm.mono (by omega) (by omega)

/-- The first line of a run is the first member that is joined to one of them. -/
theorem exists_run_eq (config : Config) (hMember : kinds indent lines n = .member) :
    ∃ first, run config lines n indent =
        first :: (walkDown config.blankRunLimit.toNat indent lines first).1 ∧
      first ≤ n ∧ kinds indent lines first = .member ∧
      Clear config.blankRunLimit.toNat (kinds indent lines) (first + 1) n ∧
      ∀ m, m < n → kinds indent lines m = .member →
        Clear config.blankRunLimit.toNat (kinds indent lines) (m + 1) n → first ≤ m := by
  have hn := Nat.le_of_lt (lt_length_of_kinds hMember)
  have hMem : ∀ m, m ∈ (walkUp config.blankRunLimit.toNat indent lines n).1 ↔ _ :=
    fun m => mem_walkUp_iff hn
  have hDown := pairwise_walkUp config.blankRunLimit.toNat indent lines n
  refine ⟨_, rfl, ?_⟩
  -- The walk upward meets the first member last, unless the item is the first one itself.
  generalize (walkUp config.blankRunLimit.toNat indent lines n).1 = met at hMem hDown ⊢
  cases hLast : met.getLast? with
  | none =>
    have hNone := List.getLast?_eq_none_iff.mp hLast
    refine ⟨Nat.le_refl n, hMember, clear_of_le (by simp), fun m hmn hm hClear => ?_⟩
    have := (hMem m).mpr ⟨hmn, hm, hClear⟩
    rw [hNone] at this
    contradiction
  | some first =>
    obtain ⟨front, rfl⟩ := List.getLast?_eq_some_iff.mp hLast
    obtain ⟨hLt, hFirst, hClear⟩ := (hMem first).mp (by simp)
    refine ⟨Nat.le_of_lt hLt, hFirst, hClear, fun m hmn hm hClear' => ?_⟩
    rcases List.mem_append.mp ((hMem m).mpr ⟨hmn, hm, hClear'⟩) with hFront | hSame
    · exact Nat.le_of_lt ((List.pairwise_append.mp hDown).2.2 m hFront first (by simp))
    · exact Nat.le_of_eq (List.mem_singleton.mp hSame).symm

/-- **A run** is made of the members that are joined to one of them. -/
theorem mem_run_iff (hMember : kinds indent lines n = .member) :
    m ∈ run config lines n indent ↔
      kinds indent lines m = .member ∧
        Joined config.blankRunLimit.toNat (kinds indent lines) m n := by
  obtain ⟨first, hRun, hFirst, hFirstMember, hUp, hLeast⟩ := exists_run_eq config hMember
  rw [hRun, List.mem_cons, mem_walkDown_iff]
  constructor
  · rintro (rfl | ⟨hLt, hm, hClear⟩)
    · exact ⟨hFirstMember, (joined_of_le hFirst).mpr hUp⟩
    · refine ⟨hm, ?_⟩
      -- Both ways start in front of the two lines, so what is between them is on the longer one.
      rcases Nat.le_total m n with hmn | hnm
      · exact (joined_of_le hmn).mpr (hUp.mono (by omega) (Nat.le_refl n))
      · exact (joined_of_ge hnm).mpr (hClear.mono (by omega) (Nat.le_refl m))
  · rintro ⟨hm, hJoined⟩
    -- Above the item the first member is the least; below it the way leads on through the item.
    rcases Nat.lt_trichotomy m n with hmn | rfl | hnm
    · have hLow := hLeast m hmn hm ((joined_of_le (Nat.le_of_lt hmn)).mp hJoined)
      rcases Nat.eq_or_lt_of_le hLow with rfl | hLt
      · exact Or.inl rfl
      · exact Or.inr ⟨hLt, hm, hUp.mono (Nat.le_refl _) (Nat.le_of_lt hmn)⟩
    · rcases Nat.eq_or_lt_of_le hFirst with rfl | hLt
      · exact Or.inl rfl
      · exact Or.inr ⟨hLt, hm, hUp⟩
    · refine Or.inr ⟨by omega, hm, ?_⟩
      have hBehind := (joined_of_ge (Nat.le_of_lt hnm)).mp hJoined
      rcases Nat.eq_or_lt_of_le hFirst with rfl | hLt
      · exact hBehind
      · exact (clear_iff_of_solid hLt hnm (hMember ▸ solid_member)).mpr ⟨hUp, hBehind⟩

theorem mem_run_self (hMember : kinds indent lines n = .member) : n ∈ run config lines n indent :=
  (mem_run_iff hMember).mpr
    ⟨hMember, (joined_of_le (Nat.le_refl n)).mpr (clear_of_le (Nat.le_succ n))⟩

theorem length_run_le (hMember : kinds indent lines n = .member) :
    (run config lines n indent).length ≤ lines.length := by
  have hNodup : (run config lines n indent).Nodup :=
    (pairwise_run config lines n indent).imp fun h => Nat.ne_of_lt h
  have hLines : run config lines n indent ⊆ List.range lines.length := fun m hm =>
    List.mem_range.mpr (lt_length_of_kinds ((mem_run_iff hMember).mp hm).1)
  simpa using (List.subperm_of_subset hNodup hLines).length_le

/-- Every member of a run has the same run. -/
theorem run_eq_of_mem (hMember : kinds indent lines n = .member)
    (hm : m ∈ run config lines n indent) :
    run config lines m indent = run config lines n indent := by
  obtain ⟨hMember', hJoined⟩ := (mem_run_iff hMember).mp hm
  refine (pairwise_run config lines m indent).eq_of_mem_iff (pairwise_run config lines n indent)
    fun k => ?_
  rw [mem_run_iff hMember, mem_run_iff hMember']
  apply and_congr_right'
  exact ⟨fun h => h.trans hMember' hJoined, fun h => h.trans hMember hJoined.symm⟩

/-- Lines that mean the same to a run have the same runs. -/
theorem run_congr {lines' : Lines} (hKinds : ∀ m, kinds indent lines' m = kinds indent lines m)
    (hMember : kinds indent lines n = .member) :
    run config lines' n indent = run config lines n indent := by
  have hSame : kinds indent lines' = kinds indent lines := funext hKinds
  refine (pairwise_run config lines' n indent).eq_of_mem_iff (pairwise_run config lines n indent)
    fun m => ?_
  rw [mem_run_iff hMember, mem_run_iff (by rw [hSame]; exact hMember), hSame]

/-- **Runs are classes.** The run of an item at its own indentation goes down the lines and has the
item in it. Its members are items at that indentation, and every one of them has the same run. An
item at that indentation that is no member has a run apart from it. -/
theorem run_class (config : Config) {item : ListItem}
    (hParse : parse? (lines.lineAt n) = some item) :
    (run config lines n item.indent).Pairwise (· < ·) ∧
      n ∈ run config lines n item.indent ∧
      (∀ m ∈ run config lines n item.indent,
        (∃ member, parse? (lines.lineAt m) = some member ∧ member.indent = item.indent) ∧
          run config lines m item.indent = run config lines n item.indent) ∧
      ∀ m other, parse? (lines.lineAt m) = some other → other.indent = item.indent →
        m ∉ run config lines n item.indent →
          (run config lines m item.indent).Disjoint (run config lines n item.indent) := by
  have hMember : kinds item.indent lines n = .member :=
    runLine_eq_member_iff.mpr ⟨item, hParse, rfl⟩
  refine ⟨pairwise_run config lines n item.indent, mem_run_self hMember, fun m hm => ?_,
    fun m other hOther hIndent hApart k hkm hkn => hApart ?_⟩
  · exact ⟨runLine_eq_member_iff.mp ((mem_run_iff hMember).mp hm).1, run_eq_of_mem hMember hm⟩
  · -- A common member would make the two runs one.
    have hOtherMember : kinds item.indent lines m = .member :=
      runLine_eq_member_iff.mpr ⟨other, hOther, hIndent⟩
    rw [← run_eq_of_mem hMember hkn, run_eq_of_mem hOtherMember hkm]
    exact mem_run_self hOtherMember

/-- From the middle of a run with a nested item, a blank line and two kinds of markers. A limit of
zero ends the run at the blank line. -/
theorem run_class_mixed :
    let lines : Lines := ["- a".toList, "   - deep".toList, "2) b".toList, [], "- c".toList]
    run {} lines 2 0 = [0, 2, 4] ∧ run { blankRunLimit := 0 } lines 2 0 = [0, 2] ∧
      (∀ m ∈ [0, 2, 4], run {} lines m 0 = [0, 2, 4]) ∧
      (run { blankRunLimit := 0 } lines 4 0).Disjoint [0, 2] := by
  intro lines
  have hParse : parse? (lines.lineAt 2) = some ⟨0, .ordered 2 ')', none, "b".toList⟩ := by decide
  have hOther : parse? (lines.lineAt 4) = some ⟨0, .dash, none, "c".toList⟩ := by decide
  have hRun : run {} lines 2 0 = [0, 2, 4] := by decide
  have hShort : run { blankRunLimit := 0 } lines 2 0 = [0, 2] := by decide
  obtain ⟨-, -, hSame, -⟩ := run_class {} hParse
  obtain ⟨-, -, -, hApart⟩ := run_class { blankRunLimit := 0 } hParse
  refine ⟨hRun, hShort, fun m hm => ?_, ?_⟩
  · rw [← hRun] at hm ⊢
    exact (hSame m hm).2
  · rw [← hShort]
    exact hApart 4 _ hOther rfl (by rw [hShort]; decide)

/-! ## A line put in -/

/-- The members of a run and a new one on line `q`; those from there on have moved down. -/
def withMember (q : Nat) (members : List Nat) : List Nat :=
  members.filter (· < q) ++ q :: (members.filter (q ≤ ·)).map (· + 1)

theorem mem_withMember_iff {members : List Nat} :
    m ∈ withMember q members ↔ m = q ∨ ∃ k ∈ members, Lines.past q k = m := by
  simp only [withMember, List.mem_append, List.mem_cons, List.mem_map, List.mem_filter,
    decide_eq_true_eq]
  constructor
  · rintro (⟨hm, hLt⟩ | rfl | ⟨k, ⟨hk, hLe⟩, rfl⟩)
    · exact Or.inr ⟨m, hm, Lines.past_of_lt hLt⟩
    · exact Or.inl rfl
    · exact Or.inr ⟨k, hk, Lines.past_of_le hLe⟩
  · rintro (rfl | ⟨k, hk, rfl⟩)
    · exact Or.inr (Or.inl rfl)
    · rcases Nat.lt_or_ge k q with hLt | hLe
      · rw [Lines.past_of_lt hLt]
        exact Or.inl ⟨hk, hLt⟩
      · exact Or.inr (Or.inr ⟨k, ⟨hk, hLe⟩, (Lines.past_of_le hLe).symm⟩)

theorem pairwise_withMember {members : List Nat} (h : members.Pairwise (· < ·)) (q : Nat) :
    (withMember q members).Pairwise (· < ·) := by
  have hBelow : ((members.filter (q ≤ ·)).map (· + 1)).Pairwise (· < ·) :=
    List.pairwise_map.mpr ((h.filter _).imp (by omega))
  refine List.pairwise_append.mpr ⟨h.filter _, List.pairwise_cons.mpr ⟨?_, hBelow⟩, ?_⟩
  · intro m hm
    obtain ⟨k, hk, rfl⟩ := List.mem_map.mp hm
    have := (List.mem_filter.mp hk).2
    simp only [decide_eq_true_eq] at this
    omega
  · intro a ha b hb
    have ha := (List.mem_filter.mp ha).2
    rcases List.mem_cons.mp hb with rfl | hb
    · simpa using ha
    · obtain ⟨k, hk, rfl⟩ := List.mem_map.mp hb
      have hk := (List.mem_filter.mp hk).2
      simp only [decide_eq_true_eq] at ha hk
      omega

section PutIn

variable {lines' : Lines} (hOld : ∀ m, kinds indent lines' (Lines.past q m) = kinds indent lines m)

include hOld

/-- In front of the new line a stretch is clear as it was. -/
theorem clear_front_iff (hj : j ≤ q) :
    Clear limit (kinds indent lines') i j ↔ Clear limit (kinds indent lines) i j := by
  have hKind : ∀ m, i ≤ m → m < j → kinds indent lines' m = kinds indent lines m := by
    intro m _ hm
    rw [← hOld m, Lines.past_of_lt (by omega)]
  exact ⟨Clear.congr hKind, Clear.congr fun m hm hm' => (hKind m hm hm').symm⟩

/-- Behind the new line a stretch is clear as it was one line further up. -/
theorem clear_back_iff (hi : q ≤ i) :
    Clear limit (kinds indent lines') (i + 1) (j + 1) ↔ Clear limit (kinds indent lines) i j := by
  have hKind : ∀ m, i ≤ m → m < j → kinds indent lines' (1 + m) = kinds indent lines m := by
    intro m hm _
    rw [← hOld m, Lines.past_of_le (by omega), Nat.add_comm]
  rw [Nat.add_comm i, Nat.add_comm j, ← clear_add_iff]
  exact ⟨Clear.congr hKind, Clear.congr fun m hm hm' => (hKind m hm hm').symm⟩

/-- Without a clear way the run of the member stays as it was, and all of it is in front of the new
line. -/
theorem run_of_putIn_apart (hMember : kinds indent lines n = .member) (hnq : n < q)
    (hApart : ¬Clear config.blankRunLimit.toNat (kinds indent lines) (n + 1) q) :
    run config lines' n indent = run config lines n indent ∧
      ∀ m ∈ run config lines n indent, m < q := by
  have hMember' : kinds indent lines' n = .member := by
    rw [← hMember, ← hOld n, Lines.past_of_lt hnq]
  have hFront : ∀ m ∈ run config lines n indent, m < q := by
    intro m hm
    by_contra hqm
    obtain ⟨-, hJoined⟩ := (mem_run_iff hMember).mp hm
    exact hApart (((joined_of_ge (by omega)).mp hJoined).mono (Nat.le_refl _) (by omega))
  refine ⟨?_, hFront⟩
  refine (pairwise_run config lines' n indent).eq_of_mem_iff (pairwise_run config lines n indent)
    fun m' => ?_
  -- A line from the new one on has no clear way to the member.
  have hFar : ∀ m, q ≤ m → ¬Joined config.blankRunLimit.toNat (kinds indent lines') m n := by
    intro m hqm hJoined
    have hWay := ((joined_of_ge (by omega)).mp hJoined).mono (Nat.le_refl _) hqm
    exact hApart ((clear_front_iff hOld (Nat.le_refl q)).mp hWay)
  rw [mem_run_iff hMember']
  rcases Nat.lt_or_ge m' q with hLt | hGe
  · rw [mem_run_iff hMember, Joined, Joined, clear_front_iff hOld (by omega),
      ← hOld m', Lines.past_of_lt hLt]
  · exact iff_of_false (fun h => hFar m' hGe h.2) fun h => absurd (hFront m' h) (by omega)

variable (hNew : kinds indent lines' q = .member)

include hNew

/-- The members that the new item is joined to. -/
theorem past_mem_run_iff :
    Lines.past q m ∈ run config lines' q indent ↔
      kinds indent lines m = .member ∧
        if m < q then Clear config.blankRunLimit.toNat (kinds indent lines) (m + 1) q
        else Clear config.blankRunLimit.toNat (kinds indent lines) q m := by
  rw [mem_run_iff hNew, hOld]
  apply and_congr_right'
  split
  · next hm =>
    rw [Lines.past_of_lt hm, joined_of_le (Nat.le_of_lt hm), clear_front_iff hOld (Nat.le_refl q)]
  · next hm =>
    rw [Lines.past_of_le (Nat.le_of_not_lt hm), joined_of_ge (by omega),
      clear_back_iff hOld (Nat.le_refl q)]

/-- **A new item in a run.** It stands in front of a member, or there is a clear way to it from a
member above it and the line that it stands behind is not blank. Then the run of the new item is the
run of the member and the new item. -/
theorem run_of_putIn (hMember : kinds indent lines n = .member)
    (hPlace : q = n ∨ n < q ∧ Clear config.blankRunLimit.toNat (kinds indent lines) (n + 1) q ∧
      (kinds indent lines (q - 1)).Solid) :
    run config lines' q indent = withMember q (run config lines n indent) := by
  have hSolid : (kinds indent lines n).Solid := hMember ▸ solid_member
  -- Seen from the place of the new item, a member has a clear way when it has one to the old one.
  have hSame : ∀ m, (if m < q then Clear config.blankRunLimit.toNat (kinds indent lines) (m + 1) q
      else Clear config.blankRunLimit.toNat (kinds indent lines) q m) ↔
        Joined config.blankRunLimit.toNat (kinds indent lines) m n := by
    intro m
    rcases hPlace with rfl | ⟨hnq, hWay, hEdge⟩
    · -- The new item takes the place of the member, which is right behind it.
      split
      · next hm => exact (joined_of_le (Nat.le_of_lt hm)).symm
      · next hm =>
        rw [joined_of_ge (Nat.le_of_not_lt hm)]
        rcases Nat.eq_or_lt_of_le (Nat.le_of_not_lt hm) with rfl | hm
        · exact iff_of_true (clear_of_le (Nat.le_refl _)) (clear_of_le (by omega))
        · rw [clear_iff_of_solid (Nat.le_refl q) hm hSolid]
          exact and_iff_right (clear_of_le (Nat.le_refl q))
    · -- Upward the way leads through the member, downward over the line in front of the new item.
      split
      · next hm =>
        rcases Nat.lt_or_ge m n with hmn | hnm
        · rw [joined_of_le (Nat.le_of_lt hmn), clear_iff_of_solid (by omega) hnq hSolid]
          exact and_iff_left hWay
        · rw [joined_of_ge hnm]
          exact iff_of_true (hWay.mono (by omega) (Nat.le_refl q))
            (hWay.mono (Nat.le_refl _) (Nat.le_of_lt hm))
      · next hm =>
        rw [joined_of_ge (by omega)]
        rcases Nat.eq_or_lt_of_le (show n + 1 ≤ q by omega) with rfl | hnq
        · rfl
        · rw [clear_iff_of_solid (i := n + 1) (m := q - 1) (by omega) (by omega) hEdge,
            Nat.sub_add_cancel (by omega)]
          exact (and_iff_right (hWay.mono (Nat.le_refl _) (by omega))).symm
  refine (pairwise_run config lines' q indent).eq_of_mem_iff
    (pairwise_withMember (pairwise_run config lines n indent) q) fun m' => ?_
  rw [mem_withMember_iff]
  rcases Lines.eq_or_exists_past q m' with rfl | ⟨m, rfl⟩
  · refine iff_of_true ((mem_run_iff hNew).mpr ⟨hNew, ?_⟩) (Or.inl rfl)
    exact (joined_of_le (Nat.le_refl _)).mpr (clear_of_le (by omega))
  · rw [past_mem_run_iff hOld hNew, hSame, or_iff_right (Lines.past_ne q m), ← mem_run_iff hMember]
    exact ⟨fun hm => ⟨m, hm, rfl⟩, fun ⟨k, hk, hEq⟩ => Lines.past_injective q hEq ▸ hk⟩

/-- The new item is joined to a member above it exactly when there is a clear way. -/
theorem mem_run_of_putIn_iff (hMember : kinds indent lines n = .member) (hnq : n < q) :
    q ∈ run config lines' n indent ↔
      Clear config.blankRunLimit.toNat (kinds indent lines) (n + 1) q := by
  have hMember' : kinds indent lines' n = .member := by
    rw [← hMember, ← hOld n, Lines.past_of_lt hnq]
  rw [mem_run_iff hMember', joined_of_ge (Nat.le_of_lt hnq), clear_front_iff hOld (Nat.le_refl q)]
  exact and_iff_right hNew

end PutIn

end ListItem

end Outliner
