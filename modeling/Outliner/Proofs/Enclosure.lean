import Outliner.Proofs.Drawer
import Outliner.Proofs.Section

/-!
# Outliner — what lies between two marks

Whether a line is in a block or in a drawer is found out from that line, by two scans: one comes down
to it from the first line and remembers the mark that is open, the other goes on down from it to the
mark that closes. So every line asks anew, and nothing in the scans says that two lines get the same
answer. Here the answer is told from the side of the marks: there are pairs of marks, each pair
encloses a stretch of lines, and a line is held by the pair whose stretch it is in.

* `Lines.scanned`, `Lines.Marking` — what a scan has open at a line, and what a line does to it.
* `Block.Fences`, `Drawer.Markers` — a pair of marks.

Main results:

* `Marking.scanned_eq_some_iff` — what is open at a line was opened above and kept since.
* `Block.holding?_eq_some_iff`, `Drawer.holding?_eq_some_iff` — a line is held by the pair that it is
  between.
* `Block.holding?_uniform` — all lines of a block get the same answer, and no others do.
* `Drawer.holding?_iff_of_below?` — the drawer found from its heading is the one found from inside.
-/

namespace Outliner

variable {config : Config} {lines : Lines} {n m k : Nat} {f : Text → Bool}

/-! ## Scans that remember what is open -/

namespace Lines

variable {step : Option Nat → Text × Nat → Option Nat} {opens : Option Nat → Text → Prop}
  {keeps : Text → Prop}

/-- What a scan down from the first line has open when it comes to line `n`. -/
def scanned (step : Option Nat → Text × Nat → Option Nat) (lines : Lines) (n : Nat) : Option Nat :=
  (lines.numbered.take n).foldl step none

theorem scanned_succ (hn : n < lines.length) :
    scanned step lines (n + 1) = step (scanned step lines n) (lines.lineAt n, n) := by
  rw [scanned, take_numbered_succ hn, List.foldl_append]
  rfl

/-- Past the last line the scan has ended. -/
theorem scanned_succ_of_length_le (hn : lines.length ≤ n) :
    scanned step lines (n + 1) = scanned step lines n := by
  have hLength : lines.numbered.length ≤ n := by rwa [numbered, List.length_zipIdx]
  rw [scanned, scanned, List.take_of_length_le hLength,
    List.take_of_length_le (Nat.le_succ_of_le hLength)]

/-- What a line does to the mark that is open above it: it keeps it, or it is one itself and opens,
or nothing is open below it. Empty lines do nothing. -/
structure Marking (step : Option Nat → Text × Nat → Option Nat) (opens : Option Nat → Text → Prop)
    (keeps : Text → Prop) : Prop where
  step_iff : ∀ current line m k, step current (line, m) = some k ↔
    (current = some k ∧ keeps line) ∨ (m = k ∧ opens current line)
  keeps_nil : keeps []
  not_opens_nil : ∀ current, ¬opens current []

/-- **A step of the scan.** -/
theorem Marking.scanned_succ_iff (h : Marking step opens keeps) :
    scanned step lines (n + 1) = some k ↔
      (scanned step lines n = some k ∧ keeps (lines.lineAt n)) ∨
        (n = k ∧ opens (scanned step lines n) (lines.lineAt n)) := by
  rcases Nat.lt_or_ge n lines.length with hn | hn
  · rw [scanned_succ hn]
    exact h.step_iff ..
  · -- Past the last line all lines are empty.
    rw [scanned_succ_of_length_le hn, lineAt_of_length_le hn]
    constructor
    · intro hOpen
      exact Or.inl ⟨hOpen, h.keeps_nil⟩
    · rintro (⟨hOpen, -⟩ | ⟨-, hOpens⟩)
      · exact hOpen
      · exact absurd hOpens (h.not_opens_nil _)

/-- **What a scan has open** at a line is a mark above it that opened, and that every line between
the two has kept. -/
theorem Marking.scanned_eq_some_iff (h : Marking step opens keeps) :
    scanned step lines n = some k ↔
      k < n ∧ opens (scanned step lines k) (lines.lineAt k) ∧
        ∀ m, k < m → m < n → keeps (lines.lineAt m) := by
  -- On the lines that the scan has come past.
  induction n with
  | zero =>
    constructor
    · intro hOpen
      contradiction
    · rintro ⟨hk, -⟩
      contradiction
  | succ n ih =>
    rw [h.scanned_succ_iff, ih]
    constructor
    · rintro (⟨⟨hk, hOpens, hKept⟩, hKeeps⟩ | ⟨rfl, hOpens⟩)
      · refine ⟨Nat.lt_succ_of_lt hk, hOpens, fun m hkm hmn => ?_⟩
        rcases Nat.eq_or_lt_of_le (Nat.le_of_lt_succ hmn) with rfl | hmn
        · exact hKeeps
        · exact hKept m hkm hmn
      · exact ⟨Nat.lt_succ_self n, hOpens, fun m hnm hmn => by omega⟩
    · rintro ⟨hk, hOpens, hKept⟩
      rcases Nat.eq_or_lt_of_le (Nat.le_of_lt_succ hk) with rfl | hk
      · exact Or.inr ⟨rfl, hOpens⟩
      · exact Or.inl ⟨⟨hk, hOpens, fun m hkm hmn => hKept m hkm (Nat.lt_succ_of_lt hmn)⟩,
          hKept n hk (Nat.lt_succ_self n)⟩

/-! ## Searches for what closes -/

/-- A search that finds a line finds it from every line on the way, too. -/
theorem FirstBody.onward {i : Nat} (h : FirstBody f lines i m) (hin : i ≤ n) (hnm : n ≤ m) :
    FirstBody f lines n m where
  le := hnm
  lt_length := h.lt_length
  kind := h.kind
  first j hnj := h.first j (Nat.le_trans hin hnj)
  body j hnj := h.body j (Nat.le_trans hin hnj)

/-- There is no heading from a line that is none down to the first one of a kind below it. -/
theorem FirstBody.levelOf_eq_zero {j : Nat} (h : FirstBody f lines (k + 1) m)
    (hBody : Heading.levelOf (lines.lineAt k) = 0) (hLow : k ≤ j) (hHigh : j ≤ m) :
    Heading.levelOf (lines.lineAt j) = 0 := by
  rcases Nat.eq_or_lt_of_le hLow with rfl | hLow
  · exact hBody
  · exact h.body j hLow hHigh

/-- Nothing is met between line `k` and line `n`, and line `m` from there: then it is met below line
`k`, not above line `n`. -/
theorem firstBody_below_iff (hk : k < n) :
    ((∀ j, k < j → j < n → f (lines.lineAt j) = false ∧ Heading.levelOf (lines.lineAt j) = 0) ∧
      FirstBody f lines n m) ↔ FirstBody f lines (k + 1) m ∧ n ≤ m := by
  constructor
  · rintro ⟨hNone, h⟩
    exact ⟨h.of_le hk hNone, h.le⟩
  · rintro ⟨h, hnm⟩
    exact ⟨fun j hkj hjn => ⟨h.first j hkj (Nat.lt_of_lt_of_le hjn hnm),
      h.body j hkj (Nat.le_trans (Nat.le_of_lt hjn) hnm)⟩, h.onward hk hnm⟩

/-- A line of the kind comes before the next heading exactly when there is a first one. -/
theorem any_takeWhile_isBody_iff :
    ((lines.drop n).takeWhile Heading.isBody).any f = true ↔ ∃ m, FirstBody f lines n m := by
  rw [← List.findIdx?_isSome, ← Option.isSome_map (f := (n + ·)), Option.isSome_iff_exists]
  exact exists_congr (findIdx?_takeWhile_isBody f lines n)

end Lines

/-! ## Blocks -/

namespace Block

variable {first last : Nat}

/-- The two fences of a block. What opens another block is text inside one, so none is open above
the first fence. -/
structure Fences (lines : Lines) (first last : Nat) : Prop where
  opening : (parseBegin? (lines.lineAt first)).isSome = true
  body : Heading.levelOf (lines.lineAt first) = 0
  outside : openAfter none (lines.numbered.take first) = none
  closing : Lines.FirstBody isEnd lines (first + 1) last

/-- A fence opens a block where none is open. A block that is open stays so down to a closing fence
or a heading. -/
theorem marking_openStep :
    Lines.Marking openStep
      (fun current line => current = none ∧ Heading.levelOf line = 0 ∧
        (parseBegin? line).isSome = true)
      (fun line => isEnd line = false ∧ Heading.levelOf line = 0) where
  step_iff current line m k := by
    by_cases hLevel : Heading.levelOf line = 0
    · cases current with
      | none => cases hBegin : (parseBegin? line).isSome <;> simp [openStep, hLevel, hBegin]
      | some fence => cases hEnd : isEnd line <;> simp [openStep, hLevel, hEnd]
    · simp [openStep, hLevel, Nat.pos_of_ne_zero hLevel]
  keeps_nil := by decide
  not_opens_nil current h := absurd h.2.2 (by decide)

theorem openAfter_eq_some_iff :
    openAfter none (lines.numbered.take n) = some k ↔
      k < n ∧ (openAfter none (lines.numbered.take k) = none ∧
          Heading.levelOf (lines.lineAt k) = 0 ∧ (parseBegin? (lines.lineAt k)).isSome = true) ∧
        ∀ m, k < m → m < n →
          isEnd (lines.lineAt m) = false ∧ Heading.levelOf (lines.lineAt m) = 0 := by
  rw [openAfter_eq_foldl, openAfter_eq_foldl]
  exact marking_openStep.scanned_eq_some_iff

/-- **A block** holds the lines below its opening fence down to its closing one. -/
theorem holding?_eq_some_iff :
    holding? lines n = some first ↔ ∃ last, Fences lines first last ∧ first < n ∧ n ≤ last := by
  have hHolding : holding? lines n = some first ↔
      openAfter none (lines.numbered.take n) = some first ∧
        ∃ last, Lines.FirstBody isEnd lines n last := by
    rw [holding?, Option.bind_eq_bind, Option.bind_eq_some_iff, ← Lines.any_takeWhile_isBody_iff]
    simp
  rw [hHolding, openAfter_eq_some_iff]
  constructor
  · rintro ⟨⟨hLt, ⟨hOutside, hBody, hBegin⟩, hKept⟩, last, hLast⟩
    obtain ⟨hClosing, hLe⟩ := (Lines.firstBody_below_iff hLt).mp ⟨hKept, hLast⟩
    exact ⟨last, ⟨hBegin, hBody, hOutside, hClosing⟩, hLt, hLe⟩
  · rintro ⟨last, h, hLt, hLe⟩
    obtain ⟨hKept, hLast⟩ := (Lines.firstBody_below_iff hLt).mpr ⟨h.closing, hLe⟩
    exact ⟨⟨hLt, ⟨h.outside, h.body, h.opening⟩, hKept⟩, last, hLast⟩

/-- Every line of the block is held by it, and no other line is. -/
theorem Fences.holding?_iff (h : Fences lines first last) :
    holding? lines m = some first ↔ first < m ∧ m ≤ last := by
  rw [holding?_eq_some_iff]
  constructor
  · rintro ⟨last', h', hLt, hLe⟩
    rw [h.closing.unique h'.closing]
    exact ⟨hLt, hLe⟩
  · rintro ⟨hLt, hLe⟩
    exact ⟨last, h, hLt, hLe⟩

/-- No block starts inside another one. -/
theorem Fences.lt_of_lt {first' last' : Nat} (h : Fences lines first last)
    (h' : Fences lines first' last') (hLt : first < first') : last < first' := by
  by_contra hInside
  -- The first block would still be open at the fence of the second one.
  have hOpen := openAfter_eq_some_iff.mpr ⟨hLt, ⟨h.outside, h.body, h.opening⟩,
    fun m hLow hHigh => ⟨h.closing.first m hLow (by omega), h.closing.body m hLow (by omega)⟩⟩
  rw [h'.outside] at hOpen
  contradiction

/-- **Blocks are uniform.** If line `n` is in a block, let `last` be the first closing fence from it
on. Then the block has its opening fence above line `n`, no heading, and as its lines those below
that fence down to `last`: they are in this block, and no other line is. A block with another opening
fence has no line in common with it, the opening fences included. -/
theorem holding?_uniform (h : holding? lines n = some first) :
    ∃ last, lines.FirstBody isEnd n last ∧
      first < n ∧ n ≤ last ∧ (parseBegin? (lines.lineAt first)).isSome = true ∧
      (∀ m, first ≤ m → m ≤ last → Heading.levelOf (lines.lineAt m) = 0) ∧
      (∀ m, holding? lines m = some first ↔ first < m ∧ m ≤ last) ∧
      ∀ n' first' last', holding? lines n' = some first' → lines.FirstBody isEnd n' last' →
        first' ≠ first → last < first' ∨ last' < first := by
  obtain ⟨last, hFences, hLt, hLe⟩ := holding?_eq_some_iff.mp h
  refine ⟨last, hFences.closing.onward hLt hLe, hLt, hLe, hFences.opening,
    fun m => hFences.closing.levelOf_eq_zero hFences.body, fun m => hFences.holding?_iff, ?_⟩
  intro n' first' last' h' hLast' hNe
  obtain ⟨stop, hFences', hLt', hLe'⟩ := holding?_eq_some_iff.mp h'
  obtain rfl := (hFences'.closing.onward hLt' hLe').unique hLast'
  rcases Nat.lt_or_gt_of_ne hNe with hAbove | hBelow
  · exact Or.inr (hFences'.lt_of_lt hFences hAbove)
  · exact Or.inl (hFences.lt_of_lt hFences' hBelow)

/-- A block with another opening fence in it, between a fence that a heading leaves open and another
block. -/
theorem holding?_uniform_fence_inside :
    let lines : Lines := ["#+BEGIN_SRC".toList, "* H".toList, "#+begin_src sh".toList,
      "#+BEGIN_QUOTE".toList, "#+end_src".toList, "#+BEGIN_QUOTE".toList, "#+end_quote".toList]
    holding? lines 3 = some 2 ∧ holding? lines 6 = some 5 ∧
      (∀ m, holding? lines m = some 2 ↔ 2 < m ∧ m ≤ 4) ∧ (4 < 5 ∨ 6 < 2) := by
  intro lines
  have hInside : holding? lines 3 = some 2 := by decide
  have hOther : holding? lines 6 = some 5 := by decide
  have hLast : lines.FirstBody isEnd 3 4 :=
    (Lines.findIdx?_takeWhile_isBody isEnd lines 3 4).mp (by decide)
  have hLast' : lines.FirstBody isEnd 6 6 :=
    (Lines.findIdx?_takeWhile_isBody isEnd lines 6 6).mp (by decide)
  obtain ⟨last, hFound, -, -, -, -, hUniform, hApart⟩ := holding?_uniform hInside
  obtain rfl : last = 4 := hFound.unique hLast
  exact ⟨hInside, hOther, hUniform, hApart 6 5 6 hOther hLast' (by decide)⟩

end Block

/-! ## Drawers -/

namespace Drawer

variable {d : Drawer}

/-- The two markers of a drawer. -/
structure Markers (lines : Lines) (d : Drawer) : Prop where
  opening : isStart (lines.lineAt d.start) = true
  body : Heading.levelOf (lines.lineAt d.start) = 0
  closing : Lines.FirstBody isEnd lines (d.start + 1) d.stop

/-- An opening marker is no closing one. -/
theorem isEnd_eq_false_of_isStart {line : Text} (h : isStart line = true) : isEnd line = false := by
  rw [isStart, Text.sameLetters_iff] at h
  rw [isEnd, ← Bool.not_eq_true, Text.sameLetters_iff, h]
  decide

/-- An opening marker opens a drawer even inside another one. A drawer that is open stays so down to
a marker of either kind or a heading. -/
theorem marking_openStep :
    Lines.Marking openStep
      (fun _ line => Heading.levelOf line = 0 ∧ isStart line = true)
      (fun line => (isEnd line = false ∧ Heading.levelOf line = 0) ∧ isStart line = false) where
  step_iff current line m k := by
    by_cases hLevel : Heading.levelOf line = 0
    · cases hStart : isStart line with
      | true => simp [openStep, hLevel, hStart, isEnd_eq_false_of_isStart hStart]
      | false => cases hEnd : isEnd line <;> simp [openStep, hLevel, hStart, hEnd]
    · simp [openStep, hLevel, Nat.pos_of_ne_zero hLevel]
  keeps_nil := by decide
  not_opens_nil current h := absurd h.2 (by decide)

theorem openAfter_eq_some_iff :
    openAfter none (lines.numbered.take n) = some k ↔
      k < n ∧ (Heading.levelOf (lines.lineAt k) = 0 ∧ isStart (lines.lineAt k) = true) ∧
        ∀ m, k < m → m < n →
          (isEnd (lines.lineAt m) = false ∧ Heading.levelOf (lines.lineAt m) = 0) ∧
            isStart (lines.lineAt m) = false := by
  rw [openAfter_eq_foldl]
  exact marking_openStep.scanned_eq_some_iff

/-- **A drawer** holds the lines below its opening marker down to its closing one, but none below
another opening marker that is in between. -/
theorem holding?_eq_some_iff :
    holding? lines n = some d ↔
      Markers lines d ∧ d.start < n ∧ n ≤ d.stop ∧
        ∀ m, d.start < m → m < n → isStart (lines.lineAt m) = false := by
  have hHolding : holding? lines n = some d ↔
      openAfter none (lines.numbered.take n) = some d.start ∧
        Lines.FirstBody isEnd lines n d.stop := by
    rw [← closing?_eq_some_iff, holding?]
    split
    · next hLevel =>
      -- The search for what closes does not go past a heading, so it cannot even start from one.
      have hNone : closing? lines n ≠ some d.stop := fun hStop => by
        have := (closing?_eq_some_iff.mp hStop).body n (Nat.le_refl n)
          (closing?_eq_some_iff.mp hStop).le
        omega
      simp [hNone]
    · obtain ⟨start, stop⟩ := d
      simp [Option.bind_eq_some_iff]
  rw [hHolding, openAfter_eq_some_iff]
  constructor
  · rintro ⟨⟨hLt, ⟨hBody, hStart⟩, hKept⟩, hStop⟩
    obtain ⟨hClosing, hLe⟩ := (Lines.firstBody_below_iff hLt).mp
      ⟨fun m hLow hHigh => (hKept m hLow hHigh).1, hStop⟩
    exact ⟨⟨hStart, hBody, hClosing⟩, hLt, hLe, fun m hLow hHigh => (hKept m hLow hHigh).2⟩
  · rintro ⟨h, hLt, hLe, hSingle⟩
    obtain ⟨hKept, hStop⟩ := (Lines.firstBody_below_iff hLt).mpr ⟨h.closing, hLe⟩
    exact ⟨⟨hLt, ⟨h.body, h.opening⟩,
      fun m hLow hHigh => ⟨hKept m hLow hHigh, hSingle m hLow hHigh⟩⟩, hStop⟩

/-- The drawer of a heading is one. -/
theorem markers_of_below? (h : below? config lines n = .ok (some d)) : Markers lines d := by
  obtain ⟨-, hOpening, hClosing⟩ := below?_eq_some_iff.mp h
  exact ⟨hOpening.kind, hOpening.body _ hOpening.le (Nat.le_refl _), hClosing⟩

/-- **The two searches for a drawer agree.** The drawer that is found below a heading, if there is no
other opening marker in it, is the one that is found from each of its lines, the closing marker
included, and from no other line; whatever is above the heading. -/
theorem holding?_iff_of_below? (h : below? config lines k = .ok (some d))
    (hSingle : ∀ m, d.start < m → m < d.stop → isStart (lines.lineAt m) = false) (n : Nat) :
    holding? lines n = some d ↔ d.start < n ∧ n ≤ d.stop := by
  rw [holding?_eq_some_iff]
  constructor
  · rintro ⟨-, hLt, hLe, -⟩
    exact ⟨hLt, hLe⟩
  · rintro ⟨hLt, hLe⟩
    exact ⟨markers_of_below? h, hLt, hLe, fun m hLow hHigh =>
      hSingle m hLow (Nat.lt_of_lt_of_le hHigh hLe)⟩

/-- Below a heading with a marker left open above it and a closing one in its text. -/
theorem holding?_iff_of_below?_stray_markers :
    let lines : Lines := [":PROPERTIES:".toList, "* H".toList, ":END:".toList,
      "  :properties:".toList, ":K: v".toList, ":end:".toList, ":END:".toList]
    below? {} lines 1 = .ok (some ⟨3, 5⟩) ∧
      (∀ m, 3 < m → m < 5 → isStart (lines.lineAt m) = false) ∧
      ∀ n, holding? lines n = some ⟨3, 5⟩ ↔ 3 < n ∧ n ≤ 5 := by
  intro lines
  have hBelow : below? {} lines 1 = .ok (some ⟨3, 5⟩) := by decide
  have hSingle : ∀ m, 3 < m → m < 5 → isStart (lines.lineAt m) = false := by
    intro m hLow hHigh
    obtain rfl : m = 4 := by omega
    decide
  exact ⟨hBelow, hSingle, holding?_iff_of_below? hBelow hSingle⟩

end Drawer

end Outliner
