import Outliner.Proofs.Execution
import Outliner.Proofs.Subtree

/-!
# Outliner — the tree of headings

The lines of a buffer show a tree: a heading is below the nearest heading above it that has fewer
stars, and text is below the nearest heading of all. No line says so, and a line that is put in can
change it for every line that follows. A new heading has the level of the heading under the cursor.
It goes either right above that heading, or behind the last content of its subtree; in both places
the first thing that comes after it is a heading that hides it from all the others.

* `Heading.nearestAbove?` — the nearest line above with a level of a given kind.
* `Heading.parent?`, `Heading.owner?` — the heading that a heading is below, and that text is below.
* `Heading.Edge`, `Heading.Place` — where a heading of a given level hides nothing.
* `Heading.PutIn`, `Heading.Grown` — what a new heading does to the lines.

Main results:

* `PutIn.nearestAbove?_past` — when what is nearest stays nearest.
* `exists_grown` — where a command puts a new heading, and what becomes of the lines.
* `new_heading_keeps_tree` — a new heading has its place in the tree, and no other loses it.
-/

namespace Outliner.Heading

variable {config : Config} {lines lines' : Lines} {d : Document} {p : Position} {n m q e : Nat}
  {level : Nat} {command : Command} {line : Text} {f : Nat → Bool}

/-! ## The nearest line above -/

/-- The nearest line above line `n` that has a level of the given kind. -/
def nearestAbove? (f : Nat → Bool) (lines : Lines) (n : Nat) : Option Nat :=
  ((lines.above n).find? fun x => f (levelOf x.1)).map Prod.snd

/-- The parent of a heading: the nearest heading above it with fewer stars. -/
def parent? (lines : Lines) (n : Nat) : Option Nat :=
  nearestAbove? (fun level => 0 < level && level < levelOf (lines.lineAt n)) lines n

/-- The heading that owns a line of text: the nearest one above it. -/
def owner? (lines : Lines) (n : Nat) : Option Nat :=
  nearestAbove? (0 < ·) lines n

theorem nearestAbove?_zero (f : Nat → Bool) (lines : Lines) : nearestAbove? f lines 0 = none := by
  simp [nearestAbove?, Lines.above]

theorem nearestAbove?_succ (hf : f 0 = false) (lines : Lines) (n : Nat) :
    nearestAbove? f lines (n + 1) =
      if f (levelOf (lines.lineAt n)) then some n else nearestAbove? f lines n := by
  rcases Nat.lt_or_ge n lines.length with hn | hn
  · rw [nearestAbove?, Lines.above_succ hn, List.find?_cons]
    cases f (levelOf (lines.lineAt n)) <;> rfl
  · -- Past the last line the walk starts where it would start from line `n`.
    have hAbove : lines.above (n + 1) = lines.above n := by
      rw [Lines.above, Lines.above, Lines.take_numbered, Lines.take_numbered,
        List.take_of_length_le hn, List.take_of_length_le (Nat.le_succ_of_le hn)]
    rw [nearestAbove?, hAbove, Lines.lineAt_of_length_le hn]
    simp [levelOf, hf, nearestAbove?]

theorem nearestAbove?_eq_some_iff (hf : f 0 = false) :
    nearestAbove? f lines n = some m ↔
      m < n ∧ f (levelOf (lines.lineAt m)) = true ∧
        ∀ k, m < k → k < n → f (levelOf (lines.lineAt k)) = false := by
  induction n with
  | zero => simp [nearestAbove?_zero]
  | succ n ih =>
    rw [nearestAbove?_succ hf]
    cases hLine : f (levelOf (lines.lineAt n)) with
    | true =>
      rw [if_pos rfl, Option.some.injEq]
      constructor
      · rintro rfl
        exact ⟨Nat.lt_succ_self n, hLine, fun k hnk hkn => by omega⟩
      · -- Were it further up, line `n` would be in between.
        rintro ⟨hmn, -, hBetween⟩
        by_contra hne
        rw [hBetween n (by omega) (Nat.lt_succ_self n)] at hLine
        contradiction
    | false =>
      rw [if_neg (by simp), ih]
      constructor
      · rintro ⟨hmn, hLevel, hBetween⟩
        refine ⟨by omega, hLevel, fun k hmk hkn => ?_⟩
        rcases Nat.eq_or_lt_of_le (Nat.le_of_lt_succ hkn) with rfl | hkn
        · exact hLine
        · exact hBetween k hmk hkn
      · rintro ⟨hmn, hLevel, hBetween⟩
        have hne : m ≠ n := by
          rintro rfl
          rw [hLine] at hLevel
          contradiction
        exact ⟨by omega, hLevel, fun k hmk hkn => hBetween k hmk (by omega)⟩

theorem nearestAbove?_eq_none_iff (hf : f 0 = false) :
    nearestAbove? f lines n = none ↔ ∀ k, k < n → f (levelOf (lines.lineAt k)) = false := by
  induction n with
  | zero => simp [nearestAbove?_zero]
  | succ n ih =>
    rw [nearestAbove?_succ hf, Nat.forall_lt_succ_right, ← ih]
    cases f (levelOf (lines.lineAt n)) <;> simp

/-- Lines of other kinds do not matter. -/
theorem nearestAbove?_eq_of_le (hf : f 0 = false) (hnm : n ≤ m)
    (h : ∀ k, n ≤ k → k < m → f (levelOf (lines.lineAt k)) = false) :
    nearestAbove? f lines m = nearestAbove? f lines n := by
  induction m, hnm using Nat.le_induction with
  | base => rfl
  | succ m hnm ih =>
    rw [nearestAbove?_succ hf, h m hnm (Nat.lt_succ_self m), if_neg (by simp)]
    exact ih fun k hnk hkm => h k hnk (by omega)

/-! ## A heading put in -/

/-- The first thing with text from line `q` on is a heading of the given level or a higher one, if
there is anything. -/
def Edge (lines : Lines) (level q : Nat) : Prop :=
  ∀ m, q ≤ m → lines.isBlankAt m = false →
    ∃ k, q ≤ k ∧ k ≤ m ∧ closes level (lines.lineAt k) = true

/-- A heading of the given level has been put in before line `q`. The others have kept their levels,
and what was blank still is. -/
structure PutIn (lines lines' : Lines) (q level : Nat) : Prop where
  place : q ≤ lines.length
  length : lines'.length = lines.length + 1
  new : levelOf (lines'.lineAt q) = level
  past : ∀ m, levelOf (lines'.lineAt (Lines.past q m)) = levelOf (lines.lineAt m)
  blank : ∀ m, lines'.isBlankAt (Lines.past q m) = lines.isBlankAt m

section

variable (h : PutIn lines lines' q level)

include h

/-- One heading is new, and the levels of the others are as they were, in their order. -/
theorem PutIn.levels : lines'.map levelOf = (lines.map levelOf).insertIdx q level := by
  have hPlace := h.place
  have hLength := h.length
  apply List.ext_getElem
  · rw [List.length_insertIdx, List.length_map, List.length_map, if_pos hPlace, hLength]
  intro j hj hj'
  rw [List.length_map] at hj
  rw [List.getElem_map, List.getElem_insertIdx, ← Lines.lineAt_of_lt hj]
  split
  · next hjq =>
    rw [List.getElem_map, ← Lines.lineAt_of_lt (by omega), ← h.past, Lines.past_of_lt hjq]
  · split
    · next hjq => rw [hjq, h.new]
    · rw [List.getElem_map, ← Lines.lineAt_of_lt (by omega), ← h.past, Lines.past_of_le (by omega),
        Nat.sub_add_cancel (by omega)]

/-- **What is nearest stays nearest,** unless the new heading is of the kind that is looked for, and
nothing of this kind is between it and the line that the search starts from. -/
theorem PutIn.nearestAbove?_past (hf : f 0 = false)
    (hHidden : q ≤ m → f level = true →
      ∃ k, q ≤ k ∧ k < m ∧ f (levelOf (lines.lineAt k)) = true) :
    nearestAbove? f lines' (Lines.past q m) = (nearestAbove? f lines m).map (Lines.past q) := by
  -- Of the lines above the search meets the new one and the old ones, at their new places.
  cases hNearest : nearestAbove? f lines m with
  | none =>
    have hNone := (nearestAbove?_eq_none_iff hf).mp hNearest
    rw [Option.map_none, nearestAbove?_eq_none_iff hf]
    intro j hj
    rcases Lines.eq_or_exists_past q j with rfl | ⟨k, rfl⟩
    · rw [h.new, ← Bool.not_eq_true]
      intro hNew
      obtain ⟨k, -, hkm, hk⟩ := hHidden (Lines.lt_past_iff.mp hj) hNew
      rw [hNone k hkm] at hk
      contradiction
    · rw [h.past]
      exact hNone k (Lines.past_lt_past_iff.mp hj)
  | some k =>
    obtain ⟨hkm, hk, hBetween⟩ := (nearestAbove?_eq_some_iff hf).mp hNearest
    rw [Option.map_some, nearestAbove?_eq_some_iff hf, h.past]
    refine ⟨Lines.past_lt_past_iff.mpr hkm, hk, fun j hkj hjm => ?_⟩
    rcases Lines.eq_or_exists_past q j with rfl | ⟨i, rfl⟩
    · rw [h.new, ← Bool.not_eq_true]
      intro hNew
      obtain ⟨i, hji, him, hi⟩ := hHidden (Lines.lt_past_iff.mp hjm) hNew
      have hki : k < i := by
        rw [Lines.past] at hkj
        split at hkj <;> omega
      rw [hBetween i hki him] at hi
      contradiction
    · rw [h.past]
      exact hBetween i (Lines.past_lt_past_iff.mp hkj) (Lines.past_lt_past_iff.mp hjm)

/-- An old heading keeps its parent: the heading that follows the new one hides it. -/
theorem PutIn.parent?_past (hEdge : Edge lines level q) (hm : 0 < levelOf (lines.lineAt m)) :
    parent? lines' (Lines.past q m) = (parent? lines m).map (Lines.past q) := by
  rw [parent?, parent?, h.past]
  apply h.nearestAbove?_past (by simp)
  intro hqm hNew
  simp only [Bool.and_eq_true, decide_eq_true_eq] at hNew
  obtain ⟨k, hqk, hkm, hClosed⟩ := hEdge m hqm (isBlankLine_eq_false hm)
  rw [closes_iff] at hClosed
  have hne : k ≠ m := by
    rintro rfl
    omega
  refine ⟨k, hqk, by omega, ?_⟩
  simp only [Bool.and_eq_true, decide_eq_true_eq]
  omega

/-- A line of text keeps its owner. -/
theorem PutIn.owner?_past (hEdge : Edge lines level q) (hText : lines.isBlankAt m = false)
    (hBody : levelOf (lines.lineAt m) = 0) :
    owner? lines' (Lines.past q m) = (owner? lines m).map (Lines.past q) := by
  apply h.nearestAbove?_past (by simp)
  intro hqm _
  obtain ⟨k, hqk, hkm, hClosed⟩ := hEdge m hqm hText
  rw [closes_iff] at hClosed
  have hne : k ≠ m := by
    rintro rfl
    omega
  exact ⟨k, hqk, by omega, decide_eq_true hClosed.1⟩

/-- The new heading has the parent of a heading of its level, if only lower ones are in between. -/
theorem PutIn.parent?_new (hLevel : levelOf (lines.lineAt n) = level) (hnq : n ≤ q)
    (hBetween : ∀ k, n < k → k < q → closes level (lines.lineAt k) = false) :
    parent? lines' q = (parent? lines n).map (Lines.past q) := by
  let above : Nat → Bool := fun other => 0 < other && other < level
  have hZero : above 0 = false := rfl
  have hSelf : above level = false := by simp [above]
  have hUp : nearestAbove? above lines q = nearestAbove? above lines n := by
    apply nearestAbove?_eq_of_le hZero hnq
    intro k hnk hkq
    rcases Nat.eq_or_lt_of_le hnk with rfl | hnk
    · rw [hLevel, hSelf]
    · have hOpen := hBetween k hnk hkq
      rw [closes_eq_false_iff] at hOpen
      simp only [above, Bool.and_eq_false_iff, decide_eq_false_iff_not]
      omega
  -- From the line below the new heading the search goes on above it, since it is of its own level.
  have hPast : nearestAbove? above lines' (Lines.past q q) = _ :=
    h.nearestAbove?_past hZero fun _ hNew => by
      rw [hSelf] at hNew
      contradiction
  rw [Lines.past_of_le (Nat.le_refl q), nearestAbove?_succ hZero, h.new, hSelf,
    if_neg (by simp), hUp] at hPast
  rw [parent?, parent?, h.new, hLevel]
  exact hPast

/-- Below the new heading there are only blank lines. -/
theorem PutIn.isBlankAt_of_le_subtreeEnd (hEdge : Edge lines level q) (hPos : 0 < level)
    (hqm : q < m) (hm : m ≤ subtreeEnd lines' q) : lines'.isBlankAt m = true := by
  have hNewPos : 0 < levelOf (lines'.lineAt q) := by rwa [h.new]
  have hEnds := endsAt_subtreeEnd hNewPos
  rw [h.new] at hEnds
  obtain ⟨k, rfl⟩ := (Lines.eq_or_exists_past q m).resolve_left (by omega)
  have hqk := Lines.lt_past_iff.mp hqm
  by_contra hText
  rw [h.blank, Bool.not_eq_true] at hText
  -- The first line with text would be a heading that closes the subtree.
  obtain ⟨j, hqj, hjk, hClosed⟩ := hEdge k hqk hText
  have hOpen := hEnds.inside (Lines.past q j) (Lines.lt_past_iff.mpr hqj)
    (by rw [Lines.past_of_le hqj]; rw [Lines.past_of_le hqk] at hm; omega)
  rw [closes, h.past, ← closes, hClosed] at hOpen
  contradiction

end

/-! ## Where a command puts a new heading -/

theorem levelOf_headingLine (hPos : 0 < level) (title : Text) :
    levelOf (Plan.headingLine level title) = level := by
  have hSpace : Text.isSpaceOrTab ' ' = true := by decide
  rw [Plan.headingLine, render, plain, levelOf_replicate_append hSpace, Nat.max_eq_left hPos]

theorem lastContent_self (hn : n < lines.length) : lastContent lines n n = n := by
  have hBlock : (lines.take (n + 1)).drop n = [lines[n]] := by
    rw [List.take_succ_eq_append_getElem hn,
      List.drop_append_of_le_length (by rw [List.length_take]; omega),
      List.drop_eq_nil_of_le (List.length_take_le ..), List.nil_append]
  have hLength : ([lines[n]].reverse.dropWhile Text.isBlankLine).length ≤ 1 :=
    (List.dropWhile_sublist _).length_le
  rw [lastContent, hBlock]
  omega

theorem lastContent_succ (hne : n ≤ e) (he : e + 1 < lines.length) :
    lastContent lines n (e + 1) =
      if lines.isBlankAt (e + 1) then lastContent lines n e else e + 1 := by
  have hBlock : (lines.take (e + 1 + 1)).drop n =
      (lines.take (e + 1)).drop n ++ [lines.lineAt (e + 1)] := by
    rw [List.take_succ_eq_append_getElem he, Lines.lineAt_of_lt he,
      List.drop_append_of_le_length (by rw [List.length_take]; omega)]
  rw [lastContent, hBlock, List.reverse_append, List.reverse_singleton, List.singleton_append,
    List.dropWhile_cons, Lines.isBlankAt]
  split
  · rfl
  · rw [List.length_cons, List.length_reverse, List.length_drop, List.length_take]
    omega

/-- Behind the last line with content there are only blank lines. -/
theorem lastContent_spec (hne : n ≤ e) (he : e < lines.length) :
    n ≤ lastContent lines n e ∧ lastContent lines n e ≤ e ∧
      ∀ m, lastContent lines n e < m → m ≤ e → lines.isBlankAt m = true := by
  -- On the last line: it has content itself, or it is one more blank line.
  induction e, hne using Nat.le_induction with
  | base =>
    rw [lastContent_self he]
    exact ⟨Nat.le_refl n, Nat.le_refl n, fun m hnm hmn => by omega⟩
  | succ e hne ih =>
    obtain ⟨hLow, hHigh, hBlank⟩ := ih (by omega)
    rw [lastContent_succ hne he]
    split
    · next hLast =>
      refine ⟨hLow, by omega, fun m hm hme => ?_⟩
      rcases Nat.eq_or_lt_of_le hme with rfl | hme
      · exact hLast
      · exact hBlank m hm (by omega)
    · exact ⟨by omega, Nat.le_refl _, fun m hm hme => by omega⟩

/-- A place for a new heading beside the one on line `n`: an edge for its level, with nothing but
lower headings in between. -/
structure Place (lines : Lines) (n q : Nat) : Prop where
  edge : Edge lines (levelOf (lines.lineAt n)) q
  le : n ≤ q
  between : ∀ k, n < k → k < q → closes (levelOf (lines.lineAt n)) (lines.lineAt k) = false

/-- Right above the heading is such a place. -/
theorem place_self (hPos : 0 < levelOf (lines.lineAt n)) : Place lines n n where
  edge m hnm _ := ⟨n, Nat.le_refl n, hnm, by simp [closes, hPos]⟩
  le := Nat.le_refl n
  between k hnk hkn := by omega

/-- Behind the content of its subtree is another. -/
theorem place_afterSubtree (hPos : 0 < levelOf (lines.lineAt n)) :
    Place lines n (Plan.afterSubtree lines n) := by
  have hEnds := endsAt_subtreeEnd hPos
  obtain ⟨hLow, hHigh, hBlank⟩ := lastContent_spec hEnds.le hEnds.lt_length
  refine ⟨fun m hm hText => ?_, Nat.le_succ_of_le hLow, fun k hnk hk => ?_⟩
  · -- The text is below the subtree, and right below the subtree is a heading that closes it.
    have hBelow : subtreeEnd lines n < m := by
      by_contra hNot
      rw [hBlank m hm (Nat.le_of_not_lt hNot)] at hText
      contradiction
    have hLength := Lines.lt_length_of_isBlankAt_eq_false hText
    exact ⟨subtreeEnd lines n + 1, Nat.succ_le_succ hHigh, hBelow, hEnds.next (by omega)⟩
  · exact hEnds.inside k hnk (Nat.le_trans (Nat.le_of_lt_succ hk) hHigh)

/-! ## What a command makes of the lines -/

/-- A heading of the level of the one on line `n` has been put in before line `q`. The line of the
old heading may have lost the end of its title; all others are as they were. -/
structure Grown (lines lines' : Lines) (n q : Nat) : Prop where
  putIn : PutIn lines lines' q (levelOf (lines.lineAt n))
  other : ∀ m, m ≠ n → lines'.lineAt (Lines.past q m) = lines.lineAt m
  anchor : ∃ c, levelOf (lines.lineAt n) < c ∧
    lines'.lineAt (Lines.past q n) = (lines.lineAt n).take c

theorem grown_of_lines_eq {base : Lines} {new : Text} {c : Nat}
    (hPos : 0 < levelOf (lines.lineAt n)) (hq : q ≤ lines.length)
    (hBase : base.length = lines.length) (hOther : ∀ m, m ≠ n → base.lineAt m = lines.lineAt m)
    (hCut : base.lineAt n = (lines.lineAt n).take c) (hc : levelOf (lines.lineAt n) < c)
    (hNew : levelOf new = levelOf (lines.lineAt n))
    (hResult : lines' = base.take q ++ [new] ++ base.drop q) : Grown lines lines' n q := by
  have hPast : ∀ m, lines'.lineAt (Lines.past q m) = base.lineAt m := fun m => by
    rw [hResult, Lines.lineAt_putIn_past (by rwa [hBase])]
  have hLevel : ∀ m, levelOf (base.lineAt m) = levelOf (lines.lineAt m) := by
    intro m
    by_cases hm : m = n
    · rw [hm, hCut, levelOf_take hPos hc]
    · rw [hOther m hm]
  refine ⟨⟨hq, ?_, ?_, ?_, ?_⟩, ?_, c, hc, ?_⟩
  · simp only [hResult, List.length_append, List.length_take, List.length_drop,
      List.length_singleton]
    omega
  · rw [hResult, Lines.lineAt_putIn (by rwa [hBase]), hNew]
  · intro m
    rw [hPast, hLevel]
  · -- The line of a heading is not blank, cut or not.
    intro m
    rw [Lines.isBlankAt, hPast, Lines.isBlankAt]
    by_cases hm : m = n
    · subst hm
      rw [isBlankLine_eq_false hPos, isBlankLine_eq_false (by rw [hLevel]; exact hPos)]
    · rw [hOther m hm]
  · intro m hm
    rw [hPast, hOther m hm]
  · rw [hPast, hCut]

/-- A command that puts in an empty heading and nothing else. -/
theorem exists_grown_of_empty (hp : d.lines.Inside p) (hLines : d.lines.Unbroken)
    (hPos : 0 < levelOf (d.lines.lineAt p.line)) (hq : q ≤ d.lines.length)
    (hPlan : Plan.ofCommand config d.lines p command =
      .apply [d.lines.insertion q [Plan.headingLine (levelOf (d.lines.lineAt p.line)) []]]
        ⟨q, levelOf (d.lines.lineAt p.line) + 1⟩) :
    ∃ d', execute config (.editable d) p command =
        .ok (.cursor ⟨q, levelOf (d.lines.lineAt p.line) + 1⟩, .editable d') ∧
      Grown d.lines d'.lines p.line q := by
  rw [← List.nil_append [d.lines.insertion q _]] at hPlan
  obtain ⟨d', hExecute, hResult⟩ := exists_execute_eq hp hLines hPlan ⟨by simp, .nil, by simp⟩
    (by simp [Batch.Unbroken]) (unbroken_headingLine _ Text.unbroken_nil)
  rw [Batch.rewrite_nil] at hResult
  -- The whole line of the old heading is left.
  have hWhole : d.lines.lineAt p.line = (d.lines.lineAt p.line).take
      ((d.lines.lineAt p.line).length + levelOf (d.lines.lineAt p.line) + 1) := by
    rw [List.take_of_length_le (by omega)]
  exact ⟨d', hExecute, grown_of_lines_eq hPos hq rfl (fun _ _ => rfl) hWhole (by omega)
    (levelOf_headingLine hPos _) hResult⟩

/-- A split in the title of a heading: the text right of the cursor is the title of the new one. -/
theorem exists_grown_of_cut (hp : d.lines.Inside p) (hLines : d.lines.Unbroken)
    (hPos : 0 < levelOf (d.lines.lineAt p.line)) (hq : q ≤ d.lines.length)
    (hTitle : levelOf (d.lines.lineAt p.line) < p.column)
    (hPlan : Plan.ofCommand config d.lines p command =
      .apply [Plan.cutTail (d.lines.lineAt p.line) p (levelOf (d.lines.lineAt p.line) + 1),
          d.lines.insertion q [Plan.headingLine (levelOf (d.lines.lineAt p.line))
            (Plan.tailAfter (d.lines.lineAt p.line) p)]]
        ⟨q, levelOf (d.lines.lineAt p.line) + 1⟩) :
    ∃ d', execute config (.editable d) p command =
        .ok (.cursor ⟨q, levelOf (d.lines.lineAt p.line) + 1⟩, .editable d') ∧
      Grown d.lines d'.lines p.line q := by
  have hOn := Plan.onLine_cutTail hp (levelOf (d.lines.lineAt p.line) + 1)
  obtain ⟨c, hCut, hc, hLow⟩ := Plan.exists_cutTail_eq (d.lines.lineAt p.line) p
    (levelOf (d.lines.lineAt p.line) + 1)
  have hStars : levelOf (d.lines.lineAt p.line) < c := by omega
  rw [hCut] at hOn hPlan
  have hInPlace : Batch.InPlace d.lines
      [⟨.onLine p.line c (d.lines.lineAt p.line).length, []⟩] :=
    Batch.inPlace_singleton hOn
  have hTexts : Batch.Unbroken [⟨.onLine p.line c (d.lines.lineAt p.line).length, []⟩] := by
    simp [Batch.Unbroken]
  rw [← List.singleton_append] at hPlan
  obtain ⟨d', hExecute, hResult⟩ := exists_execute_eq hp hLines hPlan
    ⟨hInPlace.onLine, List.pairwise_singleton .., by simp⟩ hTexts
    (unbroken_headingLine _ (Plan.unbroken_tailAfter (hLines.lineAt _) p))
  have hRewrite := hInPlace.lineAt_rewrite (List.mem_singleton.mpr rfl)
  rw [Span.onLine, List.append_nil, List.drop_length, List.append_nil] at hRewrite
  refine ⟨d', hExecute, grown_of_lines_eq hPos hq (Batch.length_rewrite ..) ?_ hRewrite hStars
    (levelOf_headingLine hPos _) hResult⟩
  intro m hm
  apply Batch.lineAt_rewrite_of_forall_ne
  intro e he
  rw [List.mem_singleton.mp he]
  exact Ne.symm hm

/-- **Where a command puts a new heading,** and what becomes of the lines. -/
theorem exists_grown (config : Config) (hp : d.lines.Inside p) (hLines : d.lines.Unbroken)
    (hPos : 0 < levelOf (d.lines.lineAt p.line))
    (hCommand : command = .split ∨ ∃ afterContent, command = .insertSibling afterContent) :
    ∃ d' q, execute config (.editable d) p command =
        .ok (.cursor ⟨q, levelOf (d.lines.lineAt p.line) + 1⟩, .editable d') ∧
      Grown d.lines d'.lines p.line q ∧ Place d.lines p.line q := by
  have hBelow := Plan.afterSubtree_le hp.line_lt
  have hPlan := Plan.ofCommand_of_levelOf_pos config hp hPos command
  rcases hCommand with rfl | ⟨afterContent, rfl⟩
  · rw [Plan.onHeading, Plan.splitHeading] at hPlan
    -- From among the stars the new heading goes above, and from the title it goes below.
    rcases Nat.lt_or_ge (levelOf (d.lines.lineAt p.line)) p.column with hTitle | hStars
    · rw [if_neg (Nat.not_le.mpr hTitle)] at hPlan
      obtain ⟨d', hExecute, hGrown⟩ := exists_grown_of_cut hp hLines hPos hBelow hTitle hPlan
      exact ⟨d', _, hExecute, hGrown, place_afterSubtree hPos⟩
    · rw [if_pos hStars] at hPlan
      obtain ⟨d', hExecute, hGrown⟩ :=
        exists_grown_of_empty hp hLines hPos (Nat.le_of_lt hp.line_lt) hPlan
      exact ⟨d', _, hExecute, hGrown, place_self hPos⟩
  · obtain ⟨d', hExecute, hGrown⟩ := exists_grown_of_empty hp hLines hPos hBelow hPlan
    exact ⟨d', _, hExecute, hGrown, place_afterSubtree hPos⟩

/-- **A new heading in the tree.** In a document without carriage returns let the cursor be on a
heading, and let a command make a new one from it, as a sibling or by a split. Then the levels of
the old headings are as before, in the same order, with the level of the heading under the cursor
among them once more; of the lines only the one of the cursor can have changed, behind its stars.
Every old heading has the parent that it had, and the new one has the parent of the heading under
the cursor; below the new heading there are only blank lines; and every line of text has the owner
that it had. -/
theorem new_heading_keeps_tree (config : Config) {d : Document} {p : Position} {command : Command}
    (hReturn : ∀ l ∈ d.lines, '\r' ∉ l) (hp : d.lines.Inside p)
    (hHeading : 0 < levelOf (d.lines.lineAt p.line))
    (hCommand : command = .split ∨ ∃ afterContent, command = .insertSibling afterContent) :
    ∃ d' q, execute config (.editable d) p command =
        .ok (.cursor ⟨q, levelOf (d.lines.lineAt p.line) + 1⟩, .editable d') ∧
      q ≤ d.lines.length ∧
      d'.lines.map levelOf =
        (d.lines.map levelOf).insertIdx q (levelOf (d.lines.lineAt p.line)) ∧
      (∀ m, m ≠ p.line → d'.lines.lineAt (Lines.past q m) = d.lines.lineAt m) ∧
      (∃ c, levelOf (d.lines.lineAt p.line) < c ∧
        d'.lines.lineAt (Lines.past q p.line) = (d.lines.lineAt p.line).take c) ∧
      (∀ m, 0 < levelOf (d.lines.lineAt m) →
        parent? d'.lines (Lines.past q m) = (parent? d.lines m).map (Lines.past q)) ∧
      parent? d'.lines q = (parent? d.lines p.line).map (Lines.past q) ∧
      (∀ m, q < m → m ≤ subtreeEnd d'.lines q → d'.lines.isBlankAt m = true) ∧
      ∀ m, d.lines.isBlankAt m = false → levelOf (d.lines.lineAt m) = 0 →
        owner? d'.lines (Lines.past q m) = (owner? d.lines m).map (Lines.past q) := by
  obtain ⟨d', q, hExecute, hGrown, hPlace⟩ :=
    exists_grown config hp (Document.unbroken_lines hReturn) hHeading hCommand
  have hPutIn := hGrown.putIn
  refine ⟨d', q, hExecute, hPutIn.place, hPutIn.levels, hGrown.other, hGrown.anchor, ?_, ?_, ?_, ?_⟩
  · exact fun m hm => hPutIn.parent?_past hPlace.edge hm
  · exact hPutIn.parent?_new rfl hPlace.le hPlace.between
  · exact fun m hqm hm => hPutIn.isBlankAt_of_le_subtreeEnd hPlace.edge hHeading hqm hm
  · exact fun m hText hBody => hPutIn.owner?_past hPlace.edge hText hBody

/-- A heading split in its title, in front of a child, a blank line and a heading of a higher
level. -/
theorem new_heading_keeps_tree_split :
    ∃ d' q, execute {} (.editable (.ofText "* A\n** B c\n*** D\ntext\n\n* E\n*** F".toList))
        ⟨1, 5⟩ .split = .ok (.cursor ⟨q, 3⟩, .editable d') ∧
      d'.lines.map levelOf = [1, 2, 3, 0, 0, 1, 3].insertIdx q 2 ∧
      parent? d'.lines q = some (Lines.past q 0) := by
  have hParent : parent? ["* A".toList, "** B c".toList, "*** D".toList, "text".toList, [],
      "* E".toList, "*** F".toList] 1 = some 0 := by decide
  have hLevels : ["* A".toList, "** B c".toList, "*** D".toList, "text".toList, [], "* E".toList,
      "*** F".toList].map levelOf = [1, 2, 3, 0, 0, 1, 3] := by decide
  have hCommand : Command.split = .split ∨
      ∃ afterContent, Command.split = .insertSibling afterContent := Or.inl rfl
  obtain ⟨d', q, hExecute, -, hLevels', -, -, -, hParent', -⟩ := new_heading_keeps_tree {}
    (d := .ofText "* A\n** B c\n*** D\ntext\n\n* E\n*** F".toList) (p := ⟨1, 5⟩) (by decide)
    ⟨by decide, by decide⟩ (by decide) hCommand
  exact ⟨d', q, hExecute, hLevels ▸ hLevels', hParent'.trans (congrArg _ hParent)⟩

end Outliner.Heading
