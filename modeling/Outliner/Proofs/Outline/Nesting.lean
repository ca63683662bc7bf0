import Outliner.Proofs.Outline

/-!
# Outliner — subtrees that nest

Where a subtree ends is found by a search of its own for every heading, and each search stops at
another level. Still no two subtrees overlap in part: the heading that closes the outer one is of a
higher level than every heading inside, so it closes those as well. That is why the nearest heading
above a line is always one whose subtree holds the line, and the innermost of them.

* `Heading.Spans` — the subtree of a heading holds a line.

Main results:

* `le_subtreeEnd_iff` — how far a subtree reaches.
* `subtreeEnd_le_subtreeEnd` — a subtree that starts inside another one ends inside it.
* `enclosing?_eq` — the search for the heading around a line finds the nearest one.
* `enclosing?_innermost` — subtrees nest, and the heading around a line is the innermost.
-/

namespace Outliner.Heading

variable {keywords : Keywords} {lines : Lines} {a b g m n : Nat}

/-- Line `g` is a heading, and its subtree holds line `n`. -/
structure Spans (lines : Lines) (g n : Nat) : Prop where
  heading : 0 < levelOf (lines.lineAt g)
  le : g ≤ n
  le_end : n ≤ subtreeEnd lines g

/-! ## How far subtrees reach -/

/-- A subtree reaches a line when no heading on the way down to it closes the subtree. -/
theorem le_subtreeEnd_iff (hm : 0 < levelOf (lines.lineAt m)) :
    n ≤ subtreeEnd lines m ↔ n < lines.length ∧
      ∀ k, m < k → k ≤ n → closes (levelOf (lines.lineAt m)) (lines.lineAt k) = false := by
  have hEnds := endsAt_subtreeEnd hm
  constructor
  · intro hn
    exact ⟨Nat.lt_of_le_of_lt hn hEnds.lt_length, fun k hmk hkn =>
      hEnds.inside k hmk (Nat.le_trans hkn hn)⟩
  · -- Were the end above line `n`, the heading that comes next would be on the way.
    rintro ⟨hn, hOpen⟩
    by_contra hLt
    have hClosed := hEnds.next (by omega)
    rw [hOpen _ (Nat.lt_succ_of_le hEnds.le) (by omega)] at hClosed
    contradiction

/-- **Subtrees nest.** The subtree of a heading inside another subtree ends inside it. -/
theorem subtreeEnd_le_subtreeEnd (ha : 0 < levelOf (lines.lineAt a))
    (hb : 0 < levelOf (lines.lineAt b)) (hab : a ≤ b) (hInside : b ≤ subtreeEnd lines a) :
    subtreeEnd lines b ≤ subtreeEnd lines a := by
  rcases Nat.eq_or_lt_of_le hab with rfl | hab
  · exact Nat.le_refl _
  have hOuter := endsAt_subtreeEnd ha
  have hInner := endsAt_subtreeEnd hb
  have hBelow := hOuter.lt_levelOf hab hInside hb
  by_contra hLt
  -- The heading right after the outer subtree would be in the inner one, and closes both.
  have hClosed := hOuter.next (by have := hInner.lt_length; omega)
  have hOpen := hInner.inside (subtreeEnd lines a + 1) (by omega) (by omega)
  rw [closes_iff] at hClosed
  rw [closes_eq_false_iff] at hOpen
  omega

/-! ## The heading around a line -/

/-- The search upward from line `n` has come to line `k` past text alone. What is left of it finds
the nearest heading: the test that its subtree holds line `n` never fails. -/
theorem findSome?_above_eq {k : Nat} (hn : n < lines.length) (hk : k ≤ n + 1)
    (hText : ∀ j, k ≤ j → j ≤ n → levelOf (lines.lineAt j) = 0) :
    (lines.above k).findSome? (fun x => do
        let heading ← parse? keywords x.1
        if x.2 = n ∨ n ≤ subtreeEnd lines x.2 then some (x.2, heading) else none) =
      (owner? lines k).bind fun m => (parse? keywords (lines.lineAt m)).map (m, ·) := by
  induction k with
  | zero => simp [owner?, nearestAbove?_zero, Lines.above]
  | succ k ih =>
    rw [Lines.above_succ (by omega), List.findSome?_cons, owner?,
      nearestAbove?_succ (by decide)]
    by_cases hLevel : levelOf (lines.lineAt k) = 0
    · -- Text is passed over by both.
      simp only [parse?_eq_none keywords hLevel, hLevel, Nat.lt_irrefl, decide_false,
        Bool.false_eq_true, if_false]
      refine ih (by omega) fun j hkj hjn => ?_
      rcases Nat.eq_or_lt_of_le hkj with rfl | hkj
      · exact hLevel
      · exact hText j hkj hjn
    · have hPos := Nat.pos_of_ne_zero hLevel
      obtain ⟨heading, hParse⟩ := exists_parse?_eq keywords hPos
      -- Between the heading and line `n` there is only text, which closes no subtree.
      have hReaches : n ≤ subtreeEnd lines k := by
        refine (le_subtreeEnd_iff hPos).mpr ⟨hn, fun j hkj hjn => ?_⟩
        rw [closes, hText j hkj hjn]
        rfl
      simp [hParse, hReaches, hPos]

/-- **The heading around a line** is the nearest one at the line or above it. -/
theorem enclosing?_eq (keywords : Keywords) (hn : n < lines.length) :
    enclosing? keywords lines n =
      (owner? lines (n + 1)).bind fun m => (parse? keywords (lines.lineAt m)).map (m, ·) := by
  have hMin : min n lines.last = n := by
    unfold Lines.last
    omega
  unfold enclosing?
  rw [hMin]
  exact findSome?_above_eq hn (Nat.le_refl _) fun j hnj hjn => by omega

theorem enclosing?_eq_some_iff (hn : n < lines.length) {h : Heading} :
    enclosing? keywords lines n = some (m, h) ↔
      m ≤ n ∧ parse? keywords (lines.lineAt m) = some h ∧
        ∀ k, m < k → k ≤ n → levelOf (lines.lineAt k) = 0 := by
  rw [enclosing?_eq keywords hn, Option.bind_eq_some_iff]
  constructor
  · rintro ⟨m', hOwner, hMap⟩
    obtain ⟨h', hParse, hEq⟩ := Option.map_eq_some_iff.mp hMap
    obtain ⟨rfl, rfl⟩ := Prod.mk.inj hEq
    obtain ⟨hLt, -, hText⟩ := (nearestAbove?_eq_some_iff (by decide)).mp hOwner
    refine ⟨Nat.le_of_lt_succ hLt, hParse, fun k hmk hkn => ?_⟩
    have := hText k hmk (Nat.lt_succ_of_le hkn)
    simpa using this
  · rintro ⟨hmn, hParse, hText⟩
    have hLevel := levelOf_pos_of_parse? hParse
    refine ⟨m, (nearestAbove?_eq_some_iff (by decide)).mpr ⟨by omega, by simpa using hLevel,
      fun k hmk hkn => ?_⟩, by rw [hParse]; rfl⟩
    simp [hText k hmk (by omega)]

theorem enclosing?_eq_none_iff (hn : n < lines.length) :
    enclosing? keywords lines n = none ↔ ∀ m, m ≤ n → levelOf (lines.lineAt m) = 0 := by
  constructor
  · -- Among the headings down to line `n`, one would be the nearest.
    intro hNone m hmn
    by_contra hLevel
    cases hOwner : owner? lines (n + 1) with
    | none =>
      have := (nearestAbove?_eq_none_iff (by decide)).mp hOwner m (Nat.lt_succ_of_le hmn)
      simp only [decide_eq_false_iff_not] at this
      omega
    | some o =>
      have hPos := ((nearestAbove?_eq_some_iff (by decide)).mp hOwner).2.1
      obtain ⟨heading, hParse⟩ := exists_parse?_eq keywords (of_decide_eq_true hPos)
      rw [enclosing?_eq keywords hn, hOwner, Option.bind_some, hParse] at hNone
      contradiction
  · intro hText
    have hOwner : owner? lines (n + 1) = none :=
      (nearestAbove?_eq_none_iff (by decide)).mpr fun k hk => by
        simp [hText k (Nat.le_of_lt_succ hk)]
    rw [enclosing?_eq keywords hn, hOwner]
    rfl

/-- **Subtrees nest, and the heading around a line is the innermost.** Of two headings the lower one
is below the subtree of the upper one, or its subtree ends inside it. The heading around a line is
the nearest heading line at it or above it, with the parts that the keywords give it; there is none
exactly when there is no heading down to the line. Its subtree holds the line, and is inside every
subtree that does. -/
theorem enclosing?_innermost (lines : Lines) :
    (∀ a b, a < b → 0 < levelOf (lines.lineAt a) → 0 < levelOf (lines.lineAt b) →
      subtreeEnd lines a < b ∨ subtreeEnd lines b ≤ subtreeEnd lines a) ∧
    ∀ keywords n, n < lines.length →
      (enclosing? keywords lines n = none ↔ ∀ m, m ≤ n → levelOf (lines.lineAt m) = 0) ∧
      (∀ m h, enclosing? keywords lines n = some (m, h) ↔
        m ≤ n ∧ parse? keywords (lines.lineAt m) = some h ∧
          ∀ k, m < k → k ≤ n → levelOf (lines.lineAt k) = 0) ∧
      ∀ m h, enclosing? keywords lines n = some (m, h) →
        Spans lines m n ∧
          ∀ g, Spans lines g n → g ≤ m ∧ subtreeEnd lines m ≤ subtreeEnd lines g := by
  refine ⟨fun a b hab ha hb => ?_, fun keywords n hn => ⟨enclosing?_eq_none_iff hn,
    fun m h => enclosing?_eq_some_iff hn, fun m h hSome => ?_⟩⟩
  · rcases Nat.lt_or_ge (subtreeEnd lines a) b with hApart | hInside
    · exact Or.inl hApart
    · exact Or.inr (subtreeEnd_le_subtreeEnd ha hb (Nat.le_of_lt hab) hInside)
  · obtain ⟨hmn, hParse, hText⟩ := (enclosing?_eq_some_iff hn).mp hSome
    have hLevel := levelOf_pos_of_parse? hParse
    refine ⟨⟨hLevel, hmn, (le_subtreeEnd_iff hLevel).mpr ⟨hn, fun k hmk hkn => ?_⟩⟩,
      fun g hg => ?_⟩
    · rw [closes, hText k hmk hkn]
      rfl
    · -- A heading below line `m` would be nearer, so the other subtree starts above it.
      have hgm : g ≤ m := by
        by_contra hLt
        have := hText g (Nat.lt_of_not_le hLt) hg.le
        have := hg.heading
        omega
      exact ⟨hgm, subtreeEnd_le_subtreeEnd hg.heading hLevel hgm (Nat.le_trans hmn hg.le_end)⟩

end Outliner.Heading
