import Mathlib.Data.List.TakeWhile
import Outliner.Proofs.Heading

/-!
# Outliner — subtrees that move

Promotion and demotion rewrite the stars of every heading in a subtree. What a line becomes depends
on the line alone; which lines are meant is found again from the stars, each time.

* `Heading.withLevel`, `Heading.moved` — a heading line with another number of stars, and what a
  line of a moved subtree becomes.
* `Heading.EndsAt` — the last line of a subtree, without the search for it.

Main results:

* `subtreeEnd_eq_iff` — the search finds that line.
* `lineAt_rewrite_shiftEdits` — what moving a subtree does to each line.
* `endsAt_moved` — when a moved subtree ends where it ended before.
* `move_by_one_iff` — when every heading of the subtree moves by one level.
* `lineAt_demoted` — what demotion leaves of a promotion, line by line.
* `demote_promote_eq_iff` — when demotion takes a promotion back.
-/

namespace Outliner

/-- By how many levels a heading is meant to move. -/
def Shift.delta : Shift → Int
  | outward => -1
  | inward => 1

namespace Heading

variable {config : Config} {lines : Lines} {n m e level : Nat} {shift : Shift} {line : Text}

/-! ## Stars -/

/-- The heading line with another number of stars. -/
def withLevel (level : Nat) (line : Text) : Text :=
  List.replicate level '*' ++ line.drop (levelOf line)

/-- Stars in front of a gap are the stars of a heading. -/
theorem levelOf_replicate_append {c : Char} (hc : Text.isSpaceOrTab c = true) (level : Nat)
    (t : Text) : levelOf (List.replicate level '*' ++ c :: t) = level := by
  have hStar : (c == '*') = false := by
    rcases Bool.or_eq_true_iff.mp hc with hc | hc <;> rw [beq_iff_eq.mp hc] <;> decide
  have hStars : ∀ a ∈ List.replicate level '*', (a == '*') = true := fun a ha => by
    rw [List.eq_of_mem_replicate ha]
    decide
  simp [levelOf, List.dropWhile_append_of_pos hStars, List.takeWhile_append_of_pos hStars, hStar,
    hc]

theorem exists_eq_of_levelOf_pos (h : 0 < levelOf line) :
    ∃ c t, Text.isSpaceOrTab c = true ∧
      line = List.replicate (levelOf line) '*' ++ c :: t := by
  -- The stars that open the line are as many as its level, if a gap follows them.
  have hStar : ∀ c ∈ line.takeWhile (· == '*'), c = '*' := by
    intro c hc
    have := List.mem_takeWhile_imp (p := (· == '*')) hc
    simpa using this
  have hStars : line.takeWhile (· == '*') =
      List.replicate (line.takeWhile (· == '*')).length '*' :=
    List.eq_replicate_iff.mpr ⟨rfl, hStar⟩
  have hSplit := List.takeWhile_append_dropWhile (p := (· == '*')) (l := line)
  cases hDrop : line.dropWhile (· == '*') with
  | nil => simp [levelOf, hDrop] at h
  | cons c t =>
    by_cases hc : Text.isSpaceOrTab c = true
    · refine ⟨c, t, hc, ?_⟩
      have hLevel : levelOf line = (line.takeWhile (· == '*')).length := by
        simp [levelOf, hDrop, hc]
      rw [hLevel, ← hStars, ← hDrop, hSplit]
    · simp [levelOf, hDrop, hc] at h

/-- A heading is not blank. -/
theorem isBlankLine_eq_false (h : 0 < levelOf line) : line.isBlankLine = false := by
  obtain ⟨c, t, -, hLine⟩ := exists_eq_of_levelOf_pos h
  have hStar : '*' ∈ line := by
    rw [hLine]
    exact List.mem_append_left _ (List.mem_replicate.mpr ⟨Nat.ne_of_gt h, rfl⟩)
  rw [Text.isBlankLine, List.all_eq_false]
  exact ⟨'*', hStar, by decide⟩

/-- What is cut off behind the gap does not matter to the level. -/
theorem levelOf_take (h : 0 < levelOf line) (hm : levelOf line < m) :
    levelOf (line.take m) = levelOf line := by
  obtain ⟨c, t, hc, hLine⟩ := exists_eq_of_levelOf_pos h
  obtain ⟨i, rfl⟩ : ∃ i, m = levelOf line + (i + 1) := ⟨m - levelOf line - 1, by omega⟩
  have hTake : line.take (levelOf line + (i + 1)) =
      List.replicate (levelOf line) '*' ++ c :: t.take i := by
    conv_lhs => rw [hLine, List.take_append, List.length_replicate, levelOf_replicate_append hc]
    rw [List.take_of_length_le (by simp), Nat.add_sub_cancel_left, List.take_succ_cons]
  rw [hTake, levelOf_replicate_append hc]

theorem exists_drop_levelOf_eq (h : 0 < levelOf line) :
    ∃ c t, Text.isSpaceOrTab c = true ∧ line.drop (levelOf line) = c :: t := by
  obtain ⟨c, t, hc, hLine⟩ := exists_eq_of_levelOf_pos h
  refine ⟨c, t, hc, ?_⟩
  conv_lhs => rw [hLine, levelOf_replicate_append hc]
  exact List.drop_left' (List.length_replicate)

theorem levelOf_withLevel (h : 0 < levelOf line) (level : Nat) :
    levelOf (withLevel level line) = level := by
  obtain ⟨c, t, hc, hDrop⟩ := exists_drop_levelOf_eq h
  rw [withLevel, hDrop, levelOf_replicate_append hc]

theorem drop_withLevel (h : 0 < levelOf line) (level : Nat) :
    (withLevel level line).drop (levelOf (withLevel level line)) = line.drop (levelOf line) := by
  rw [levelOf_withLevel h, withLevel]
  exact List.drop_left' List.length_replicate

theorem withLevel_withLevel (h : 0 < levelOf line) (level level' : Nat) :
    withLevel level (withLevel level' line) = withLevel level line := by
  rw [withLevel, drop_withLevel h, withLevel]

theorem withLevel_levelOf (h : 0 < levelOf line) : withLevel (levelOf line) line = line := by
  obtain ⟨c, t, hc, hLine⟩ := exists_eq_of_levelOf_pos h
  have hDrop : line.drop (levelOf line) = c :: t := by
    conv_lhs => rw [hLine, levelOf_replicate_append hc]
    exact List.drop_left' List.length_replicate
  rw [withLevel, hDrop, ← hLine]

theorem withLevel_succ (h : 0 < levelOf line) : withLevel (levelOf line + 1) line = '*' :: line :=
  congrArg (List.cons '*') (withLevel_levelOf h)

/-! ## The last line of a subtree -/

theorem closes_iff : closes level line = true ↔ 0 < levelOf line ∧ levelOf line ≤ level := by
  simp only [closes, Bool.and_eq_true, decide_eq_true_eq]

/-- A line leaves a subtree open if it is a body line or a heading below its root. -/
theorem closes_eq_false_iff :
    closes level line = false ↔ (0 < levelOf line → level < levelOf line) := by
  rw [← Bool.not_eq_true, closes_iff, not_and, Nat.not_le]

/-- Line `e` is the last one below a heading of the given level on line `n` before a heading of this
level or a higher one. -/
structure EndsAt (lines : Lines) (n level e : Nat) : Prop where
  le : n ≤ e
  lt_length : e < lines.length
  inside : ∀ m, n < m → m ≤ e → closes level (lines.lineAt m) = false
  next : e + 1 < lines.length → closes level (lines.lineAt (e + 1)) = true

/-- Below a heading of a higher level the subtree ends no further up. -/
theorem EndsAt.le_of_le {level' e' : Nat} (h : EndsAt lines n level e)
    (h' : EndsAt lines n level' e') (hLevel : level' ≤ level) : e ≤ e' := by
  -- If it ended further up, the heading that closes it would be inside the other.
  by_contra hLt
  have hClosed := closes_iff.mp (h'.next (by have := h.lt_length; omega))
  have hOpen := closes_eq_false_iff.mp
    (h.inside (e' + 1) (by have := h'.le; omega) (by omega)) hClosed.1
  omega

theorem EndsAt.eq {e' : Nat} (h : EndsAt lines n level e) (h' : EndsAt lines n level e') :
    e = e' :=
  Nat.le_antisymm (h.le_of_le h' (Nat.le_refl level)) (h'.le_of_le h (Nat.le_refl level))

/-- One level up the subtree goes on exactly where a heading of the level follows. -/
theorem EndsAt.lt_iff {e' : Nat} (h : EndsAt lines n level e) (h' : EndsAt lines n (level - 1) e')
    (hPos : 0 < level) : e < e' ↔ levelOf (lines.lineAt (e + 1)) = level := by
  have hLow := h.le
  constructor
  · intro hLt
    have hClosed := closes_iff.mp (h.next (Nat.lt_of_le_of_lt hLt h'.lt_length))
    have hOpen := closes_eq_false_iff.mp (h'.inside (e + 1) (by omega) hLt) hClosed.1
    omega
  · intro hSibling
    by_contra hNotLt
    have hLe := h.le_of_le h' (Nat.sub_le level 1)
    obtain rfl : e = e' := by omega
    have hClosed := closes_iff.mp (h'.next (lt_length_of_levelOf_pos (by omega)))
    omega

theorem endsAt_subtreeEnd (h : 0 < levelOf (lines.lineAt n)) :
    EndsAt lines n (levelOf (lines.lineAt n)) (subtreeEnd lines n) := by
  have hn := lt_length_of_levelOf_pos h
  rw [subtreeEnd, if_neg (Nat.ne_of_gt h), subtreeExit]
  split
  · next next hNext =>
    split at hNext
    · next i hi =>
      injection hNext with hNext
      subst hNext
      -- The search found the first line that closes the subtree; the line above it is the last.
      obtain ⟨hLt, hClosed, hOpen⟩ := List.findIdx?_eq_some_iff_getElem.mp hi
      rw [List.length_drop] at hLt
      refine ⟨by omega, by omega, ?_, ?_⟩
      · intro m hnm hmi
        have hm : m < lines.length := by omega
        have hOpen := hOpen (m - (n + 1)) (by omega)
        rw [List.getElem_drop, Bool.not_eq_true] at hOpen
        rw [Lines.lineAt_of_lt hm]
        simpa only [Nat.add_sub_cancel' hnm] using hOpen
      · intro hLt'
        rw [List.getElem_drop] at hClosed
        rw [Lines.lineAt_of_lt hLt']
        simpa only [show n + 1 + i - 1 + 1 = n + 1 + i by omega] using hClosed
    · contradiction
  · next hNext =>
    split at hNext
    · contradiction
    · next hNone =>
      -- No line below closes the subtree, so it ends with the buffer.
      have hLast : max lines.last n = lines.length - 1 := by
        rw [Lines.last]
        omega
      rw [hLast]
      refine ⟨by omega, by omega, ?_, by omega⟩
      intro m hnm hm
      have hm : m < lines.length := by omega
      rw [Lines.lineAt_of_lt hm]
      apply List.findIdx?_eq_none_iff.mp hNone
      rw [List.mem_drop_iff_getElem]
      exact ⟨m - (n + 1), by omega, by simp only [Nat.add_sub_cancel' hnm]⟩

/-- **The last line of a subtree** is the one above the next heading of its level or a higher. -/
theorem subtreeEnd_eq_iff (h : 0 < levelOf (lines.lineAt n)) :
    subtreeEnd lines n = e ↔ EndsAt lines n (levelOf (lines.lineAt n)) e := by
  constructor
  · rintro rfl
    exact endsAt_subtreeEnd h
  · exact (endsAt_subtreeEnd h).eq

theorem EndsAt.lt_levelOf (h : EndsAt lines n level e) (hnm : n < m) (hme : m ≤ e)
    (hm : 0 < levelOf (lines.lineAt m)) : level < levelOf (lines.lineAt m) :=
  closes_eq_false_iff.mp (h.inside m hnm hme) hm

/-! ## What a moved line becomes -/

/-- What moving its subtree makes of a line: a heading has other stars, any other line stays. -/
def moved (config : Config) (shift : Shift) (line : Text) : Text :=
  if levelOf line = 0 then line
  else withLevel (shiftedLevel (max config.minLevel 1) shift (levelOf line)) line

/-- The subtree on line `n` moves: its root is a heading, and for promotion one above the floor. -/
structure Moves (config : Config) (lines : Lines) (n : Nat) (shift : Shift) : Prop where
  root : 0 < levelOf (lines.lineAt n)
  floor : shift = .outward → (max config.minLevel 1).toNat < levelOf (lines.lineAt n)

theorem shiftEdits_eq_nil (h : ¬Moves config lines n shift) :
    shiftEdits config lines n shift = [] := by
  rw [shiftEdits, if_pos]
  by_contra hNot
  obtain ⟨hRoot, hFloor⟩ := not_or.mp hNot
  exact h ⟨Nat.pos_of_ne_zero hRoot, fun hOut => Nat.lt_of_not_le fun hLe => hFloor ⟨hOut, hLe⟩⟩

/-- The edits that move a subtree: one for each heading that does not keep its level. -/
theorem mem_shiftEdits_iff (h : Moves config lines n shift) {edit : Edit} :
    edit ∈ shiftEdits config lines n shift ↔
      ∃ m, (n ≤ m ∧ m ≤ subtreeEnd lines n) ∧ 0 < levelOf (lines.lineAt m) ∧
        shiftedLevel (max config.minLevel 1) shift (levelOf (lines.lineAt m)) ≠
          levelOf (lines.lineAt m) ∧
        edit = ⟨.onLine m 0 (levelOf (lines.lineAt m)),
          List.replicate (shiftedLevel (max config.minLevel 1) shift (levelOf (lines.lineAt m)))
            '*'⟩ := by
  have hActive : ¬(levelOf (lines.lineAt n) = 0 ∨
      shift = .outward ∧ levelOf (lines.lineAt n) ≤ (max config.minLevel 1).toNat) := by
    rintro (hRoot | ⟨hOut, hLe⟩)
    · exact Nat.ne_of_gt h.root hRoot
    · exact absurd hLe (Nat.not_le.mpr (h.floor hOut))
  have hEnd := endsAt_subtreeEnd h.root
  rw [shiftEdits, if_neg hActive, List.mem_filterMap]
  constructor
  · rintro ⟨⟨l, m⟩, hMem, hEdit⟩
    obtain ⟨hLow, hHigh, -, rfl⟩ := Lines.mk_mem_take_onward_iff.mp hMem
    simp only [Option.ite_none_left_eq_some, Option.some.injEq, not_or] at hEdit
    obtain ⟨⟨hLevel, hTarget⟩, rfl⟩ := hEdit
    exact ⟨m, ⟨hLow, by omega⟩, Nat.pos_of_ne_zero hLevel, hTarget, rfl⟩
  · rintro ⟨m, ⟨hLow, hHigh⟩, hLevel, hTarget, rfl⟩
    refine ⟨(lines.lineAt m, m), Lines.mk_mem_take_onward_iff.mpr
      ⟨hLow, by omega, lt_length_of_levelOf_pos hLevel, rfl⟩, ?_⟩
    exact if_neg (not_or.mpr ⟨Nat.ne_of_gt hLevel, hTarget⟩)

/-- **What moving a subtree does to each line.** -/
theorem lineAt_rewrite_shiftEdits (h : Moves config lines n shift) (m : Nat) :
    (Batch.rewrite (shiftEdits config lines n shift) lines).lineAt m =
      if n ≤ m ∧ m ≤ subtreeEnd lines n then moved config shift (lines.lineAt m)
      else lines.lineAt m := by
  have hInPlace := inPlace_shiftEdits config lines n shift
  -- A line without an edit is outside, no heading, or a heading that keeps its level.
  by_cases hEdit : ∃ edit ∈ shiftEdits config lines n shift, edit.span.start.line = m
  · obtain ⟨edit, hMem, hLine⟩ := hEdit
    have hRewrite := hInPlace.lineAt_rewrite hMem
    obtain ⟨m', hInside, hLevel, -, rfl⟩ := (mem_shiftEdits_iff h).mp hMem
    have hLine : m' = m := hLine
    subst hLine
    rw [if_pos hInside, moved, if_neg (Nat.ne_of_gt hLevel), withLevel]
    exact hRewrite
  · have hNone : ∀ edit ∈ shiftEdits config lines n shift, edit.span.start.line ≠ m :=
      fun edit hMem hLine => hEdit ⟨edit, hMem, hLine⟩
    rw [Batch.lineAt_rewrite_of_forall_ne hNone]
    split
    · next hInside =>
      rw [moved]
      split
      · rfl
      · next hLevel =>
        have hLevel := Nat.pos_of_ne_zero hLevel
        have hKeeps : shiftedLevel (max config.minLevel 1) shift (levelOf (lines.lineAt m)) =
            levelOf (lines.lineAt m) := by
          by_contra hTarget
          exact hNone _ ((mem_shiftEdits_iff h).mpr ⟨m, hInside, hLevel, hTarget, rfl⟩) rfl
        rw [hKeeps, withLevel_levelOf hLevel]
    · rfl

/-! ## Levels after a move -/

/-- The floor, read as a signed word, is at most the floor itself. -/
theorem toInt_floor_le (floor : UInt64) : floor.toInt64.toInt ≤ floor.toNat := by
  have hSigned : floor.toInt64.toInt = floor.toBitVec.toInt := rfl
  rw [hSigned, BitVec.toInt_eq_toNat_cond]
  split
  · exact Int.le_refl _
  · exact Int.sub_le_self _ (Int.natCast_nonneg _)

theorem toNat_floor (config : Config) :
    (max config.minLevel 1).toNat = max config.minLevel.toNat 1 :=
  UInt64.toNat_max ..

/-- A heading goes one level in the direction of the shift, but not above the floor. -/
theorem natCast_shiftedLevel (floor : UInt64) (shift : Shift) (h : 0 < level) :
    (shiftedLevel floor shift level : Int) = max (level + shift.delta) floor.toInt64.toInt := by
  cases shift <;> simp only [shiftedLevel, Shift.delta] <;> omega

theorem levelOf_moved (h : 0 < levelOf line) :
    levelOf (moved config shift line) =
      shiftedLevel (max config.minLevel 1) shift (levelOf line) := by
  rw [moved, if_neg (Nat.ne_of_gt h), levelOf_withLevel h]

theorem drop_moved (h : 0 < levelOf line) :
    (moved config shift line).drop (levelOf (moved config shift line)) =
      line.drop (levelOf line) := by
  rw [moved, if_neg (Nat.ne_of_gt h), drop_withLevel h]

theorem levelOf_moved_outward (h : (max config.minLevel 1).toNat < levelOf line) :
    levelOf (moved config .outward line) + 1 = levelOf line := by
  have hPos : 0 < levelOf line := by omega
  have hFloor := toInt_floor_le (max config.minLevel 1)
  have hLevel := natCast_shiftedLevel (max config.minLevel 1) .outward hPos
  rw [levelOf_moved hPos]
  simp only [Shift.delta] at hLevel
  omega

theorem levelOf_moved_inward (hPos : 0 < levelOf line)
    (h : (max config.minLevel 1).toNat ≤ levelOf line) :
    levelOf (moved config .inward line) = levelOf line + 1 := by
  have hFloor := toInt_floor_le (max config.minLevel 1)
  have hLevel := natCast_shiftedLevel (max config.minLevel 1) .inward hPos
  rw [levelOf_moved hPos]
  simp only [Shift.delta] at hLevel
  omega

/-- A heading that is not above the floor gets one more star. -/
theorem moved_inward_eq_cons (hPos : 0 < levelOf line)
    (h : (max config.minLevel 1).toNat ≤ levelOf line) :
    moved config .inward line = '*' :: line := by
  have hLevel := levelOf_moved_inward hPos h
  rw [levelOf_moved hPos] at hLevel
  rw [moved, if_neg (Nat.ne_of_gt hPos), hLevel, withLevel_succ hPos]

/-- A second move takes the first one back when it gives a heading the level that it had. -/
theorem moved_moved_eq {shift shift' : Shift}
    (h : 0 < levelOf line → 0 < levelOf (moved config shift line) ∧
      levelOf (moved config shift' (moved config shift line)) = levelOf line) :
    moved config shift' (moved config shift line) = line := by
  by_cases hBody : levelOf line = 0
  · simp [moved, hBody]
  · -- Both moves replace the stars of the same line.
    have hPos := Nat.pos_of_ne_zero hBody
    obtain ⟨hFirst, hSecond⟩ := h hPos
    rw [levelOf_moved hFirst] at hSecond
    have hWith : moved config shift line = withLevel (levelOf (moved config shift line)) line := by
      rw [levelOf_moved hPos, moved, if_neg hBody]
    conv_lhs => rw [moved, if_neg (Nat.ne_of_gt hFirst), hSecond, hWith]
    rw [withLevel_withLevel hPos, withLevel_levelOf hPos]

/-- Demotion gives a heading the star back that promotion took. -/
theorem moved_inward_moved_outward
    (h : 0 < levelOf line → (max config.minLevel 1).toNat < levelOf line) :
    moved config .inward (moved config .outward line) = line := by
  apply moved_moved_eq
  intro hPos
  have hFloor := toNat_floor config
  have hLevel := h hPos
  have hUp := levelOf_moved_outward hLevel
  have hUpPos : 0 < levelOf (moved config .outward line) := by omega
  exact ⟨hUpPos, by rw [levelOf_moved_inward hUpPos (by omega), hUp]⟩

/-- Promotion takes the star from a heading that demotion gave to it. -/
theorem moved_outward_moved_inward
    (h : 0 < levelOf line → (max config.minLevel 1).toNat ≤ levelOf line) :
    moved config .outward (moved config .inward line) = line := by
  apply moved_moved_eq
  intro hPos
  have hDown : levelOf (moved config .inward line) = levelOf line + 1 :=
    levelOf_moved_inward hPos (h hPos)
  have hLevel := h hPos
  have hAbove : (max config.minLevel 1).toNat < levelOf (moved config .inward line) := by omega
  have hUp := levelOf_moved_outward hAbove
  exact ⟨by omega, by omega⟩

/-! ## Moving a subtree by one level -/

/-- A document takes the edits that move a subtree, and each line becomes what a moved line is. -/
theorem exists_edit?_shiftEdits {d : Document} (hLines : d.lines.Unbroken)
    (h : Moves config d.lines n shift) :
    ∃ d', d.edit? (shiftEdits config d.lines n shift) = some d' ∧ d'.lines.Unbroken ∧
      d'.lineEnd = d.lineEnd ∧ d'.lines.length = d.lines.length ∧
      ∀ m, d'.lines.lineAt m = if n ≤ m ∧ m ≤ subtreeEnd d.lines n
        then moved config shift (d.lines.lineAt m) else d.lines.lineAt m := by
  obtain ⟨d', hEdit, hLines', hEnd⟩ := (inPlace_shiftEdits config d.lines n shift).exists_edit?_eq
    hLines (unbroken_shiftEdits config d.lines n shift)
  refine ⟨d', hEdit, ?_, hEnd, by rw [hLines', Batch.length_rewrite], fun m => ?_⟩
  · rw [hLines']
    exact Batch.Unbroken.rewrite (unbroken_shiftEdits config d.lines n shift) hLines
  · rw [hLines', lineAt_rewrite_shiftEdits h]

/-- **Moving a subtree.** When there are edits to move a subtree, a document without carriage returns
takes them. They change nothing but the stars of the headings in the subtree: a heading goes one
level in the direction of the shift, or to the floor where that is further down. All headings go by
exactly one level when the subtree is promoted, or when the root is demoted to the floor or below;
otherwise they do not. -/
theorem move_by_one_iff (config : Config) {d : Document} (hReturn : ∀ l ∈ d.lines, '\r' ∉ l)
    (hEdits : shiftEdits config d.lines n shift ≠ []) :
    ∃ d', d.edit? (shiftEdits config d.lines n shift) = some d' ∧ d'.lineEnd = d.lineEnd ∧
      d'.lines.length = d.lines.length ∧
      (∀ m, m < n ∨ subtreeEnd d.lines n < m ∨ levelOf (d.lines.lineAt m) = 0 →
        d'.lines.lineAt m = d.lines.lineAt m) ∧
      (∀ m, n ≤ m → m ≤ subtreeEnd d.lines n → 0 < levelOf (d.lines.lineAt m) →
        (d'.lines.lineAt m).drop (levelOf (d'.lines.lineAt m)) =
            (d.lines.lineAt m).drop (levelOf (d.lines.lineAt m)) ∧
          (levelOf (d'.lines.lineAt m) : Int) =
            max (levelOf (d.lines.lineAt m) + shift.delta)
              (max config.minLevel 1).toInt64.toInt) ∧
      ((∀ m, n ≤ m → m ≤ subtreeEnd d.lines n → 0 < levelOf (d.lines.lineAt m) →
          (levelOf (d'.lines.lineAt m) : Int) = levelOf (d.lines.lineAt m) + shift.delta) ↔
        shift = .outward ∨
          (max config.minLevel 1).toInt64.toInt ≤ levelOf (d.lines.lineAt n) + 1) := by
  have hMoves : Moves config d.lines n shift := by
    by_contra hNot
    exact hEdits (shiftEdits_eq_nil hNot)
  have hEnds := endsAt_subtreeEnd hMoves.root
  obtain ⟨d', hEdit, -, hEnd, hLength, hLine⟩ :=
    exists_edit?_shiftEdits (Document.unbroken_lines hReturn) hMoves
  have hLevel : ∀ m, n ≤ m → m ≤ subtreeEnd d.lines n → 0 < levelOf (d.lines.lineAt m) →
      (levelOf (d'.lines.lineAt m) : Int) =
        max (levelOf (d.lines.lineAt m) + shift.delta) (max config.minLevel 1).toInt64.toInt := by
    intro m hnm hme hm
    rw [hLine, if_pos ⟨hnm, hme⟩, levelOf_moved hm, natCast_shiftedLevel _ _ hm]
  refine ⟨d', hEdit, hEnd, hLength, ?_, ?_, ?_⟩
  · -- Outside the subtree nothing is edited, and inside it only headings are.
    intro m hm
    rw [hLine]
    split
    · next hInside => rw [moved, if_pos (by omega)]
    · rfl
  · intro m hnm hme hm
    refine ⟨?_, hLevel m hnm hme hm⟩
    rw [hLine, if_pos ⟨hnm, hme⟩, drop_moved hm]
  · constructor
    · -- The root itself is one of the headings.
      intro hAll
      have hRoot := hAll n (Nat.le_refl n) hEnds.le hMoves.root
      rw [hLevel n (Nat.le_refl n) hEnds.le hMoves.root] at hRoot
      cases shift with
      | outward => exact Or.inl rfl
      | inward =>
        simp only [Shift.delta] at hRoot
        exact Or.inr (by omega)
    · -- The other headings of the subtree are below the root, and further from the floor.
      intro hFloor m hnm hme hm
      rw [hLevel m hnm hme hm]
      have hBelow : levelOf (d.lines.lineAt n) ≤ levelOf (d.lines.lineAt m) := by
        rcases Nat.eq_or_lt_of_le hnm with rfl | hnm
        · exact Nat.le_refl _
        · exact Nat.le_of_lt (hEnds.lt_levelOf hnm hme hm)
      have hSigned := toInt_floor_le (max config.minLevel 1)
      cases shift with
      | outward =>
        have := hMoves.floor rfl
        simp only [Shift.delta]
        omega
      | inward =>
        have := hFloor.resolve_left (by simp)
        simp only [Shift.delta]
        omega

/-- A subtree one level above the floor is demoted by one level. -/
theorem move_by_one_iff_above_floor :
    ∃ d', (Document.ofText "* A\n** B".toList).edit?
        (shiftEdits { minLevel := 2 } ["* A".toList, "** B".toList] 0 .inward) = some d' ∧
      ∀ m, 0 ≤ m → m ≤ subtreeEnd ["* A".toList, "** B".toList] 0 →
        0 < levelOf (Lines.lineAt ["* A".toList, "** B".toList] m) →
        (levelOf (d'.lines.lineAt m) : Int) =
          levelOf (Lines.lineAt ["* A".toList, "** B".toList] m) + 1 := by
  have hEdits : shiftEdits { minLevel := 2 } (Document.ofText "* A\n** B".toList).lines 0
      .inward ≠ [] := by
    decide
  obtain ⟨d', hEdit, -, -, -, -, hIff⟩ := move_by_one_iff { minLevel := 2 } (by decide) hEdits
  exact ⟨d', hEdit, hIff.mpr (Or.inr (by decide))⟩

/-- Two levels above the floor both headings land on the floor. -/
theorem flattened_at_floor :
    ((Document.ofText "* A\n** B".toList).edit?
        (shiftEdits { minLevel := 3 } ["* A".toList, "** B".toList] 0 .inward)).map
          Document.lines =
      some ["*** A".toList, "*** B".toList] := by
  decide

/-! ## Where a moved subtree ends -/

/-- A body line does not move, and closes no subtree. So only headings are to be looked at. -/
theorem closes_moved_eq_false (h : 0 < levelOf line → level < levelOf (moved config shift line)) :
    closes level (moved config shift line) = false := by
  rw [closes_eq_false_iff]
  intro hMoved
  by_cases hBody : levelOf line = 0
  · rw [moved, if_pos hBody] at hMoved
    omega
  · exact h (Nat.pos_of_ne_zero hBody)

section

variable {lines' : Lines} (hLength : lines'.length = lines.length)
  (hLine : ∀ m, lines'.lineAt m = if n ≤ m ∧ m ≤ subtreeEnd lines n
    then moved config shift (lines.lineAt m) else lines.lineAt m)

include hLength hLine

/-- A moved subtree ends where it ended before if its headings are below the new level of the root,
and the heading that follows it, which has not moved, is not. -/
theorem endsAt_moved (hPos : 0 < levelOf (lines.lineAt n))
    (hInside : ∀ m, n < m → m ≤ subtreeEnd lines n →
      closes level (moved config shift (lines.lineAt m)) = false)
    (hNext : closes (levelOf (lines.lineAt n)) (lines.lineAt (subtreeEnd lines n + 1)) = true →
      closes level (lines.lineAt (subtreeEnd lines n + 1)) = true) :
    EndsAt lines' n level (subtreeEnd lines n) := by
  have hEnds := endsAt_subtreeEnd hPos
  refine ⟨hEnds.le, by rw [hLength]; exact hEnds.lt_length, ?_, ?_⟩
  · intro m hnm hme
    rw [hLine, if_pos ⟨Nat.le_of_lt hnm, hme⟩]
    exact hInside m hnm hme
  · intro hLt
    rw [hLine, if_neg (by omega)]
    exact hNext (hEnds.next (by omega))

end

/-! ## Promotion taken back -/

section Promoted

variable {lines' : Lines} (hRoot : (max config.minLevel 1).toNat < levelOf (lines.lineAt n))
  (hLine : ∀ m, lines'.lineAt m = if n ≤ m ∧ m ≤ subtreeEnd lines n
    then moved config .outward (lines.lineAt m) else lines.lineAt m)

include hRoot

/-- Below a promoted root the levels have gone down with its own. -/
theorem closes_moved_outward (hnm : n < m) (hme : m ≤ subtreeEnd lines n) :
    closes (levelOf (lines.lineAt n) - 1) (moved config .outward (lines.lineAt m)) = false := by
  apply closes_moved_eq_false
  intro hPos
  have hEnds := endsAt_subtreeEnd (by omega : 0 < levelOf (lines.lineAt n))
  have hBelow := hEnds.lt_levelOf hnm hme hPos
  have hUp : levelOf (moved config .outward (lines.lineAt m)) + 1 = levelOf (lines.lineAt m) :=
    levelOf_moved_outward (by omega)
  omega

include hLine

/-- So the lines that close a subtree at the new level of the root are the ones that did before. -/
theorem closes_promoted (hnm : n < m) :
    closes (levelOf (lines.lineAt n) - 1) (lines'.lineAt m) =
      closes (levelOf (lines.lineAt n) - 1) (lines.lineAt m) := by
  rw [hLine]
  split
  · next hInside =>
    have hEnds := endsAt_subtreeEnd (by omega : 0 < levelOf (lines.lineAt n))
    have hOpen : closes (levelOf (lines.lineAt n) - 1) (lines.lineAt m) = false := by
      rw [closes_eq_false_iff]
      intro hPos
      have hBelow := hEnds.lt_levelOf hnm hInside.2 hPos
      omega
    rw [closes_moved_outward hRoot hnm hInside.2, hOpen]
  · rfl

/-- A promoted subtree goes on to the next heading above the level that its root had. -/
theorem endsAt_of_promoted (hLength : lines'.length = lines.length)
    (h : EndsAt lines' n (levelOf (lines.lineAt n) - 1) e) :
    EndsAt lines n (levelOf (lines.lineAt n) - 1) e := by
  refine ⟨h.le, hLength ▸ h.lt_length, fun m hnm hme => ?_, fun hLt => ?_⟩
  · rw [← closes_promoted hRoot hLine hnm]
    exact h.inside m hnm hme
  · rw [← closes_promoted hRoot hLine (Nat.lt_succ_of_le h.le)]
    exact h.next (hLength ▸ hLt)

/-- **What demotion leaves of a promotion.** A heading of the old subtree goes there and back. The
headings that the subtree has gained in between have one more star. -/
theorem lineAt_demoted {lines'' : Lines}
    (hEnds' : EndsAt lines n (levelOf (lines.lineAt n) - 1) e)
    (hLine' : ∀ m, lines''.lineAt m = if n ≤ m ∧ m ≤ e
      then moved config .inward (lines'.lineAt m) else lines'.lineAt m) (m : Nat) :
    lines''.lineAt m =
      if subtreeEnd lines n < m ∧ m ≤ e ∧ 0 < levelOf (lines.lineAt m)
      then '*' :: lines.lineAt m else lines.lineAt m := by
  have hEnds := endsAt_subtreeEnd (by omega : 0 < levelOf (lines.lineAt n))
  have hLow := hEnds.le
  have hHigh := hEnds.le_of_le hEnds' (Nat.sub_le _ 1)
  by_cases hOld : n ≤ m ∧ m ≤ subtreeEnd lines n
  · rw [hLine', if_pos (by omega), hLine, if_pos hOld, if_neg (by omega)]
    apply moved_inward_moved_outward
    intro hPos
    rcases Nat.eq_or_lt_of_le hOld.1 with rfl | hnm
    · exact hRoot
    · exact Nat.lt_trans hRoot (hEnds.lt_levelOf hnm hOld.2 hPos)
  · -- Promotion has left the line alone.
    rw [hLine', hLine, if_neg hOld]
    by_cases hGained : subtreeEnd lines n < m ∧ m ≤ e
    · rw [if_pos (by omega)]
      by_cases hBody : levelOf (lines.lineAt m) = 0
      · rw [moved, if_pos hBody, if_neg (by omega)]
      · have hPos := Nat.pos_of_ne_zero hBody
        have hLevel := hEnds'.lt_levelOf (by omega) hGained.2 hPos
        rw [if_pos ⟨hGained.1, hGained.2, hPos⟩]
        exact moved_inward_eq_cons hPos (by omega)
    · rw [if_neg (by omega), if_neg (by omega)]

end Promoted

/-- **Promotion taken back.** Above the floor a heading of a document without carriage returns can
be promoted and then demoted. That restores the document exactly when no sibling follows its
subtree, that is, when the next heading of its level or a higher one is of a higher level, or there
is none. For exactly then the promoted subtree ends where the old one did. It always ends in front
of the next heading of a higher level than its root had: so it owns a sibling, and demotion takes
along what it owns. Of the lines behind the old subtree and in the promoted one each heading has one
more star in the end; all other lines are restored. -/
theorem demote_promote_eq_iff (config : Config) {d : Document} {n : Nat}
    (hReturn : ∀ l ∈ d.lines, '\r' ∉ l)
    (hLevel : max 1 config.minLevel.toNat < levelOf (d.lines.lineAt n)) :
    ∃ d₁ d₂, d.edit? (shiftEdits config d.lines n .outward) = some d₁ ∧
      d₁.edit? (shiftEdits config d₁.lines n .inward) = some d₂ ∧
      (d₂ = d ↔
        levelOf (d.lines.lineAt (subtreeEnd d.lines n + 1)) ≠ levelOf (d.lines.lineAt n)) ∧
      (subtreeEnd d.lines n < subtreeEnd d₁.lines n ↔
        levelOf (d.lines.lineAt (subtreeEnd d.lines n + 1)) = levelOf (d.lines.lineAt n)) ∧
      EndsAt d.lines n (levelOf (d.lines.lineAt n) - 1) (subtreeEnd d₁.lines n) ∧
      d₂.lineEnd = d.lineEnd ∧ d₂.lines.length = d.lines.length ∧
      ∀ m, d₂.lines.lineAt m =
        if subtreeEnd d.lines n < m ∧ m ≤ subtreeEnd d₁.lines n ∧ 0 < levelOf (d.lines.lineAt m)
        then '*' :: d.lines.lineAt m else d.lines.lineAt m := by
  have hFloor := toNat_floor config
  have hRoot : (max config.minLevel 1).toNat < levelOf (d.lines.lineAt n) := by omega
  have hPos : 0 < levelOf (d.lines.lineAt n) := by omega
  have hEnds := endsAt_subtreeEnd hPos
  obtain ⟨d₁, hEdit₁, hUnbroken₁, hEnd₁, hLength₁, hLine₁⟩ :=
    exists_edit?_shiftEdits (Document.unbroken_lines hReturn)
      (⟨hPos, fun _ => hRoot⟩ : Moves config d.lines n .outward)
  have hRoot₁ : levelOf (d₁.lines.lineAt n) = levelOf (d.lines.lineAt n) - 1 := by
    rw [hLine₁, if_pos ⟨Nat.le_refl n, hEnds.le⟩, ← levelOf_moved_outward hRoot,
      Nat.add_sub_cancel]
  obtain ⟨d₂, hEdit₂, -, hEnd₂, hLength₂, hLine₂⟩ := exists_edit?_shiftEdits hUnbroken₁
    (⟨by omega, fun h => by contradiction⟩ : Moves config d₁.lines n .inward)
  have hEnds₁ := endsAt_subtreeEnd (by omega : 0 < levelOf (d₁.lines.lineAt n))
  rw [hRoot₁] at hEnds₁
  have hEnds₁ := endsAt_of_promoted hRoot hLine₁ hLength₁ hEnds₁
  have hSibling := hEnds.lt_iff hEnds₁ hPos
  have hLine := lineAt_demoted hRoot hLine₁ hEnds₁ hLine₂
  have hEnd := hEnd₂.trans hEnd₁
  have hLength := hLength₂.trans hLength₁
  refine ⟨d₁, d₂, hEdit₁, hEdit₂, ?_, hSibling, hEnds₁, hEnd, hLength, hLine⟩
  rw [Ne, ← hSibling, Nat.not_lt]
  constructor
  · -- A sibling would come out of it with one more star.
    rintro rfl
    by_contra hGained
    have hNext := hSibling.mp (Nat.lt_of_not_le hGained)
    have hStar := hLine (subtreeEnd d₂.lines n + 1)
    rw [if_pos ⟨Nat.lt_succ_self _, by omega, by omega⟩] at hStar
    exact List.cons_ne_self _ _ hStar.symm
  · -- Otherwise no line has been gained.
    intro hSame
    apply Document.eq_of_lines _ hEnd
    apply Lines.ext_lineAt hLength
    intro m
    rw [hLine, if_neg (by omega)]

/-- A subtree in front of a heading of a higher level. -/
theorem demote_promote_eq_iff_last_child :
    ∃ d₁ d₂, (Document.ofText "* A\n** B\n*** C\n* D".toList).edit?
        (shiftEdits {} ["* A".toList, "** B".toList, "*** C".toList, "* D".toList] 1 .outward) =
          some d₁ ∧
      d₁.edit? (shiftEdits {} d₁.lines 1 .inward) = some d₂ ∧
      d₂ = .ofText "* A\n** B\n*** C\n* D".toList := by
  obtain ⟨d₁, d₂, hEdit₁, hEdit₂, hIff, -⟩ := demote_promote_eq_iff {} (n := 1)
    (d := .ofText "* A\n** B\n*** C\n* D".toList) (by decide) (by decide)
  exact ⟨d₁, d₂, hEdit₁, hEdit₂, hIff.mpr (by decide)⟩

/-- A subtree in front of a sibling: the sibling ends up one level further down. -/
theorem sibling_taken_along :
    ((Document.ofText "* A\n** B\n** C".toList).edit?
        (shiftEdits {} ["* A".toList, "** B".toList, "** C".toList] 1 .outward)).bind
          (fun d => (d.edit? (shiftEdits {} d.lines 1 .inward)).map Document.lines) =
      some ["* A".toList, "** B".toList, "*** C".toList] := by
  decide

end Heading

end Outliner
