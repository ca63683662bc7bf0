import Outliner.Proofs.Opening
import Outliner.Proofs.Plan.Handlers

/-!
# Outliner — who owns a line

Two searches say to which item a line of text belongs. One goes up from the line to an owner; it
passes over whole blocks, whatever is in them. The other goes down from an item to its last line; it
sees nothing but indentation. They agree as long as the lines between the two are indented further
than the item, and fences are the only reason why they may not be.

* `ListItem.Beneath` — the line is no heading, and indented further than the item.
* `ListItem.Reaches` — an unbroken descent of such lines, blank ones aside, leads as far as a line.
* `Context.Fenced` — the line is in a block between the owner and the text.

Main results:

* `le_extentEnd_iff` — an item ends at a line or below it exactly when a descent leads there.
* `extentEnd_congr` — when an item still ends where it ended, though its lines have moved.
* `between_of_searchOwner` — what lies between a line and the owner that is found for it.
* `nested_insertion_below_iff` — when the two searches agree, and where a new item goes.
-/

namespace Outliner

/-! ## The search downward -/

namespace ListItem

variable {lines : Lines} {indent last n j : Nat}

/-- The line is no heading, and indented further than an item at the given indentation. -/
def Beneath (lines : Lines) (indent n : Nat) : Prop :=
  Heading.levelOf (lines.lineAt n) = 0 ∧ indent < (lines.lineAt n).indent

/-- From line `j` on, down to a line with text that is `n` or further below, every line with text is
beneath the item. -/
def Reaches (lines : Lines) (indent j n : Nat) : Prop :=
  ∃ k, j ≤ k ∧ n ≤ k ∧ k < lines.length ∧ lines.isBlankAt k = false ∧
    ∀ m, j ≤ m → m ≤ k → lines.isBlankAt m = false → Beneath lines indent m

/-- A descent passes over a blank line. -/
theorem reaches_of_isBlankAt (hBlank : lines.isBlankAt j = true) :
    Reaches lines indent j n ↔ Reaches lines indent (j + 1) n := by
  apply exists_congr
  intro k
  constructor
  · rintro ⟨hjk, hnk, hk, hText, hAll⟩
    refine ⟨?_, hnk, hk, hText, fun m hjm => hAll m (by omega)⟩
    rcases Nat.eq_or_lt_of_le hjk with rfl | hjk
    · rw [hBlank] at hText
      contradiction
    · exact hjk
  · rintro ⟨hjk, hnk, hk, hText, hAll⟩
    refine ⟨by omega, hnk, hk, hText, fun m hjm hmk hm => ?_⟩
    rcases Nat.eq_or_lt_of_le hjm with rfl | hjm
    · rw [hBlank] at hm
      contradiction
    · exact hAll m hjm hmk hm

/-- A descent may end at a line beneath the item, or go on from it. -/
theorem reaches_of_beneath (hj : j < lines.length) (hText : lines.isBlankAt j = false)
    (hBeneath : Beneath lines indent j) :
    Reaches lines indent j n ↔ n ≤ j ∨ Reaches lines indent (j + 1) n := by
  constructor
  · rintro ⟨k, hjk, hnk, hk, hTextK, hAll⟩
    rcases Nat.eq_or_lt_of_le hjk with rfl | hjk
    · exact Or.inl hnk
    · exact Or.inr ⟨k, hjk, hnk, hk, hTextK, fun m hjm => hAll m (by omega)⟩
  · rintro (hnj | ⟨k, hjk, hnk, hk, hTextK, hAll⟩)
    · refine ⟨j, Nat.le_refl j, hnj, hj, hText, fun m hjm hmj _ => ?_⟩
      rw [Nat.le_antisymm hmj hjm]
      exact hBeneath
    · refine ⟨k, by omega, hnk, hk, hTextK, fun m hjm hmk hm => ?_⟩
      rcases Nat.eq_or_lt_of_le hjm with rfl | hjm
      · exact hBeneath
      · exact hAll m hjm hmk hm

/-- No descent passes a line with text that is not beneath the item. -/
theorem not_reaches (hText : lines.isBlankAt j = false) (hBeneath : ¬Beneath lines indent j) :
    ¬Reaches lines indent j n := by
  rintro ⟨k, hjk, -, -, -, hAll⟩
  exact hBeneath (hAll j (Nat.le_refl j) hjk hText)

/-- The search downward makes the descent. -/
theorem le_follow_iff (hLast : last < j) :
    n ≤ (follow indent last (lines.onward j)).1 ↔ n ≤ last ∨ Reaches lines indent j n := by
  -- On the number of lines from `j` on; whatever the search has passed, it has not come to `n`
  -- unless `last` has.
  induction hRest : lines.length - j generalizing last j with
  | zero =>
    have hEnd : lines.onward j = [] := by
      rw [Lines.onward_eq_zipIdx, List.drop_eq_nil_of_le (by omega)]
      rfl
    have hNone : ¬Reaches lines indent j n := by
      rintro ⟨k, hjk, -, hk, -⟩
      omega
    rw [hEnd, follow]
    exact ⟨Or.inl, fun h => h.resolve_right hNone⟩
  | succ rest ih =>
    have hj : j < lines.length := by omega
    rw [Lines.onward_eq_cons hj, follow]
    split
    · next hBlank =>
      rw [ih (by omega) (by omega), reaches_of_isBlankAt hBlank]
    · next hBlank =>
      have hText : lines.isBlankAt j = false := by simpa [Lines.isBlankAt] using hBlank
      split
      · next hLevel =>
        have hNone := not_reaches (n := n) hText
          (fun h : Beneath lines indent j => absurd h.1 (by omega))
        exact ⟨Or.inl, fun h => h.resolve_right hNone⟩
      · next hLevel =>
        split
        · next hIndent =>
          have hNone := not_reaches (n := n) hText
            (fun h : Beneath lines indent j => absurd h.2 (by omega))
          exact ⟨Or.inl, fun h => h.resolve_right hNone⟩
        · next hIndent =>
          rw [ih (Nat.lt_succ_self j) (by omega),
            reaches_of_beneath hj hText ⟨by omega, by omega⟩, ← or_assoc]
          apply or_congr_left
          omega

/-- An item ends at a line below its own, or further below, exactly when a descent leads there. -/
theorem le_extentEnd_iff {o : Nat} (h : o < n) :
    n ≤ extentEnd lines o indent ↔ Reaches lines indent (o + 1) n := by
  have hFollow : n ≤ (follow indent o (lines.onward (o + 1))).1 ↔ _ :=
    le_follow_iff (Nat.lt_succ_self o)
  rw [extentEnd, extent, hFollow]
  exact ⟨fun h' => h'.resolve_left (by omega), Or.inr⟩

theorem le_extentEnd (lines : Lines) (n indent : Nat) : n ≤ extentEnd lines n indent := by
  rcases extentEnd_eq_or_lt lines n indent with h | ⟨h, -⟩
  · exact Nat.le_of_eq h.symm
  · exact Nat.le_of_lt h

/-- What an item owns below its own line is beneath it. -/
theorem beneath_of_le_extentEnd (hnj : n < j) (hj : j ≤ extentEnd lines n indent)
    (hText : lines.isBlankAt j = false) : Beneath lines indent j := by
  obtain ⟨k, -, hjk, -, -, hAll⟩ := (le_extentEnd_iff hnj).mp hj
  exact hAll j hnj hjk hText

/-- An item that owns more than its own line ends at a line with text. -/
theorem isBlankAt_extentEnd (h : n < extentEnd lines n indent) :
    lines.isBlankAt (extentEnd lines n indent) = false := by
  obtain ⟨k, hnk, hek, hk, hText, hAll⟩ := (le_extentEnd_iff h).mp (Nat.le_refl _)
  -- The descent that leads to the end stops there, or the item would go on to where it stops.
  have hke : k ≤ extentEnd lines n indent :=
    (le_extentEnd_iff (by omega)).mpr ⟨k, hnk, Nat.le_refl k, hk, hText, hAll⟩
  rw [← Nat.le_antisymm hke hek]
  exact hText

/-- **Where an item still ends,** when lines move but none goes and none turns blank: what it owns is
beneath it again, and nothing below its end has come beneath it. -/
theorem extentEnd_congr {lines' : Lines} {indent' : Nat} (hLength : lines'.length = lines.length)
    (hBlank : ∀ m, lines'.isBlankAt m = lines.isBlankAt m)
    (hOwned : ∀ m, n < m → m ≤ extentEnd lines n indent → lines.isBlankAt m = false →
      Beneath lines' indent' m)
    (hBelow : ∀ m, extentEnd lines n indent < m → lines.isBlankAt m = false →
      Beneath lines' indent' m → Beneath lines indent m) :
    extentEnd lines' n indent' = extentEnd lines n indent := by
  apply Nat.le_antisymm
  · -- A longer descent than before would have been one before.
    by_contra hLonger
    have hLow := le_extentEnd lines n indent
    obtain ⟨k, hnk, hek, hk, hText, hAll⟩ :=
      (le_extentEnd_iff (n := extentEnd lines n indent + 1) (by omega)).mp (Nat.lt_of_not_le hLonger)
    have hReaches : extentEnd lines n indent + 1 ≤ extentEnd lines n indent := by
      rw [le_extentEnd_iff (by omega)]
      refine ⟨k, hnk, hek, by omega, by rw [← hBlank]; exact hText, fun m hnm hmk hm => ?_⟩
      rcases Nat.lt_or_ge (extentEnd lines n indent) m with hme | hme
      · exact hBelow m hme hm (hAll m hnm hmk (by rw [hBlank]; exact hm))
      · exact beneath_of_le_extentEnd hnm hme hm
    omega
  · rcases extentEnd_eq_or_lt lines n indent with hOwn | ⟨hLow, hHigh⟩
    · rw [hOwn]
      exact le_extentEnd lines' n indent'
    · rw [le_extentEnd_iff hLow]
      refine ⟨_, hLow, Nat.le_refl _, by omega, by rw [hBlank]; exact isBlankAt_extentEnd hLow, ?_⟩
      intro m hnm hme hm
      exact hOwned m hnm hme (by rw [← hBlank]; exact hm)

end ListItem

/-! ## The search upward -/

namespace Context

variable {config : Config} {lines : Lines} {n o : Nat} {item : ListItem}

/-- Line `m` is in a block, fences included, that lies between the lines `o` and `n`. -/
def Fenced (lines : Lines) (o n m : Nat) : Prop :=
  ∃ first last, o < first ∧ first ≤ m ∧ m ≤ last ∧ last < n ∧
    (Block.parseBegin? (lines.lineAt first)).isSome = true ∧
    Block.isEnd (lines.lineAt last) = true

/-- What the search upward from line `n` has found out when it comes to line `k`, `fences` closing
fences open, and then ends at the item on line `o`. -/
structure Between (lines : Lines) (n k o : Nat) (item : ListItem) (floor fences : Nat) : Prop where
  indent_lt : item.indent < floor
  below : o < k
  /-- For every open closing fence there is an opening fence above. -/
  opening : 0 < fences → ∃ first, o < first ∧ first < k ∧
    (Block.parseBegin? (lines.lineAt first)).isSome = true
  body : ∀ m, o < m → m < k → lines.isBlankAt m = false → Heading.levelOf (lines.lineAt m) = 0
  indented : ∀ m, o < m → m < k → lines.isBlankAt m = false →
    item.indent < (lines.lineAt m).indent ∨ Fenced lines o n m

/-- What is known of the lines below line `k` and of line `k` itself is known of the lines below the
next one. -/
theorem Between.succ {k floor fences floor' fences' : Nat}
    (h : Between lines n k o item floor' fences') (hFloor : floor' ≤ floor)
    (hOpening : 0 < fences → 0 < fences' ∨ (Block.parseBegin? (lines.lineAt k)).isSome = true)
    (hBody : lines.isBlankAt k = false → Heading.levelOf (lines.lineAt k) = 0)
    (hIndented : lines.isBlankAt k = false →
      item.indent < (lines.lineAt k).indent ∨ Fenced lines o n k) :
    Between lines n (k + 1) o item floor fences where
  indent_lt := Nat.lt_of_lt_of_le h.indent_lt hFloor
  below := Nat.lt_succ_of_lt h.below
  opening hFences := by
    rcases hOpening hFences with hFences | hBegin
    · obtain ⟨first, hLow, hHigh, hBegin⟩ := h.opening hFences
      exact ⟨first, hLow, by omega, hBegin⟩
    · exact ⟨k, h.below, Nat.lt_succ_self k, hBegin⟩
  body m hom hmk hText := by
    rcases Nat.eq_or_lt_of_le (Nat.le_of_lt_succ hmk) with rfl | hmk
    · exact hBody hText
    · exact h.body m hom hmk hText
  indented m hom hmk hText := by
    rcases Nat.eq_or_lt_of_le (Nat.le_of_lt_succ hmk) with rfl | hmk
    · exact hIndented hText
    · exact h.indented m hom hmk hText

/-- **The search upward.** Between a line and the owner that is found for it there are no headings,
and what is not indented further than the owner is in a block. -/
theorem between_of_searchOwner {limit floor blanks fences k : Nat} (hk : k ≤ lines.length)
    (hkn : k ≤ n)
    (hClosing : 0 < fences → ∃ last, k ≤ last ∧ last < n ∧ Block.isEnd (lines.lineAt last) = true)
    (h : searchOwner limit floor blanks fences (lines.above k) = .owner o item) :
    Between lines n k o item floor fences := by
  -- On the line that the search comes to. Fences are matched in both directions: a closing fence
  -- below is a hypothesis, the opening fence above it comes out of the induction.
  induction k generalizing floor blanks fences with
  | zero => simp [Lines.above, searchOwner] at h
  | succ k ih =>
    rw [Lines.above_succ (by omega)] at h
    have hClosing' : 0 < fences →
        ∃ last, k ≤ last ∧ last < n ∧ Block.isEnd (lines.lineAt last) = true := by
      intro hFences
      obtain ⟨last, hLow, hHigh, hEnd⟩ := hClosing hFences
      exact ⟨last, by omega, hHigh, hEnd⟩
    cases ownerStep_of_searchOwner h with
    -- A blank line asks for nothing. A fence, and what is inside fences, is fenced. Other text
    -- lowers the floor, and the owner is left of the floor.
    | blank hBlank hRest =>
      have hBlank : ¬lines.isBlankAt k = false := by
        rw [Lines.isBlankAt, hBlank]
        decide
      have hAbove := ih (by omega) (by omega) hClosing' hRest
      exact hAbove.succ (Nat.le_refl _) Or.inl (fun hText => absurd hText hBlank)
        (fun hText => absurd hText hBlank)
    | closing hBlank hBody hEnd hRest =>
      have hAbove := ih (by omega) (by omega)
        (fun _ => ⟨k, Nat.le_refl k, by omega, hEnd⟩) hRest
      obtain ⟨first, hLow, hHigh, hBegin⟩ := hAbove.opening (Nat.succ_pos _)
      exact hAbove.succ (Nat.le_refl _) (fun _ => Or.inl (Nat.succ_pos _)) (fun _ => hBody)
        (fun _ => Or.inr
          ⟨first, k, hLow, Nat.le_of_lt hHigh, Nat.le_refl k, by omega, hBegin, hEnd⟩)
    | @opening hBlank hBody hBegin open' hFences hRest =>
      obtain ⟨last, hLow, hHigh, hEnd⟩ := hClosing' (by omega)
      have hAbove := ih (by omega) (by omega) (fun _ => ⟨last, hLow, hHigh, hEnd⟩) hRest
      exact hAbove.succ (Nat.le_refl _) (fun _ => Or.inr hBegin) (fun _ => hBody)
        (fun _ => Or.inr
          ⟨k, last, hAbove.below, Nat.le_refl k, hLow, hHigh, hBegin, hEnd⟩)
    | inside hBlank hBody hFences hRest =>
      have hAbove := ih (by omega) (by omega) hClosing' hRest
      obtain ⟨first, hLow, hHigh, hBegin⟩ := hAbove.opening hFences
      obtain ⟨last, hLow', hHigh', hEnd⟩ := hClosing' hFences
      exact hAbove.succ (Nat.le_refl _) Or.inl (fun _ => hBody)
        (fun _ => Or.inr
          ⟨first, last, hLow, Nat.le_of_lt hHigh, hLow', hHigh', hBegin, hEnd⟩)
    | owner hBlank hBody hFences hParse hLine hIndent =>
      subst hLine
      exact ⟨hIndent, Nat.lt_succ_self k, fun h => by omega, fun m _ _ => by omega,
        fun m _ _ => by omega⟩
    | text hBlank hBody hFences hParse hFloor hIndent hRest =>
      subst hFences
      have hAbove := ih (by omega) (by omega) (fun h => absurd h (Nat.lt_irrefl 0)) hRest
      have hLt := hAbove.indent_lt
      exact hAbove.succ (Nat.min_le_left _ _) Or.inl (fun _ => hBody)
        (fun _ => Or.inl (by omega))

/-- What lies between a line and its owner. The line itself exists. -/
theorem between_of_ownerOf (h : ownerOf config lines n = .owner o item) :
    n < lines.length ∧ Between lines n n o item (lines.lineAt n).indent 0 := by
  have hNoFence : 0 < 0 →
      ∃ last, n ≤ last ∧ last < n ∧ Block.isEnd (lines.lineAt last) = true :=
    fun h => absurd h (Nat.lt_irrefl 0)
  rw [ownerOf] at h
  split at h
  · contradiction
  · rcases Nat.lt_or_ge n lines.length with hn | hn
    · exact ⟨hn, between_of_searchOwner (Nat.le_of_lt hn) (Nat.le_refl n) hNoFence h⟩
    · -- Past the last line there is no indentation for an item to be left of.
      have hAbove : lines.above n = lines.above lines.length := by
        rw [Lines.above, Lines.above, Lines.take_numbered, Lines.take_numbered,
          List.take_of_length_le hn, List.take_length]
      rw [hAbove] at h
      have hBetween := between_of_searchOwner (n := n) (Nat.le_refl _) hn
        (fun h => absurd h (Nat.lt_irrefl 0)) h
      have hIndent := hBetween.indent_lt
      rw [Lines.lineAt_of_length_le hn] at hIndent
      exact absurd hIndent (Nat.not_lt_zero _)

end Context

/-! ## Where the two searches agree -/

namespace Context

/-- Every line with text between the item on line `o` and line `n` is indented further than the
item. -/
def Indented (lines : Lines) (indent o n : Nat) : Prop :=
  ∀ m, o < m → m < n → lines.isBlankAt m = false → indent < (lines.lineAt m).indent

variable {config : Config} {lines : Lines} {n o : Nat} {item : ListItem}

/-- A line of text is reached by its owner when no block in between is indented too little. -/
theorem le_extentEnd_iff_indented (h : ownerOf config lines n = .owner o item)
    (hText : lines.isBlankAt n = false) :
    n ≤ ListItem.extentEnd lines o item.indent ↔ Indented lines item.indent o n := by
  obtain ⟨hn, hBetween⟩ := between_of_ownerOf h
  rw [ListItem.le_extentEnd_iff hBetween.below]
  constructor
  · rintro ⟨k, -, hnk, -, -, hAll⟩ m hom hmn hm
    exact (hAll m hom (by omega) hm).2
  · intro hIndented
    refine ⟨n, hBetween.below, Nat.le_refl n, hn, hText, fun m hom hmn hm => ?_⟩
    rcases Nat.eq_or_lt_of_le hmn with rfl | hmn
    · have hIndent := hBetween.indent_lt
      exact ⟨Heading.levelOf_eq_zero_of_indent_pos (by omega), hIndent⟩
    · exact ⟨hBetween.body m hom hmn hm, hIndented m hom hmn hm⟩

/-- A blank line is reached by its owner when the owner goes on below it. -/
theorem le_extentEnd_iff_of_blank (h : ownerOf config lines n = .owner o item)
    (hBlank : lines.isBlankAt n = true) :
    n ≤ ListItem.extentEnd lines o item.indent ↔
      ∃ k, n < k ∧ k < lines.length ∧ lines.isBlankAt k = false ∧
        ∀ m, o < m → m ≤ k → lines.isBlankAt m = false →
          ListItem.Beneath lines item.indent m := by
  obtain ⟨-, hBetween⟩ := between_of_ownerOf h
  have hon := hBetween.below
  rw [ListItem.le_extentEnd_iff hon]
  -- The descent ends at a line with text, so it goes past line `n`.
  constructor
  · rintro ⟨k, -, hnk, hk, hText, hAll⟩
    refine ⟨k, ?_, hk, hText, hAll⟩
    rcases Nat.eq_or_lt_of_le hnk with rfl | hnk
    · rw [hBlank] at hText
      contradiction
    · exact hnk
  · rintro ⟨k, hnk, hk, hText, hAll⟩
    exact ⟨k, by omega, Nat.le_of_lt hnk, hk, hText, hAll⟩

/-- With a checkbox or without, a command in an item has one handler. -/
theorem ofCommand_of_item {p : Position} {command : Command} (hp : lines.Inside p)
    (hItem : (classify config lines p).item? = some (o, item)) :
    Plan.ofCommand config lines p command = Plan.onItem config lines p o item command := by
  rw [Plan.ofCommand, hp.clamp_eq]
  cases hContext : classify config lines p <;> rw [hContext] at hItem <;>
    first
    | (injection hItem with hItem
       injection hItem with hLine hItem
       subst hLine hItem
       rfl)
    | contradiction

/-- An item line is the context of every place on it. -/
theorem classify_eq_ofItem (config : Config) {p : Position}
    (hParse : ListItem.parse? (lines.lineAt p.line) = some item) :
    classify config lines p = ofItem p.line item := by
  have hHeading :=
    Heading.parse?_eq_none config.keywords (ListItem.levelOf_eq_zero_of_parse? hParse)
  simp only [classify, hHeading, ListItem.parseBegin?_eq_none_of_parse? hParse, hParse]

theorem item?_classify_of_parse? {p : Position}
    (hParse : ListItem.parse? (lines.lineAt p.line) = some item) :
    (classify config lines p).item? = some (p.line, item) := by
  rw [classify_eq_ofItem config hParse, item?_ofItem]

/-- On the line of an item a command is about that item. -/
theorem ofCommand_of_parse? (config : Config) {p : Position} (hp : lines.Inside p)
    (hParse : ListItem.parse? (lines.lineAt p.line) = some item) (command : Command) :
    Plan.ofCommand config lines p command = Plan.onItem config lines p p.line item command :=
  ofCommand_of_item hp (item?_classify_of_parse? hParse)

/-- A new item from text nested in an item goes to the line after the last one that the item
reaches. -/
theorem ofCommand_of_nested {p : Position} {command : Command} (hp : lines.Inside p)
    (hItem : (classify config lines p).item? = some (o, item)) (hNested : p.line ≠ o)
    (hCommand : command = .split ∨ ∃ afterContent, command = .insertSibling afterContent) :
    ∃ edits new column, Plan.ofCommand config lines p command =
      .apply (edits ++ [lines.insertion (ListItem.extentEnd lines o item.indent + 1) [new]])
        ⟨ListItem.extentEnd lines o item.indent + 1, column⟩ := by
  rw [ofCommand_of_item hp hItem]
  rcases hCommand with rfl | ⟨afterContent, rfl⟩
  · rw [Plan.onItem, Plan.splitItem]
    simp only [ne_eq, hNested, not_false_eq_true, not_true_eq_false, false_and, if_false, if_true]
    exact ⟨_, _, _, congrArg (Plan.apply · _) (List.append_cons ..)⟩
  · rw [Plan.onItem, Plan.insertItem]
    simp only [ne_eq, hNested, not_false_eq_true, or_true, if_true]
    exact ⟨_, _, _, rfl⟩

/-- **Where the two searches agree.** Let the upward search from line `n` end at the item on line
`o`. If line `n` holds text, the item reaches it exactly when every line with text between them is
indented further than the item; if it is blank, exactly when such lines lead on to a line with text
below it. A line in between that is indented too little is in a block, and no other can be. From a
cursor on line `n` a new item goes to the line after the last one that the owner reaches: below the
cursor exactly when the searches agree. -/
theorem nested_insertion_below_iff (h : ownerOf config lines n = .owner o item) :
    (lines.isBlankAt n = false →
        (n ≤ ListItem.extentEnd lines o item.indent ↔ Indented lines item.indent o n)) ∧
      (lines.isBlankAt n = true →
        (n ≤ ListItem.extentEnd lines o item.indent ↔
          ∃ k, n < k ∧ k < lines.length ∧ lines.isBlankAt k = false ∧
            ∀ m, o < m → m ≤ k → lines.isBlankAt m = false →
              ListItem.Beneath lines item.indent m)) ∧
      (∀ m, o < m → m < n → lines.isBlankAt m = false →
        (lines.lineAt m).indent ≤ item.indent → Fenced lines o n m) ∧
      (∀ p command, lines.Inside p → p.line = n →
        (classify config lines p).item? = some (o, item) →
        (command = .split ∨ ∃ afterContent, command = .insertSibling afterContent) →
        ∃ edits new cursor, Plan.ofCommand config lines p command =
            .apply (edits ++ [lines.insertion (ListItem.extentEnd lines o item.indent + 1) [new]])
              cursor ∧
          cursor.line = ListItem.extentEnd lines o item.indent + 1 ∧
          (p.line < cursor.line ↔ Indented lines item.indent o p.line)) := by
  obtain ⟨hn, hBetween⟩ := between_of_ownerOf h
  refine ⟨le_extentEnd_iff_indented h, le_extentEnd_iff_of_blank h, ?_, ?_⟩
  · intro m hom hmn hm hLeft
    exact (hBetween.indented m hom hmn hm).resolve_left (by omega)
  · -- The owner is above the cursor, so the item holds it from there and not on its own line.
    rintro p command hp rfl hItem hCommand
    have hBelow := hBetween.below
    obtain ⟨edits, new, column, hPlan⟩ :=
      ofCommand_of_nested hp hItem (Nat.ne_of_gt hBelow) hCommand
    refine ⟨edits, new, _, hPlan, rfl, ?_⟩
    rcases classify_item? hItem with ⟨rfl, -⟩ | hNested
    · exact absurd hBelow (Nat.lt_irrefl _)
    · rw [← le_extentEnd_iff_indented h hNested.not_blank, Nat.lt_succ_iff]

/-- Text right below its item. -/
theorem nested_insertion_below_iff_adjacent :
    ownerOf {} ["- item".toList, "  text".toList] 1 = .owner 0 ⟨0, .dash, none, "item".toList⟩ ∧
      (1 ≤ ListItem.extentEnd ["- item".toList, "  text".toList] 0 0 ↔
        Indented ["- item".toList, "  text".toList] 0 0 1) := by
  have hOwner : ownerOf {} ["- item".toList, "  text".toList] 1 =
      .owner 0 ⟨0, .dash, none, "item".toList⟩ := by decide
  exact ⟨hOwner, (nested_insertion_below_iff hOwner).1 (by decide)⟩

/-- Text below a block that is not indented. The item owns the text but ends above the block, so a
new item from there is put into the block, above the cursor. -/
theorem inserted_above_cursor :
    let lines : Lines := ["- item".toList, "  #+BEGIN_SRC".toList, "code".toList,
      "#+END_SRC".toList, "  text".toList]
    ownerOf {} lines 4 = .owner 0 ⟨0, .dash, none, "item".toList⟩ ∧
      ListItem.extentEnd lines 0 0 = 1 ∧
      Plan.ofCommand {} lines ⟨4, 6⟩ (.insertSibling false) =
        .apply [lines.insertion 2 ["- ".toList]] ⟨2, 2⟩ := by
  decide

end Context

end Outliner
