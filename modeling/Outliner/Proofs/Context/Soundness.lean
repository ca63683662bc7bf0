import Outliner.Proofs.Enclosure
import Outliner.Proofs.Ownership

/-!
# Outliner — what a context says is so

A context is found by three scans: one up from the line of the cursor for an item, and one down from
the first line for each kind of thing that is opened and closed. What a scan has seen it keeps in a
few numbers — a floor, a count of blank lines, the line that is open — and the answer is made of
these. Here the answer is checked against the lines alone.

* `Lines.Gapless` — a stretch of lines without too many blank lines in a row.
* `Block.Around`, `Drawer.Around`, `Context.InItem` — what it is for a line to be in a block, a
  drawer or an item.
* `Context.Sound` — what a context says of the lines.

Main results:

* `Block.around_of_holding?`, `Drawer.around_of_holding?` — a block or a drawer that a line is found
  in is there.
* `gapless_of_searchOwner` — the scan up stops at the blank lines that the limit allows for.
* `ofPosition_sound` — the context of every place is sound.
-/

namespace Outliner

variable {config : Config} {lines : Lines} {n o : Nat}

/-! ## Blocks and drawers -/

namespace Block

/-- Line `n` is below the opening fence on line `fence`, and there is a closing fence on line `n` or
below it, before the next heading. -/
structure Around (lines : Lines) (fence n : Nat) : Prop where
  lt : fence < n
  opening : (parseBegin? (lines.lineAt fence)).isSome = true
  closing : ∃ last, n ≤ last ∧ isEnd (lines.lineAt last) = true ∧
    ∀ m, fence ≤ m → m ≤ last → Heading.levelOf (lines.lineAt m) = 0

theorem around_of_holding? {fence : Nat} (h : holding? lines n = some fence) :
    Around lines fence n := by
  obtain ⟨last, hFences, hLt, hLe⟩ := holding?_eq_some_iff.mp h
  exact ⟨hLt, hFences.opening, last, hLe, hFences.closing.kind,
    fun m => hFences.closing.levelOf_eq_zero hFences.body⟩

end Block

namespace Drawer

/-- Line `n` is between the markers of the drawer, and no heading is. -/
structure Around (lines : Lines) (d : Drawer) (n : Nat) : Prop where
  start_lt : d.start < n
  lt_stop : n < d.stop
  opening : isStart (lines.lineAt d.start) = true
  closing : isEnd (lines.lineAt d.stop) = true
  body : ∀ m, d.start ≤ m → m ≤ d.stop → Heading.levelOf (lines.lineAt m) = 0

theorem around_of_holding? {d : Drawer} (h : holding? lines n = some d)
    (hEnd : isEnd (lines.lineAt n) = false) : d.Around lines n := by
  obtain ⟨hMarkers, hLt, hLe, -⟩ := holding?_eq_some_iff.mp h
  -- A line that closes a drawer may be found to close its own; the cursor is not on one.
  have hne : n ≠ d.stop := by
    rintro rfl
    rw [hMarkers.closing.kind] at hEnd
    contradiction
  exact ⟨hLt, Nat.lt_of_le_of_ne hLe hne, hMarkers.opening, hMarkers.closing.kind,
    fun m => hMarkers.closing.levelOf_eq_zero hMarkers.body⟩

end Drawer

/-! ## Blank lines in a row -/

/-- From line `i` up to line `j` there are not as many blank lines in a row as the limit allows for;
a limit of zero allows for one. -/
def Lines.Gapless (limit : Nat) (lines : Lines) (i j : Nat) : Prop :=
  ∀ k, i ≤ k → k + max limit 1 ≤ j →
    ∃ m, k ≤ m ∧ m < k + max limit 1 ∧ lines.isBlankAt m = false

/-- One more line above a stretch, if it is not the first of too many blank lines in a row. -/
theorem Lines.Gapless.pred {limit blanks k : Nat} (h : lines.Gapless limit (k + 1) n)
    (hBlanks : blanks < max limit 1) (hText : lines.isBlankAt (k + blanks) = false) :
    lines.Gapless limit k n := by
  intro m hkm hmn
  rcases Nat.eq_or_lt_of_le hkm with rfl | hkm
  · exact ⟨k + blanks, Nat.le_add_right .., by omega, hText⟩
  · exact h m hkm hmn

namespace Context

variable {item : ListItem} {p : Position}

/-- The search goes past a blank line as long as there may be another one. -/
theorem searchOwner_of_isBlankLine {limit floor blanks fences k : Nat} {line : Text}
    {rest : List (Text × Nat)} (hBlank : line.isBlankLine = true)
    (h : searchOwner limit floor blanks fences ((line, k) :: rest) = .owner o item) :
    blanks + 1 < limit ∧ searchOwner limit floor (blanks + 1) fences rest = .owner o item := by
  unfold searchOwner at h
  rw [if_pos hBlank] at h
  split at h
  · contradiction
  · next hLimit => exact ⟨Nat.lt_of_not_le hLimit, h⟩

/-- **The search up** stops when there are too many blank lines in a row: there are none between a
line and the owner that is found for it. -/
theorem gapless_of_searchOwner {limit floor blanks fences k : Nat} (hk : k ≤ lines.length)
    (hBlanks : blanks < max limit 1) (hText : lines.isBlankAt (k + blanks) = false)
    (hBelow : lines.Gapless limit k n)
    (h : searchOwner limit floor blanks fences (lines.above k) = .owner o item) :
    lines.Gapless limit (o + 1) n := by
  -- On the line that the search comes to. It has passed `blanks` blank lines, and below them text.
  induction k generalizing floor blanks fences with
  | zero => simp [Lines.above, searchOwner] at h
  | succ k ih =>
    rw [Lines.above_succ (by omega)] at h
    cases hBlank : lines.isBlankAt k with
    | true =>
      obtain ⟨hLimit, hRest⟩ := searchOwner_of_isBlankLine hBlank h
      have hText : lines.isBlankAt (k + (blanks + 1)) = false := by
        rwa [show k + (blanks + 1) = k + 1 + blanks by omega]
      exact ih (by omega) (by omega) hText (hBelow.pred (by omega) hText) hRest
    | false =>
      -- The row of blank lines is at its end, and a new one starts with none.
      have hHere : lines.isBlankAt (k + 0) = false := hBlank
      have hFew : 0 < max limit 1 := by omega
      have hGapless : lines.Gapless limit k n := hBelow.pred hFew hHere
      cases ownerStep_of_searchOwner h with
      | blank hBlank' => exact absurd (hBlank'.symm.trans hBlank) (by decide)
      | closing _ _ _ hRest => exact ih (by omega) hFew hHere hGapless hRest
      | opening _ _ _ _ hRest => exact ih (by omega) hFew hHere hGapless hRest
      | inside _ _ _ hRest => exact ih (by omega) hFew hHere hGapless hRest
      | owner _ _ _ _ hLine _ =>
        subst hLine
        exact hBelow
      | text _ _ _ _ _ _ hRest => exact ih (by omega) hFew hHere hGapless hRest

/-! ## Items -/

/-- Line `n` is text below the item on line `o`, indented further, with no heading in between and not
too many blank lines in a row. -/
structure TextBelow (config : Config) (lines : Lines) (n o : Nat) (item : ListItem) : Prop where
  not_blank : lines.isBlankAt n = false
  indent_lt : item.indent < (lines.lineAt n).indent
  body : ∀ m, o < m → m < n → Heading.levelOf (lines.lineAt m) = 0
  gapless : lines.Gapless config.blankRunLimit.toNat (o + 1) n

/-- Line `n` is the line of the item, on line `o`, or text below it. -/
structure InItem (config : Config) (lines : Lines) (n o : Nat) (item : ListItem) : Prop where
  le : o ≤ n
  parse : ListItem.parse? (lines.lineAt o) = some item
  below : o < n → TextBelow config lines n o item

theorem Nested.textBelow (h : Nested config lines n o item) : TextBelow config lines n o item := by
  obtain ⟨hLength, hBetween⟩ := between_of_ownerOf h.owner
  have hText : lines.isBlankAt n = false := h.not_blank
  refine ⟨hText, hBetween.indent_lt, fun m hom hmn => ?_, ?_⟩
  · -- A heading is no blank line.
    by_contra hLevel
    have hLevel : 0 < Heading.levelOf (lines.lineAt m) := Nat.pos_of_ne_zero hLevel
    have := hBetween.body m hom hmn (Heading.isBlankLine_eq_false hLevel)
    omega
  · have hSearch := h.owner
    have hMissing : n - lines.length = 0 := by omega
    rw [ownerOf, hMissing, if_neg (by simp)] at hSearch
    have hHere : lines.isBlankAt (n + 0) = false := hText
    have hFew : 0 < max config.blankRunLimit.toNat 1 := by omega
    exact gapless_of_searchOwner (Nat.le_of_lt hLength) hFew hHere (fun k _ _ => by omega) hSearch

theorem Nested.inItem (h : Nested config lines n o item) : InItem config lines n o item := by
  obtain ⟨hLine, hParse⟩ := parse?_of_ownerOf_eq_owner h.owner
  exact ⟨Nat.le_of_lt hLine, hParse, fun _ => h.textBelow⟩

theorem inItem_of_parse? (h : ListItem.parse? (lines.lineAt n) = some item) :
    InItem config lines n n item :=
  ⟨Nat.le_refl n, h, fun hLt => absurd hLt (Nat.lt_irrefl n)⟩

/-! ## Contexts -/

/-- What the context of a place on line `n` says of the lines. Only an item reports another line. -/
def Sound (config : Config) (lines : Lines) (n : Nat) : Context → Prop
  | listItem o item => InItem config lines n o item ∧ item.checkbox = none
  | checkbox o item => InItem config lines n o item ∧ item.checkbox.isSome = true
  | property m d _ | drawer m d => m = n ∧ d.Around lines n
  | block m fence => m = n ∧ Block.Around lines fence n
  | heading m _ | table m _ _ | blockHeader m _ _ | drawerHeader m | drawerEnd m | text m => m = n

theorem InItem.sound (h : InItem config lines n o item) : (ofItem o item).Sound config lines n := by
  rw [ofItem]
  split
  · next hBox => exact ⟨h, hBox⟩
  · next hBox => exact ⟨h, by simpa using hBox⟩

/-- What is in a drawer or in a block, or nowhere. -/
theorem sound_classifyRest (config : Config) (lines : Lines) (p : Position) :
    (classifyRest lines p).Sound config lines p.line := by
  rw [classifyRest]
  split
  · rfl
  · split
    · rfl
    · split
      · rfl
      · next hEnd =>
        have hEnd : Drawer.isEnd (lines.lineAt p.line) = false := by simpa using hEnd
        split
        · next hDrawer _ => exact ⟨rfl, Drawer.around_of_holding? hDrawer hEnd⟩
        · next hDrawer _ => exact ⟨rfl, Drawer.around_of_holding? hDrawer hEnd⟩
        · split
          · next hBlock => exact ⟨rfl, Block.around_of_holding? hBlock⟩
          · rfl

theorem sound_classify (config : Config) (lines : Lines) (p : Position) :
    (classify config lines p).Sound config lines p.line := by
  -- In the order of the classification.
  rw [classify]
  split
  · rfl
  · split
    · rfl
    · split
      · next hParse => exact (inItem_of_parse? hParse).sound
      · cases hOwner : ownerContext? config lines p.line with
        | some c =>
          obtain ⟨o, item, rfl, hNested⟩ := ownerContext?_eq_some hOwner
          exact hNested.inItem.sound
        | none => exact sound_classifyRest config lines p

/-- **Contexts are sound.** The context of a place, moved inside the buffer if it is outside, is on the
line of the place, or it is an item above that owns the line. What it says to be an item is one, and
has a checkbox if it says so; between the item and text below it there are no heading and not too
many blank lines in a row. A drawer or a block that it reports is there, open above the line and
closed below it before the next heading. -/
theorem ofPosition_sound (config : Config) (lines : Lines) (p : Position) :
    (ofPosition config lines p).Sound config lines (lines.clamp p).line :=
  sound_classify config lines (lines.clamp p)

end Context

end Outliner
