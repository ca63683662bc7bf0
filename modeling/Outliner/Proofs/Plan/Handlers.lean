import Outliner.Proofs.Context
import Outliner.Proofs.ListItem
import Outliner.Proofs.Table

/-!
# Outliner — every plan has a shape

The plan of every command in every context has one of the six shapes. Each kind of context is gone
through by itself; what the edits of headings, items and rows look like is known from their modules,
and what is left to see is that the edits of one batch keep out of each other's way.

* `shape_elsewhere`, `shape_onHeading`, `shape_onItem`, `shape_onTable`, `shape_onDrawer`,
  `shape_onBlock`, `shape_onText` — the kinds of context.

Main result:

* `shape_ofCommand` — the plan for a command at any place has a shape.
-/

namespace Outliner.Plan

variable {config : Config} {lines : Lines} {p : Position} {n : Nat} {item : ListItem}

/-! ## Shared steps -/

/-- Cutting the tail of a line takes out columns of it. -/
theorem exists_cutTail_eq (line : Text) (p : Position) (floor : Nat) :
    ∃ c, cutTail line p floor = ⟨.onLine p.line c line.length, []⟩ ∧ c ≤ p.column ∧
      min floor p.column ≤ c := by
  refine ⟨_, rfl, Nat.min_le_right _ _, ?_⟩
  omega

/-- Cutting the tail of the line of the cursor stays on that line. -/
theorem onLine_cutTail (hp : lines.Inside p) (floor : Nat) :
    (cutTail (lines.lineAt p.line) p floor).OnLine lines := by
  obtain ⟨c, hEq, hc, -⟩ := exists_cutTail_eq (lines.lineAt p.line) p floor
  rw [hEq]
  exact Edit.onLine_mk hp.line_lt (Nat.le_trans hc hp.column_le) (Nat.le_refl _) _

/-- The text right of the cursor is text of the line. -/
theorem unbroken_tailAfter {line : Text} (h : line.Unbroken) (p : Position) :
    (tailAfter line p).Unbroken := by
  apply h.of_subset
  intro c hc
  have hTrim : ∀ t : Text, ∀ c ∈ t.trim, c ∈ t := by
    intro t c hc
    rw [Text.trim, Text.trimEnd, List.mem_reverse] at hc
    exact (List.dropWhile_sublist _).subset
      (List.mem_reverse.mp ((List.dropWhile_sublist _).subset hc))
  exact List.mem_of_mem_drop (hTrim _ c hc)

/-- A line is put in, and nothing else is changed. -/
theorem Shape.insertion {column : Nat} {new : Text} (hn : n ≤ lines.length)
    (hNew : Clean config lines → new.Unbroken) (hColumn : column ≤ new.length) :
    Shape config lines p (.apply [lines.insertion n [new]] ⟨n, column⟩) := by
  have hNone : Batch.Beside lines [] := ⟨by simp, .nil, by simp⟩
  have hShape := Shape.newLine (p := p) hn hNone
    (fun h : Clean config lines => ⟨by simp [Batch.Unbroken], hNew h⟩) hColumn
  exact hShape

theorem shape_cycleKeyword (config : Config) (lines : Lines) (p : Position) (n : Nat) :
    Shape config lines p (cycleKeyword config lines p n) := by
  apply Shape.ofEdits
  · exact Batch.inPlace_toList fun e he => Heading.onLine_cycleEdit? he
  · intro hClean e he
    exact Heading.unbroken_cycleEdit? hClean.keywords (Option.mem_toList.mp he)

/-- The commands that mean the same everywhere. -/
theorem shape_elsewhere (config : Config) (lines : Lines) (p : Position) (command : Command) :
    Shape config lines p (elsewhere config lines p command) := by
  rw [elsewhere.eq_def]
  split
  · split
    · exact shape_cycleKeyword config lines p _
    · exact .unchanged
  · exact .unchanged

/-! ## Headings -/

theorem afterSubtree_le (hn : n < lines.length) : afterSubtree lines n ≤ lines.length :=
  Heading.lastContent_lt hn _

/-- Splitting a heading puts in a new one. -/
theorem shape_splitHeading (hp : lines.Inside p) (level : Nat) :
    Shape config lines p (splitHeading lines p p.line level) := by
  rw [splitHeading]
  -- In front of the title the new heading goes above; in it, the tail of the title goes below.
  split
  · exact Shape.insertion (Nat.le_of_lt hp.line_lt)
      (fun _ => Heading.unbroken_headingLine level Text.unbroken_nil)
      (Heading.level_lt_length_headingLine level [])
  · have hCut : Batch.Beside lines [cutTail (lines.lineAt p.line) p (level + 1)] := by
      refine ⟨?_, List.pairwise_singleton .., ?_⟩
      · intro e he
        rw [List.mem_singleton.mp he]
        exact onLine_cutTail hp _
      · intro e he _
        rw [List.mem_singleton.mp he]
        rfl
    have hTexts : Clean config lines →
        Batch.Unbroken [cutTail (lines.lineAt p.line) p (level + 1)] ∧
          (headingLine level (tailAfter (lines.lineAt p.line) p)).Unbroken := by
      intro hClean
      refine ⟨?_, Heading.unbroken_headingLine level (unbroken_tailAfter (hClean.lines.lineAt _) p)⟩
      intro e he
      rw [List.mem_singleton.mp he]
      exact Text.unbroken_nil
    have hShape := Shape.newLine (p := p) (afterSubtree_le hp.line_lt) hCut hTexts
      (Heading.level_lt_length_headingLine level _)
    exact hShape

theorem shape_onHeading (hp : lines.Inside p) (level : Nat) (command : Command) :
    Shape config lines p (onHeading config lines p p.line level command) := by
  cases command with
  | insertSibling =>
    exact Shape.insertion (afterSubtree_le hp.line_lt)
      (fun _ => Heading.unbroken_headingLine level Text.unbroken_nil)
      (Heading.level_lt_length_headingLine level [])
  | split => exact shape_splitHeading hp level
  | promote =>
    exact .ofEdits (Heading.inPlace_shiftEdits ..) (fun _ => Heading.unbroken_shiftEdits _ _ _ _) p
  | demote =>
    exact .ofEdits (Heading.inPlace_shiftEdits ..) (fun _ => Heading.unbroken_shiftEdits _ _ _ _) p
  | foldOrIndent =>
    rw [onHeading]
    split
    · next hProper => exact .fold hProper (Heading.subtreeEnd_lt hp.line_lt)
    · exact .unchanged
  | cycleKeyword => exact shape_cycleKeyword config lines p p.line
  | nextCell => exact .unchanged
  | previousCell => exact .unchanged
  | toggleCheckbox => exact .unchanged
  | renumber => exact .unchanged

/-! ## List items -/

/-- Numbers in a run are given beside other edits of other lines. -/
theorem beside_numberEdits {edits : List Edit} (h : Batch.InPlace lines edits)
    (hNumbers : ∀ e ∈ edits, ∃ m k, ListItem.numberEdit? lines m k = some e) :
    Batch.Beside lines edits where
  onLine := h.onLine
  apart := h.increasing.imp fun hLt hEq => absurd hEq (Nat.ne_of_lt hLt)
  idle e he hEmpty := by
    obtain ⟨m, k, hNumber⟩ := hNumbers e he
    obtain ⟨item, -, hDigits, rfl⟩ := ListItem.numberEdit?_eq_some hNumber
    injection hEmpty with _ hColumn
    omega

/-- The line of a new item and the numbers around it. -/
theorem siblingLine_spec {before : Nat} {content line : Text} {edits : List Edit}
    (hParse : ListItem.parse? (lines.lineAt n) = some item)
    (h : siblingLine config lines n item before content = (edits, line)) :
    Batch.InPlace lines edits ∧
      (∀ e ∈ edits, ∃ m k, ListItem.numberEdit? lines m k = some e) ∧
      (content.Unbroken → line.Unbroken) := by
  have hBullet := (ListItem.standard_of_parse? hParse).next
  rw [siblingLine] at h
  dsimp only at h
  -- In a run the new item takes its number there; a marker without a number is taken over.
  split at h
  · next number edits' hAround =>
    injection h with hEdits hLine
    subst hEdits hLine
    obtain ⟨hInPlace, hNumbers⟩ := ListItem.inPlace_renumberAround? hAround
    refine ⟨hInPlace, hNumbers, fun hContent => ?_⟩
    rw [Text.unbroken_append_iff]
    exact ⟨ListItem.unbroken_render (hBullet.withNumber _) Text.unbroken_nil, hContent⟩
  · injection h with hEdits hLine
    subst hEdits hLine
    refine ⟨⟨by simp, .nil⟩, by simp, fun hContent => ?_⟩
    rw [Text.unbroken_append_iff]
    exact ⟨ListItem.unbroken_render hBullet Text.unbroken_nil, hContent⟩

theorem unbroken_of_numbers {edits : List Edit}
    (hNumbers : ∀ e ∈ edits, ∃ m k, ListItem.numberEdit? lines m k = some e) :
    Batch.Unbroken edits := by
  intro e he
  obtain ⟨m, k, hNumber⟩ := hNumbers e he
  obtain ⟨item, -, -, rfl⟩ := ListItem.numberEdit?_eq_some hNumber
  exact Bullet.unbroken_ofNat k

/-- An empty item is put in, with the numbers around it. -/
theorem shape_insertItem {before : Nat} (hParse : ListItem.parse? (lines.lineAt n) = some item)
    (hBefore : before ≤ lines.length) :
    Shape config lines p (insertItem config lines n item before) := by
  cases hSibling : siblingLine config lines n item before [] with
  | mk edits line =>
    obtain ⟨hInPlace, hNumbers, hLine⟩ := siblingLine_spec hParse hSibling
    rw [insertItem, hSibling]
    exact .newLine hBefore (beside_numberEdits hInPlace hNumbers)
      (fun _ => ⟨unbroken_of_numbers hNumbers, hLine Text.unbroken_nil⟩) (Nat.le_refl _)

/-- The tail of the line of the cursor is cut beside the numbers of a run, when the cut keeps the
digits of that line. -/
theorem beside_cutTail {edits : List Edit} {floor : Nat} (hp : lines.Inside p)
    (hInPlace : Batch.InPlace lines edits)
    (hNumbers : ∀ e ∈ edits, ∃ m k, ListItem.numberEdit? lines m k = some e)
    (hFloor : ∀ item, ListItem.parse? (lines.lineAt p.line) = some item →
      item.indent + (((lines.lineAt p.line).drop item.indent).takeWhile Char.isDigit).length ≤
        min floor p.column) :
    Batch.Beside lines (edits ++ [cutTail (lines.lineAt p.line) p floor]) where
  onLine e he := by
    rcases List.mem_append.mp he with he | he
    · exact hInPlace.onLine e he
    · rw [List.mem_singleton.mp he]
      exact onLine_cutTail hp floor
  apart := by
    refine List.pairwise_append.mpr
      ⟨(beside_numberEdits hInPlace hNumbers).apart, List.pairwise_singleton .., ?_⟩
    intro e he f hf
    rw [List.mem_singleton.mp hf]
    -- Only a number on the line of the cursor could be in the way, and it ends in front of the cut.
    obtain ⟨m, k, hNumber⟩ := hNumbers e he
    obtain ⟨item, hParse, -, rfl⟩ := ListItem.numberEdit?_eq_some hNumber
    obtain ⟨c, hEq, -, hc⟩ := exists_cutTail_eq (lines.lineAt p.line) p floor
    rw [hEq]
    intro hLine
    have hLine : m = p.line := hLine
    subst hLine
    exact Or.inl (Nat.le_trans (hFloor item hParse) hc)
  idle e he hEmpty := by
    rcases List.mem_append.mp he with he | he
    · exact (beside_numberEdits hInPlace hNumbers).idle e he hEmpty
    · rw [List.mem_singleton.mp he]
      rfl

/-- The item holds the cursor: on its own line, or on a line of text that it owns. -/
def Holds (config : Config) (lines : Lines) (p : Position) (n : Nat) (item : ListItem) : Prop :=
  (n = p.line ∧ ListItem.parse? (lines.lineAt p.line) = some item) ∨
    Context.Nested config lines p.line n item

theorem Holds.parse?_eq (h : Holds config lines p n item) :
    ListItem.parse? (lines.lineAt n) = some item := by
  rcases h with ⟨rfl, hParse⟩ | hNested
  · exact hParse
  · exact (Context.parse?_of_ownerOf_eq_owner hNested.owner).2

/-- Splitting an item puts in a new one, and cuts the line of the cursor. -/
theorem shape_splitItem (hp : lines.Inside p) (hHolds : Holds config lines p n item) :
    Shape config lines p (splitItem config lines p n item) := by
  have hParse := hHolds.parse?_eq
  have hn := ListItem.lt_length_of_parse? hParse
  rw [splitItem]
  dsimp only
  -- The cut may not reach into the marker of the line that it is made on.
  generalize hFloor : (if p.line ≠ n then Text.indent (lines.lineAt p.line)
    else (ListItem.contentColumn? (lines.lineAt p.line)).getD 0) = floor
  generalize hBelow : (if p.line ≠ n then ListItem.extentEnd lines n item.indent + 1
    else n + 1) = below
  split
  · exact shape_insertItem hParse (Nat.le_of_lt hn)
  · next hTail =>
    have hLine : below ≤ lines.length := by
      rw [← hBelow]
      split
      · exact ListItem.extentEnd_lt hn _
      · exact hn
    cases hSibling : siblingLine config lines n item below (tailAfter (lines.lineAt p.line) p) with
    | mk edits new =>
      obtain ⟨hInPlace, hNumbers, hNew⟩ := siblingLine_spec hParse hSibling
      rw [List.append_cons]
      refine .newLine hLine (beside_cutTail hp hInPlace hNumbers ?_) ?_ (Nat.sub_le _ _)
      · intro item' hParse'
        rcases hHolds with ⟨rfl, -⟩ | hNested
        · -- The digits of the marker are in front of the content, and so is the cut.
          obtain ⟨column, hColumn⟩ := ListItem.exists_contentColumn hParse'
          have hDigits := (ListItem.digits_le_contentColumn hParse' hColumn).1
          simp only [ne_eq, not_true_eq_false, if_false, hColumn, Option.getD_some] at hFloor
          simp only [ne_eq, not_true_eq_false, not_false_eq_true, true_and] at hTail
          omega
        · -- Text below an item has no number.
          rw [hNested.parse?_eq_none] at hParse'
          contradiction
      · intro hClean
        refine ⟨?_, hNew (unbroken_tailAfter (hClean.lines.lineAt _) p)⟩
        intro e he
        rcases List.mem_append.mp he with he | he
        · exact unbroken_of_numbers hNumbers e he
        · rw [List.mem_singleton.mp he]
          exact Text.unbroken_nil

theorem shape_shiftItem (config : Config) (lines : Lines) (p : Position) (n : Nat) (shift : Shift) :
    Shape config lines p (.ofEdits (ListItem.shiftEdits config lines n shift) p) :=
  .ofEdits (ListItem.inPlace_shiftEdits ..) (fun _ => ListItem.unbroken_shiftEdits _ _ _ _) p

theorem shape_onItem (hp : lines.Inside p) (hHolds : Holds config lines p n item)
    (command : Command) : Shape config lines p (onItem config lines p n item command) := by
  have hParse := hHolds.parse?_eq
  have hn := ListItem.lt_length_of_parse? hParse
  cases command with
  | insertSibling afterContent =>
    apply shape_insertItem hParse
    split
    · exact ListItem.extentEnd_lt hn _
    · exact hn
  | split => exact shape_splitItem hp hHolds
  | promote => exact shape_shiftItem config lines p n .outward
  | demote => exact shape_shiftItem config lines p n .inward
  | foldOrIndent =>
    rw [onItem]
    split
    · exact shape_shiftItem config lines p n .inward
    · split
      · next hProper => exact .fold hProper (ListItem.extentEnd_lt hn _)
      · exact .unchanged
  | toggleCheckbox =>
    refine .ofEdits (Batch.inPlace_toList fun e he => (ListItem.onLine_toggleEdit? he).1) ?_ p
    intro _ e he
    exact (ListItem.onLine_toggleEdit? (Option.mem_toList.mp he)).2
  | renumber =>
    exact .ofEdits (ListItem.inPlace_renumber config lines n)
      (fun _ => unbroken_of_numbers fun e he => ListItem.exists_of_mem_renumber he) p
  | nextCell => exact shape_elsewhere config lines p .nextCell
  | previousCell => exact shape_elsewhere config lines p .previousCell
  | cycleKeyword => exact shape_elsewhere config lines p .cycleKeyword

/-! ## Tables -/

/-- The cursor goes into a row that exists, at a place that the row has. -/
theorem shape_intoRow {rows : List (Text × Nat)} {pick : Text → Option Nat}
    (hRows : ∀ l m, (l, m) ∈ rows → m < lines.length ∧ l = lines.lineAt m)
    (hPick : ∀ l c, pick l = some c → c ≤ l.length) :
    Shape config lines p (intoRow rows pick) := by
  rw [intoRow]
  split
  · next line m hFind =>
    obtain ⟨hm, rfl⟩ := hRows line m (List.mem_of_find?_eq_some hFind)
    split
    · next column hColumn => exact .move ⟨hm, hPick _ _ hColumn⟩
    · exact .unchanged
  · exact .unchanged

theorem shape_nextCell (hp : lines.Inside p) : Shape config lines p (nextCell lines p) := by
  rw [nextCell]
  split
  · next column hColumn => exact .move ⟨hp.line_lt, Table.nextCell?_le hColumn⟩
  · -- The rows of the walk are taken from the lines below, which all exist.
    apply shape_intoRow
    · intro l m hm
      exact (Lines.mk_mem_onward_iff.mp ((List.takeWhile_sublist _).subset hm)).2
    · exact fun l c hc => Table.firstCell?_le hc

theorem shape_previousCell (hp : lines.Inside p) :
    Shape config lines p (previousCell lines p) := by
  rw [previousCell]
  split
  · next column hColumn => exact .move ⟨hp.line_lt, Table.previousCell?_le hColumn⟩
  · apply shape_intoRow
    · intro l m hm
      exact (Lines.mk_mem_above_iff.mp ((List.takeWhile_sublist _).subset hm)).2
    · exact fun l c hc => Table.lastCell?_le hc

theorem shape_insertRow (hp : lines.Inside p) : Shape config lines p (insertRow lines p) := by
  refine Shape.insertion hp.line_lt (fun _ => Table.unbroken_blankLike _) ?_
  cases hCell : Table.firstCell? (Table.blankLike (lines.lineAt p.line)) with
  | none => exact Nat.zero_le _
  | some column => exact Table.firstCell?_le hCell

theorem shape_onTable (hp : lines.Inside p) (command : Command) :
    Shape config lines p (onTable config lines p command) := by
  rw [onTable.eq_def]
  split
  · exact shape_insertRow hp
  · exact shape_insertRow hp
  · exact shape_nextCell hp
  · exact shape_nextCell hp
  · exact shape_previousCell hp
  · exact shape_elsewhere config lines p _

/-! ## Drawers, blocks and text -/

theorem shape_newEntry (hp : lines.Inside p) (indent : Nat) :
    Shape config lines p (.apply [lines.insertion (p.line + 1) [Text.spaces indent ++ [':']]]
      ⟨p.line + 1, indent + 1⟩) := by
  refine Shape.insertion hp.line_lt (fun _ => ?_) ?_
  · simp [Text.unbroken_spaces indent]
  · simp [Text.spaces]

theorem shape_onDrawer (hp : lines.Inside p) (command : Command) :
    Shape config lines p (onDrawer config lines p command) := by
  rw [onDrawer.eq_def]
  split
  · exact shape_newEntry hp _
  · exact shape_newEntry hp _
  · exact shape_elsewhere config lines p _

/-- Commands on a fence, in a block, or on a marker of a drawer. -/
theorem shape_onBlock (config : Config) (lines : Lines) (p : Position) (command : Command) :
    Shape config lines p (onBlock config lines p command) := by
  rw [onBlock.eq_def]
  split
  · exact .lineBreak
  · exact .lineBreak
  · exact shape_elsewhere config lines p _

theorem shape_onText (hp : lines.Inside p) (command : Command) :
    Shape config lines p (onText config lines p command) := by
  rw [onText.eq_def]
  split
  · split
    · next h _ =>
      exact Shape.insertion hp.line_lt
        (fun _ => Heading.unbroken_headingLine h.level Text.unbroken_nil)
        (Heading.level_lt_length_headingLine h.level [])
    · exact .lineBreak
  · exact .lineBreak
  · exact shape_elsewhere config lines p _

/-! ## Every context -/

/-- The plan for a command at a place inside the buffer has a shape. -/
theorem shape_inContext (hp : lines.Inside p) (command : Command) :
    Shape config lines p (inContext config lines p (.classify config lines p) command) := by
  have hItem : ∀ {n item}, (Context.classify config lines p).item? = some (n, item) →
      Holds config lines p n item := Context.classify_item?
  cases hContext : Context.classify config lines p with
  | heading n h =>
    obtain ⟨rfl, -⟩ := Context.classify_eq_heading hContext
    exact shape_onHeading hp h.level command
  | listItem n item => exact shape_onItem hp (hItem (by rw [hContext]; rfl)) command
  | checkbox n item => exact shape_onItem hp (hItem (by rw [hContext]; rfl)) command
  | table => exact shape_onTable hp command
  | property => exact shape_onDrawer hp command
  | drawer => exact shape_onDrawer hp command
  | text => exact shape_onText hp command
  | blockHeader => exact shape_onBlock config lines p command
  | block => exact shape_onBlock config lines p command
  | drawerHeader => exact shape_onBlock config lines p command
  | drawerEnd => exact shape_onBlock config lines p command

/-- **Every plan has a shape.** -/
theorem shape_ofCommand (config : Config) (hLines : lines ≠ []) (p : Position)
    (command : Command) :
    Shape config lines (lines.clamp p) (ofCommand config lines p command) :=
  shape_inContext (Lines.inside_clamp hLines p) command

end Outliner.Plan
