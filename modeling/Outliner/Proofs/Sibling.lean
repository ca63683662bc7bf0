import Outliner.Proofs.Context.Soundness
import Outliner.Proofs.Heading.Layout
import Outliner.Proofs.ListItem.RoundTrip
import Outliner.Proofs.Outline.Nesting
import Outliner.Proofs.Ownership
import Outliner.Proofs.Table.BlankRow
import Outliner.Proofs.Table.Navigation

/-!
# Outliner — new elements of the same kind

The command for a new element puts in one line, and what this line is depends on the element that the
cursor is in: a heading, an item or a row like it, and below plain text a heading like the one that
the text belongs to. The line is written by different means, and is then a line among others. It is
told what it is by itself alone, so in any surroundings the cursor is in an element of the same kind.

* `ListItem.IsSibling` — an empty item like another.
* `Context.IsSibling` — an empty element of the same kind.

Main results:

* `classify_headingLine`, `IsSibling.parse?_render` — new headings and items are read back.
* `insertSibling_same_kind` — from every place the new element is of the same kind.
-/

namespace Outliner

variable {config : Config} {d : Document} {lines : Lines} {p : Position} {command : Command}

/-! ## Headings -/

/-- A new heading is read as a heading of its level, with nothing else. -/
theorem Heading.parse?_headingLine {level : Nat} (keywords : Keywords) (hLevel : 0 < level) :
    parse? keywords (Plan.headingLine level []) = some (.plain level []) := by
  have hLayout : Layout (Plan.headingLine level []) level [' '] [] := by
    refine ⟨?_, hLevel, by simp, by simp [Text.isSpaceOrTab], rfl⟩
    simp [Plan.headingLine, render, plain, parts, Nat.max_eq_left hLevel]
  rw [hLayout.parse?_eq]
  simp [ofBody, takeKeyword, takePriority, takeTags, plain, Text.firstWord, tagsOf?, Text.trimEnd]

theorem Context.classify_headingLine {level : Nat} (config : Config) (hLevel : 0 < level)
    (hLine : lines.lineAt p.line = Plan.headingLine level []) :
    classify config lines p = .heading p.line (.plain level []) := by
  have hParse := Heading.parse?_headingLine config.keywords hLevel
  rw [← hLine] at hParse
  rw [classify, hParse]

/-! ## Items -/

namespace Bullet

theorem withNumber_eq_star_iff {b : Bullet} {number : UInt64} :
    b.withNumber number = .star ↔ b = .star := by
  cases b <;> simp [withNumber]

theorem withNumber_next (b : Bullet) (number : UInt64) :
    b.next.withNumber number = b.withNumber number := by
  cases b <;> rfl

theorem exists_next_eq (b : Bullet) : ∃ number, b.next = b.withNumber number := by
  cases b with
  | dash | plus | star => exact ⟨0, rfl⟩
  | ordered number delimiter => exact ⟨_, rfl⟩

end Bullet

namespace ListItem

variable {item new : ListItem} {line : Text} {n q : Nat}

/-- An empty item like the given one: it has the same indentation and a marker of the same kind, and
an empty box if that has a box. -/
structure IsSibling (item new : ListItem) : Prop where
  indent : new.indent = item.indent
  bullet : ∃ number, new.bullet = item.bullet.withNumber number
  checkbox : new.checkbox = item.checkbox.map fun _ => .empty
  content : new.content = []

/-- Nothing in an empty item can be misread, so it is read back. -/
theorem IsSibling.parse?_render (h : IsSibling item new) (hParse : parse? line = some item) :
    parse? new.render = some new := by
  obtain ⟨number, hBullet⟩ := h.bullet
  have hRegular := regular_of_parse? hParse
  rw [parse?_render_iff_canonical]
  refine ⟨⟨?_, ?_, by rw [h.content]; rfl, by rw [h.content]; rfl⟩, fun _ => ?_⟩
  · rw [hBullet]
    exact hRegular.bullet.withNumber number
  · -- A star in column zero would be a heading; but the old item is no heading, either.
    rw [h.indent, hBullet, Bullet.withNumber_eq_star_iff]
    exact hRegular.not_heading
  · rw [h.content]
    rintro ⟨mark, -, after, hText, -⟩
    contradiction

/-- The line of a new item is the writing of an empty item like the one that it follows. -/
theorem exists_siblingLine_eq_render {edits : List Edit}
    (h : Plan.siblingLine config lines n item q [] = (edits, line)) :
    ∃ new, line = new.render ∧ IsSibling item new := by
  rw [Plan.siblingLine] at h
  dsimp only at h
  split at h
  · next number edits' _ =>
    injection h with _ hLine
    refine ⟨{ item.sibling with bullet := item.sibling.bullet.withNumber (UInt64.ofNat number) },
      by rw [← hLine, List.append_nil], rfl,
      ⟨_, Bullet.withNumber_next item.bullet (UInt64.ofNat number)⟩, rfl, rfl⟩
  · injection h with _ hLine
    exact ⟨item.sibling, by rw [← hLine, List.append_nil], rfl, Bullet.exists_next_eq item.bullet,
      rfl, rfl⟩

/-- **A new item** that is put before line `q`. -/
theorem exists_execute_insertItem (hp : d.lines.Inside p) (hLines : d.lines.Unbroken)
    (hParse : parse? (d.lines.lineAt n) = some item) (hq : q ≤ d.lines.length)
    (hPlan : Plan.ofCommand config d.lines p command = Plan.insertItem config d.lines n item q) :
    ∃ column d' new, execute config (.editable d) p command =
        .ok (.cursor ⟨q, column⟩, .editable d') ∧
      d'.lines.Inside ⟨q, column⟩ ∧ parse? (d'.lines.lineAt q) = some new ∧
      IsSibling item new := by
  cases hSibling : Plan.siblingLine config d.lines n item q [] with
  | mk edits line =>
    obtain ⟨new, hRender, hNew⟩ := exists_siblingLine_eq_render hSibling
    obtain ⟨hInPlace, hNumbers, hLine⟩ := Plan.siblingLine_spec hParse hSibling
    rw [Plan.insertItem, hSibling] at hPlan
    obtain ⟨d', hExecute, hInside, hAt⟩ := exists_execute_newLine hp hLines hPlan
      (Plan.beside_numberEdits hInPlace hNumbers) (Plan.unbroken_of_numbers hNumbers)
      (hLine Text.unbroken_nil) hq (Nat.le_refl _)
    refine ⟨line.length, d', new, hExecute, hInside, ?_, hNew⟩
    rw [hAt, hRender]
    exact hNew.parse?_render hParse

end ListItem

/-! ## Elements of the same kind -/

namespace Context

variable {n : Nat}

/-- The context on line `q` is an empty element of the same kind as the other one. A heading has the
level of the other, an item is an item like it, and of a row the cursor is in the first cell. From
text below a heading the new element is a heading of its level. Of blocks and drawers nothing is
said. -/
def IsSibling (config : Config) (lines : Lines) (q : Nat) : Context → Context → Prop
  | heading _ h, new => new = .heading q (.plain h.level [])
  | listItem _ item, new => ∃ item', new = .listItem q item' ∧ item.IsSibling item'
  | checkbox _ item, new => ∃ item', new = .checkbox q item' ∧ item.IsSibling item'
  | table .., new => ∃ cells, new = .table q cells (some 0)
  | text n, new => ∀ m h, Heading.enclosing? config.keywords lines n = some (m, h) →
    new = .heading q (.plain h.level [])
  | _, _ => True

/-- What is said to be an item is one with a checkbox exactly if it says so. -/
theorem eq_ofItem_of_sound {c : Context} {item : ListItem} {m : Nat}
    (hSound : c.Sound config lines n) (hItem : c.item? = some (m, item)) : c = ofItem m item := by
  cases c with
  | listItem o item' =>
    injection hItem with hItem
    injection hItem with hLine hItem
    subst hLine hItem
    rw [ofItem, hSound.2]
    rfl
  | checkbox o item' =>
    injection hItem with hItem
    injection hItem with hLine hItem
    subst hLine hItem
    rw [ofItem, if_pos hSound.2]
  | heading | table | blockHeader | block | drawerHeader | drawerEnd | property | drawer | text =>
    contradiction

theorem isSibling_ofItem {item new : ListItem} (h : item.IsSibling new) (n q : Nat) :
    (ofItem n item).IsSibling config lines q (ofItem q new) := by
  rw [ofItem, ofItem, h.checkbox, Option.isSome_map]
  split
  · exact ⟨new, rfl, h⟩
  · exact ⟨new, rfl, h⟩

theorem isRow_of_classifyRest {cells : List Text} {column : Option Nat}
    (h : classifyRest lines p = .table n cells column) :
    Table.isRow (lines.lineAt p.line) = true := by
  -- In the order of the classification, rows come first.
  rw [classifyRest] at h
  split at h
  · assumption
  · split at h
    · cases h
    · split at h
      · cases h
      · split at h
        · cases h
        · cases h
        · split at h <;> cases h

/-- A table holds the cursor on a row only. -/
theorem isRow_of_classify {cells : List Text} {column : Option Nat}
    (h : classify config lines p = .table n cells column) :
    Table.isRow (lines.lineAt p.line) = true := by
  rw [classify] at h
  split at h
  · cases h
  · split at h
    · cases h
    · split at h
      · rw [ofItem] at h
        split at h <;> cases h
      · cases hOwner : ownerContext? config lines p.line with
        | some c =>
          obtain ⟨m, item, rfl, -⟩ := ownerContext?_eq_some hOwner
          rw [hOwner, Option.getD_some, ofItem] at h
          split at h <;> cases h
        | none =>
          rw [hOwner, Option.getD_none] at h
          exact isRow_of_classifyRest h

variable {afterContent : Bool}

section

variable (hp : d.lines.Inside p) (hLines : d.lines.Unbroken)

include hp hLines

/-- A new heading of the level of one that is there, put before line `q`. -/
theorem exists_execute_headingLine {h : Heading} {line : Text} {q : Nat}
    (hParse : Heading.parse? config.keywords line = some h) (hq : q ≤ d.lines.length)
    (hPlan : Plan.ofCommand config d.lines p command =
      .apply [d.lines.insertion q [Plan.headingLine h.level []]] ⟨q, h.level + 1⟩) :
    ∃ cursor d', execute config (.editable d) p command = .ok (.cursor cursor, .editable d') ∧
      ofPosition config d'.lines cursor = .heading cursor.line (.plain h.level []) := by
  have hLevel : 0 < h.level := by
    rw [Heading.level_of_parse? hParse]
    exact Heading.levelOf_pos_of_parse? hParse
  obtain ⟨d', hExecute, hInside, hAt⟩ := exists_execute_newLine_alone hp hLines hPlan
    (Heading.unbroken_headingLine h.level Text.unbroken_nil) hq
    (Heading.level_lt_length_headingLine h.level [])
  refine ⟨⟨q, h.level + 1⟩, d', hExecute, ?_⟩
  rw [ofPosition, hInside.clamp_eq]
  exact classify_headingLine config hLevel hAt

/-- From an item, and from text nested in it. -/
theorem exists_execute_of_item {item : ListItem}
    (hItem : (classify config d.lines p).item? = some (n, item)) :
    ∃ cursor d', execute config (.editable d) p (.insertSibling afterContent) =
        .ok (.cursor cursor, .editable d') ∧
      (classify config d.lines p).IsSibling config d.lines cursor.line
        (ofPosition config d'.lines cursor) := by
  have hHolds : Plan.Holds config d.lines p n item := classify_item? hItem
  have hParse := hHolds.parse?_eq
  have hn := ListItem.lt_length_of_parse? hParse
  obtain ⟨q, hq, hPlan⟩ : ∃ q ≤ d.lines.length,
      Plan.ofCommand config d.lines p (.insertSibling afterContent) =
        Plan.insertItem config d.lines n item q := by
    refine ⟨_, ?_, ofCommand_of_item hp hItem⟩
    split
    · exact ListItem.extentEnd_lt hn _
    · exact hn
  obtain ⟨column, d', new, hExecute, hInside, hNew, hSibling⟩ :=
    ListItem.exists_execute_insertItem hp hLines hParse hq hPlan
  refine ⟨⟨q, column⟩, d', hExecute, ?_⟩
  rw [eq_ofItem_of_sound (sound_classify config d.lines p) hItem, ofPosition, hInside.clamp_eq,
    classify_eq_ofItem config hNew]
  exact isSibling_ofItem hSibling n q

/-- From a row of a table. -/
theorem exists_execute_of_isRow {cells : List Text} {column : Option Nat}
    (hContext : classify config d.lines p = .table n cells column) :
    ∃ cursor d', execute config (.editable d) p (.insertSibling afterContent) =
        .ok (.cursor cursor, .editable d') ∧
      ∃ cells', ofPosition config d'.lines cursor = .table cursor.line cells' (some 0) := by
  have hRow := isRow_of_classify hContext
  have hNew := (Table.bare_blankLike hRow).isRow
  obtain ⟨start, hStart, hIndex⟩ := Table.exists_firstCell? hNew
  have hPlan : Plan.ofCommand config d.lines p (.insertSibling afterContent) =
      .apply [d.lines.insertion (p.line + 1) [Table.blankLike (d.lines.lineAt p.line)]]
        ⟨p.line + 1, start⟩ := by
    rw [Plan.ofCommand, hp.clamp_eq, hContext, Plan.inContext, Plan.onTable, Plan.insertRow]
    simp only [hStart, Option.getD_some]
  obtain ⟨d', hExecute, hInside, hAt⟩ := exists_execute_newLine_alone hp hLines hPlan
    (Table.unbroken_blankLike _) hp.line_lt (Table.firstCell?_le hStart)
  rw [← hAt] at hNew hIndex
  refine ⟨⟨p.line + 1, start⟩, d', hExecute, Table.cells (d'.lines.lineAt (p.line + 1)), ?_⟩
  rw [ofPosition, hInside.clamp_eq,
    Table.classify_of_isRow (p := ⟨p.line + 1, start⟩) config hNew, hIndex]

/-- From a heading. -/
theorem exists_execute_of_heading {h : Heading}
    (hContext : classify config d.lines p = .heading n h) :
    ∃ cursor d', execute config (.editable d) p (.insertSibling afterContent) =
        .ok (.cursor cursor, .editable d') ∧
      ofPosition config d'.lines cursor = .heading cursor.line (.plain h.level []) := by
  obtain ⟨rfl, hParse⟩ := classify_eq_heading hContext
  apply exists_execute_headingLine hp hLines hParse (Plan.afterSubtree_le hp.line_lt)
  rw [Plan.ofCommand, hp.clamp_eq, hContext, Plan.inContext, Plan.onHeading]

/-- From text, which may belong to a heading. -/
theorem exists_execute_of_text (hContext : classify config d.lines p = .text n) :
    ∃ cursor d', execute config (.editable d) p (.insertSibling afterContent) =
        .ok (.cursor cursor, .editable d') ∧
      ∀ m h, Heading.enclosing? config.keywords d.lines n = some (m, h) →
        ofPosition config d'.lines cursor = .heading cursor.line (.plain h.level []) := by
  have hSound := sound_classify config d.lines p
  rw [hContext] at hSound
  obtain rfl : n = p.line := hSound
  have hPlan : Plan.ofCommand config d.lines p (.insertSibling afterContent) =
      Plan.onText config d.lines p (.insertSibling afterContent) := by
    rw [Plan.ofCommand, hp.clamp_eq, hContext, Plan.inContext]
  rw [Plan.onText] at hPlan
  cases hEnclosing : Heading.enclosing? config.keywords d.lines p.line with
  | none =>
    rw [hEnclosing] at hPlan
    obtain ⟨d', hExecute⟩ := exists_execute_eq_of_apply hp hPlan
    exact ⟨_, d', hExecute, by simp⟩
  | some found =>
    obtain ⟨m, h⟩ := found
    obtain ⟨-, hParse, -⟩ := (Heading.enclosing?_eq_some_iff hp.line_lt).mp hEnclosing
    rw [hEnclosing] at hPlan
    obtain ⟨cursor, d', hExecute, hNew⟩ :=
      exists_execute_headingLine hp hLines hParse hp.line_lt hPlan
    refine ⟨cursor, d', hExecute, fun m' h' hSome => ?_⟩
    obtain ⟨-, rfl⟩ := Prod.mk.inj (Option.some.inj hSome)
    exact hNew

end

end Context

/-- **New elements of the same kind.** At every place of a document without carriage returns the
command for a new element puts the cursor into an empty element of the same kind, whatever is around
it. At any other place it is refused. -/
theorem insertSibling_same_kind (config : Config) {d : Document}
    (hReturn : ∀ l ∈ d.lines, '\r' ∉ l) (p : Position) (afterContent : Bool) :
    (d.lines.Inside p ∧ ∃ cursor d',
      execute config (.editable d) p (.insertSibling afterContent) =
        .ok (.cursor cursor, .editable d') ∧
      (Context.ofPosition config d.lines p).IsSibling config d.lines cursor.line
        (Context.ofPosition config d'.lines cursor)) ∨
    (¬d.lines.Inside p ∧ execute config (.editable d) p (.insertSibling afterContent) =
      .error (.outOfBounds p d.lines.length)) := by
  by_cases hp : d.lines.Inside p
  swap
  · exact Or.inr ⟨hp, execute_eq_error hp⟩
  refine Or.inl ⟨hp, ?_⟩
  have hLines := Document.unbroken_lines hReturn
  have hPlan : Plan.ofCommand config d.lines p (.insertSibling afterContent) =
      Plan.inContext config d.lines p (Context.classify config d.lines p)
        (.insertSibling afterContent) := by
    rw [Plan.ofCommand, hp.clamp_eq]
  rw [Context.ofPosition, hp.clamp_eq]
  cases hContext : Context.classify config d.lines p with
  | heading n h => exact Context.exists_execute_of_heading hp hLines hContext
  | listItem n item | checkbox n item =>
    have hItem : (Context.classify config d.lines p).item? = some (n, item) := by
      rw [hContext]
      rfl
    rw [← hContext]
    exact Context.exists_execute_of_item hp hLines hItem
  | table n cells column => exact Context.exists_execute_of_isRow hp hLines hContext
  | text n => exact Context.exists_execute_of_text hp hLines hContext
  | property | drawer | blockHeader | block | drawerHeader | drawerEnd =>
    rw [hContext] at hPlan
    obtain ⟨d', hExecute⟩ := exists_execute_eq_of_apply hp hPlan
    exact ⟨_, d', hExecute, trivial⟩

/-- From text nested in a numbered item with a checkbox, which is indented by a tab. -/
theorem insertSibling_same_kind_nested :
    let d := Document.ofText "* H\n\t07)  [x] a\n\t  text\n\t3) b".toList
    ∃ cursor d' new number,
      execute {} (.editable d) ⟨2, 4⟩ (.insertSibling false) =
        .ok (.cursor cursor, .editable d') ∧
      Context.ofPosition {} d'.lines cursor = .checkbox cursor.line new ∧
      new = ⟨1, .ordered number ')', some .empty, []⟩ := by
  intro d
  have hContext : Context.ofPosition {} d.lines ⟨2, 4⟩ =
      .checkbox 1 ⟨1, .ordered 7 ')', some .checked, "a".toList⟩ := by
    decide
  rcases insertSibling_same_kind {} (d := d) (by decide) ⟨2, 4⟩ false with
    ⟨-, cursor, d', hExecute, hSibling⟩ | ⟨hOutside, -⟩
  · rw [hContext] at hSibling
    obtain ⟨new, hNew, hIndent, ⟨number, hBullet⟩, hBox, hContent⟩ := hSibling
    refine ⟨cursor, d', new, number, hExecute, hNew, ?_⟩
    obtain ⟨indent, bullet, checkbox, content⟩ := new
    simp only at hIndent hBullet hBox hContent
    subst hIndent hBullet hBox hContent
    rfl
  · exact absurd ⟨by decide, by decide⟩ hOutside

end Outliner
