import Outliner.Context
import Outliner.Proofs.Lines

/-!
# Outliner — contexts of headings and items

What it takes for a cursor to be on a heading or in a list item. An item holds the cursor either on
its own line, or as the owner of text below it; then the line of the cursor is no item itself.

* `Context.item?` — the item that holds the cursor, with its line.
* `mem_of_searchOwner_eq_owner` — the search for an owner finds an item line above the text.

Main results:

* `classify_eq_heading` — headings hold only their own line.
* `classify_item?` — the two ways in which an item holds a cursor.
-/

namespace Outliner.Context

variable {config : Config} {lines : Lines} {p : Position} {n m : Nat} {item : ListItem}

/-- The item that holds the cursor, with its line. -/
def item? : Context → Option (Nat × ListItem)
  | listItem n item | checkbox n item => some (n, item)
  | _ => none

@[simp]
theorem item?_ofItem (n : Nat) (item : ListItem) : (ofItem n item).item? = some (n, item) := by
  rw [ofItem]
  split <;> rfl

/-- What is no heading, fence or item and has no owner is held by no item. -/
@[simp]
theorem item?_classifyRest (lines : Lines) (p : Position) : (classifyRest lines p).item? = none := by
  rw [classifyRest]
  split
  · rfl
  · split
    · rfl
    · split
      · rfl
      · split
        · rfl
        · rfl
        · split <;> rfl

theorem classifyRest_ne_heading (lines : Lines) (p : Position) (n : Nat) (h : Heading) :
    classifyRest lines p ≠ .heading n h := by
  rw [classifyRest]
  split
  · simp
  · split
    · simp
    · split
      · simp
      · split
        · simp
        · simp
        · split <;> simp

/-! ## The owner of a line -/

/-- What a search that will find an owner does at a line: it ends there, or it goes on. -/
inductive OwnerStep (limit floor blanks fences : Nat) (line : Text) (k : Nat)
    (rest : List (Text × Nat)) (n : Nat) (item : ListItem) : Prop where
  | blank (hBlank : line.isBlankLine = true)
      (hRest : searchOwner limit floor (blanks + 1) fences rest = .owner n item)
  | closing (hBlank : line.isBlankLine = false) (hBody : Heading.levelOf line = 0)
      (hEnd : Block.isEnd line = true)
      (hRest : searchOwner limit floor 0 (fences + 1) rest = .owner n item)
  | opening (hBlank : line.isBlankLine = false) (hBody : Heading.levelOf line = 0)
      (hBegin : (Block.parseBegin? line).isSome = true) {open' : Nat} (hFences : fences = open' + 1)
      (hRest : searchOwner limit floor 0 open' rest = .owner n item)
  | inside (hBlank : line.isBlankLine = false) (hBody : Heading.levelOf line = 0)
      (hFences : 0 < fences) (hRest : searchOwner limit floor 0 fences rest = .owner n item)
  | owner (hBlank : line.isBlankLine = false) (hBody : Heading.levelOf line = 0)
      (hFences : fences = 0) (hParse : ListItem.parse? line = some item) (hLine : k = n)
      (hIndent : item.indent < floor)
  | text (hBlank : line.isBlankLine = false) (hBody : Heading.levelOf line = 0)
      (hFences : fences = 0) (hParse : ListItem.parse? line = none) (hFloor : 0 < floor)
      (hIndent : 0 < line.indent)
      (hRest : searchOwner limit (min floor line.indent) 0 0 rest = .owner n item)

/-- **A step of the search.** -/
theorem ownerStep_of_searchOwner {limit floor blanks fences k : Nat} {line : Text}
    {rest : List (Text × Nat)}
    (h : searchOwner limit floor blanks fences ((line, k) :: rest) = .owner n item) :
    OwnerStep limit floor blanks fences line k rest n item := by
  unfold searchOwner at h
  -- In the order of the search; the branches that end it without an owner contradict `h`.
  split at h
  · next hBlank =>
    split at h
    · contradiction
    · exact .blank hBlank h
  · next hBlank =>
    have hBlank : line.isBlankLine = false := by simpa using hBlank
    split at h
    · contradiction
    · next hLevel =>
      have hBody : Heading.levelOf line = 0 := by omega
      split at h
      · next hEnd => exact .closing hBlank hBody hEnd h
      · split at h
        · next hBegin =>
          split at h
          · contradiction
          · exact .opening hBlank hBody hBegin rfl h
        · split at h
          · next hFences => exact .inside hBlank hBody hFences h
          · next hFences =>
            have hFences : fences = 0 := by omega
            split at h
            · next found hParse =>
              split at h
              · next hIndent =>
                injection h with hLine hItem
                subst hItem
                exact .owner hBlank hBody hFences hParse hLine hIndent
              · contradiction
            · next hParse =>
              dsimp only at h
              split at h
              · contradiction
              · exact .text hBlank hBody hFences hParse (by omega) (by omega) h

/-- The owner that a search finds is an item line that it met. -/
theorem mem_of_searchOwner_eq_owner {limit floor blanks fences : Nat} {walk : List (Text × Nat)}
    (h : searchOwner limit floor blanks fences walk = .owner n item) :
    ∃ line, (line, n) ∈ walk ∧ ListItem.parse? line = some item := by
  -- On the walk; the search changes its floor and its counters as it goes.
  induction walk generalizing floor blanks fences with
  | nil => simp [searchOwner] at h
  | cons x rest ih =>
    obtain ⟨line, k⟩ := x
    have hRest : ∀ {floor blanks fences},
        searchOwner limit floor blanks fences rest = .owner n item →
        ∃ l, (l, n) ∈ (line, k) :: rest ∧ ListItem.parse? l = some item := by
      intro floor blanks fences hs
      obtain ⟨l, hl, hParse⟩ := ih hs
      exact ⟨l, List.mem_cons_of_mem _ hl, hParse⟩
    cases ownerStep_of_searchOwner h with
    | blank _ h => exact hRest h
    | closing _ _ _ h => exact hRest h
    | opening _ _ _ _ h => exact hRest h
    | inside _ _ _ h => exact hRest h
    | owner _ _ _ hParse hLine _ =>
      subst hLine
      exact ⟨line, List.mem_cons_self .., hParse⟩
    | text _ _ _ _ _ _ h => exact hRest h

/-- The owner of a line is an item line above it. -/
theorem parse?_of_ownerOf_eq_owner (h : ownerOf config lines n = .owner m item) :
    m < n ∧ ListItem.parse? (lines.lineAt m) = some item := by
  rw [ownerOf] at h
  split at h
  · contradiction
  · obtain ⟨line, hMem, hParse⟩ := mem_of_searchOwner_eq_owner h
    obtain ⟨hLt, -, rfl⟩ := Lines.mk_mem_above_iff.mp hMem
    exact ⟨hLt, hParse⟩

/-- What is not structural passes none of the tests for a line of another kind. -/
theorem isStructural_eq_false_iff {line : Text} :
    isStructural line = false ↔
      Heading.levelOf line = 0 ∧ ListItem.parse? line = none ∧ Table.isRow line = false ∧
        Drawer.isStart line = false ∧ Drawer.isEnd line = false ∧
        Block.parseBegin? line = none ∧ Block.isEnd line = false := by
  simp only [isStructural, Bool.or_eq_false_iff, decide_eq_false_iff_not, Nat.not_lt, Nat.le_zero,
    Option.isSome_eq_false_iff, Option.isNone_iff_eq_none, and_assoc]

/-- The line is text that an item above it owns. -/
structure Nested (config : Config) (lines : Lines) (n m : Nat) (item : ListItem) : Prop where
  not_blank : (lines.lineAt n).isBlankLine = false
  not_structural : isStructural (lines.lineAt n) = false
  owner : ownerOf config lines n = .owner m item

theorem Nested.parse?_eq_none (h : Nested config lines n m item) :
    ListItem.parse? (lines.lineAt n) = none :=
  (isStructural_eq_false_iff.mp h.not_structural).2.1

/-- The context that an owner gives is that of its item. -/
theorem ownerContext?_eq_some {c : Context} (h : ownerContext? config lines n = some c) :
    ∃ m item, c = ofItem m item ∧ Nested config lines n m item := by
  rw [ownerContext?] at h
  split at h
  · contradiction
  · next hText =>
    obtain ⟨hBlank, hStructural⟩ := not_or.mp hText
    split at h
    · next m item hOwner =>
      injection h with h
      exact ⟨m, item, h.symm, by simpa using hBlank, by simpa using hStructural, hOwner⟩
    · contradiction

/-! ## Headings and items -/

/-- A heading holds the cursor on its own line. -/
theorem classify_eq_heading {h : Heading} (hc : classify config lines p = .heading n h) :
    n = p.line ∧ Heading.parse? config.keywords (lines.lineAt p.line) = some h := by
  -- Past the first branch no context is a heading.
  rw [classify] at hc
  split at hc
  · next h' hParse =>
    injection hc with hn hh
    exact ⟨hn.symm, by rw [hParse, hh]⟩
  · split at hc
    · contradiction
    · split at hc
      · rw [ofItem] at hc
        split at hc <;> contradiction
      · cases hOwner : ownerContext? config lines p.line with
        | some c =>
          obtain ⟨m, item, rfl, -⟩ := ownerContext?_eq_some hOwner
          rw [hOwner, Option.getD_some, ofItem] at hc
          split at hc <;> contradiction
        | none =>
          rw [hOwner, Option.getD_none] at hc
          exact absurd hc (classifyRest_ne_heading lines p n h)

/-- Every heading line holds the cursor that is on it. -/
theorem exists_classify_eq_heading (config : Config)
    (h : 0 < Heading.levelOf (lines.lineAt p.line)) :
    ∃ heading, classify config lines p = .heading p.line heading ∧
      heading.level = Heading.levelOf (lines.lineAt p.line) := by
  obtain ⟨heading, hParse⟩ :=
    Option.isSome_iff_exists.mp ((Heading.isSome_parse?_iff config.keywords _).mpr h)
  exact ⟨heading, by rw [classify, hParse], Heading.level_of_parse? hParse⟩

/-- **Items.** An item holds the cursor on its own line, or on a line of text that it owns. -/
theorem classify_item? (h : (classify config lines p).item? = some (n, item)) :
    (n = p.line ∧ ListItem.parse? (lines.lineAt p.line) = some item) ∨
      Nested config lines p.line n item := by
  -- Headings and fences come first, and what is left over at the end is held by no item.
  rw [classify] at h
  split at h
  · contradiction
  · split at h
    · contradiction
    · split at h
      · next found hParse =>
        rw [item?_ofItem] at h
        injection h with h
        injection h with hn hItem
        exact Or.inl ⟨hn.symm, by rw [hParse, hItem]⟩
      · cases hOwner : ownerContext? config lines p.line with
        | some c =>
          obtain ⟨m, item', rfl, hNested⟩ := ownerContext?_eq_some hOwner
          rw [hOwner, Option.getD_some, item?_ofItem] at h
          injection h with h
          injection h with hn hItem
          subst hn hItem
          exact Or.inr hNested
        | none =>
          rw [hOwner, Option.getD_none, item?_classifyRest] at h
          contradiction

end Outliner.Context
