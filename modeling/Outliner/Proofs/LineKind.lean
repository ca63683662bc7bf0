import Outliner.Proofs.Enclosure
import Outliner.Proofs.Opening

/-!
# Outliner — kinds of line

Seven tests tell from a line alone what it is: a heading, a fence that opens or closes a block, a
list item, a row of a table, or a marker that opens or closes a drawer. The scans of the library
make some of these tests each, in an order of their own, and some ask for the level of a heading
where others read the whole of it. None of this matters, because no line passes two of the tests.

* `LineKind`, `LineKind.accepts` — the kinds of line, and their tests.
* `LineKind.opens`, `LineKind.Alike` — what a line of a kind opens with, and the pairs of kinds that
  can open with the same character.
* `Context.lineKind?` — the kind of line that a context is the context of.

Main results:

* `eq_of_accepts` — a line is of one kind at most.
* `find?_eq_some_iff` — so the first test that it passes is the same in every order.
* `lineKind?_classify` — classification makes the tests in an order, too.
* `told_apart` — all of this together.
-/

namespace Outliner

/-- What a line can be, apart from plain text. -/
inductive LineKind where
  | heading
  | openingFence
  | item
  | row
  | drawerStart
  | drawerEnd
  | closingFence
deriving DecidableEq, Repr

namespace LineKind

variable {k k' : LineKind} {line : Text} {c : Char}

/-- The line is of the kind. -/
def accepts : LineKind → Text → Bool
  | heading, line => 0 < Heading.levelOf line
  | openingFence, line => (Block.parseBegin? line).isSome
  | item, line => (ListItem.parse? line).isSome
  | row, line => Table.isRow line
  | drawerStart, line => Drawer.isStart line
  | drawerEnd, line => Drawer.isEnd line
  | closingFence, line => Block.isEnd line

/-! ## What the kinds open with -/

/-- A line of the kind can open with the character, behind its white space. -/
def opens : LineKind → Char → Bool
  | heading, c => c == '*'
  | openingFence, c | closingFence, c => c == '#'
  | item, c => Bullet.opens c
  | row, c => c == '|'
  | drawerStart, c | drawerEnd, c => c == ':'

/-- The kinds that can open with the same character. -/
inductive Alike : LineKind → LineKind → Prop
  | star : Alike heading item
  | hash : Alike openingFence closingFence
  | colon : Alike drawerStart drawerEnd

theorem exists_opening?_of_accepts (h : k.accepts line = true) :
    ∃ c, line.opening? = some c ∧ k.opens c = true := by
  cases k with
  | heading => exact ⟨'*', Heading.opening?_of_levelOf_pos (by simpa [accepts] using h), rfl⟩
  | openingFence => exact ⟨'#', Block.opening?_of_parseBegin? h, rfl⟩
  | item =>
    obtain ⟨item, hParse⟩ := Option.isSome_iff_exists.mp h
    exact ListItem.exists_opening?_of_parse? hParse
  | row => exact ⟨'|', Table.opening?_of_isRow h, rfl⟩
  | drawerStart => exact ⟨':', Drawer.opening?_of_isStart h, rfl⟩
  | drawerEnd => exact ⟨':', Drawer.opening?_of_isEnd h, rfl⟩
  | closingFence => exact ⟨'#', Block.opening?_of_isEnd h, rfl⟩

/-- Only an item can open with one of several characters, and a star is the one of them with which
something else opens. -/
theorem eq_or_alike_of_opens (h : k.opens c = true) (h' : k'.opens c = true) :
    k = k' ∨ Alike k k' ∨ Alike k' k := by
  have hItem : Bullet.opens '#' = false ∧ Bullet.opens '|' = false ∧ Bullet.opens ':' = false := by
    decide
  obtain ⟨hHash, hPipe, hColon⟩ := hItem
  cases k <;> cases k' <;> simp_all [opens, Alike.star, Alike.hash, Alike.colon]

/-! ## No line is of two kinds -/

/-- Kinds that open alike are told apart by what follows: a star in column zero is no marker, and
the fences and the drawer markers have different words. -/
theorem Alike.not_both (h : Alike k k') (hk : k.accepts line = true) : k'.accepts line = false := by
  cases h with
  | star =>
    have hLevel : 0 < Heading.levelOf line := by simpa [accepts] using hk
    rw [accepts, Option.isSome_eq_false_iff, Option.isNone_iff_eq_none]
    by_contra hItem
    obtain ⟨item, hParse⟩ := Option.ne_none_iff_exists'.mp hItem
    rw [ListItem.levelOf_eq_zero_of_parse? hParse] at hLevel
    exact Nat.lt_irrefl 0 hLevel
  | hash => exact Block.isEnd_eq_false_of_parseBegin? hk
  | colon => exact Drawer.isEnd_eq_false_of_isStart hk

/-- **A line is of one kind at most.** -/
theorem eq_of_accepts (h : k.accepts line = true) (h' : k'.accepts line = true) : k = k' := by
  obtain ⟨c, hOpening, hc⟩ := exists_opening?_of_accepts h
  obtain ⟨c', hOpening', hc'⟩ := exists_opening?_of_accepts h'
  obtain rfl : c = c' := Option.some.inj (hOpening.symm.trans hOpening')
  rcases eq_or_alike_of_opens hc hc' with hSame | hAlike | hAlike
  · exact hSame
  · rw [hAlike.not_both h] at h'
    contradiction
  · rw [hAlike.not_both h'] at h
    contradiction

/-- The order of the tests does not matter to a scan that makes the test for a kind. -/
theorem find?_eq_some_iff {scan : List LineKind} (hk : k ∈ scan) :
    scan.find? (·.accepts line) = some k ↔ k.accepts line = true := by
  constructor
  · intro h
    exact List.find?_some (p := fun k : LineKind => k.accepts line) h
  · intro h
    -- The scan stops at some kind, and the line is of no other one.
    obtain ⟨k', hFound⟩ := Option.isSome_iff_exists.mp
      (List.find?_isSome (p := fun k : LineKind => k.accepts line).mpr ⟨k, hk, h⟩)
    have hAccepts := List.find?_some (p := fun k : LineKind => k.accepts line) hFound
    rw [hFound, eq_of_accepts hAccepts h]

end LineKind

/-! ## Classification -/

namespace Context

variable {lines : Lines} {p : Position} {k : LineKind}

/-- The kind of line `n`, as far as a context tells it that holds a place on the line. Text has no
kind, be it in a list item above or between two marks; and neither has a closing fence. -/
def lineKind? (n : Nat) : Context → Option LineKind
  | heading .. => some .heading
  | blockHeader .. => some .openingFence
  | listItem m _ | checkbox m _ => if m = n then some .item else none
  | table .. => some .row
  | drawerHeader _ => some .drawerStart
  | drawerEnd _ => some .drawerEnd
  | block .. | property .. | drawer .. | text _ => none

/-- The tests of a classification, in their order. -/
def tested : List LineKind :=
  [.heading, .openingFence, .item, .row, .drawerStart, .drawerEnd]

theorem mem_tested_of_ne (h : k ≠ .closingFence) : k ∈ tested := by
  cases k with
  | closingFence => contradiction
  | _ => decide

theorem lineKind?_ofItem (m n : Nat) (item : ListItem) :
    (ofItem m item).lineKind? n = if m = n then some .item else none := by
  rw [ofItem]
  split <;> rfl

/-- Among the lines that are neither headings nor fences nor items, rows come first and then the
markers of drawers. -/
theorem lineKind?_classifyRest (lines : Lines) (p : Position) :
    (classifyRest lines p).lineKind? p.line =
      [LineKind.row, .drawerStart, .drawerEnd].find? (·.accepts (lines.lineAt p.line)) := by
  rw [classifyRest]
  cases hRow : Table.isRow (lines.lineAt p.line) with
  | true => simp [LineKind.accepts, hRow, lineKind?]
  | false =>
    cases hStart : Drawer.isStart (lines.lineAt p.line) with
    | true => simp [LineKind.accepts, hRow, hStart, lineKind?]
    | false =>
      cases hEnd : Drawer.isEnd (lines.lineAt p.line) with
      | true => simp [LineKind.accepts, hRow, hStart, hEnd, lineKind?]
      | false =>
        -- What is left is text, wherever it stands.
        simp only [LineKind.accepts, hRow, hStart, hEnd, Bool.false_eq_true, if_false,
          List.find?_cons, List.find?_nil]
        split
        · rfl
        · rfl
        · split <;> rfl

/-- **Classification makes its tests one after the other.** The search for an owner comes in
between, but only for lines that would pass none of the later tests. -/
theorem lineKind?_classify (config : Config) (lines : Lines) (p : Position) :
    (classify config lines p).lineKind? p.line =
      tested.find? (·.accepts (lines.lineAt p.line)) := by
  rw [classify, tested]
  cases hHeading : Heading.parse? config.keywords (lines.lineAt p.line) with
  | some h =>
    have hLevel := Heading.levelOf_pos_of_parse? hHeading
    simp [LineKind.accepts, hLevel, lineKind?]
  | none =>
    have hLevel : Heading.levelOf (lines.lineAt p.line) = 0 := by
      refine Nat.eq_zero_of_not_pos fun hPos => ?_
      rw [← Heading.isSome_parse?_iff config.keywords, hHeading] at hPos
      contradiction
    cases hFence : Block.parseBegin? (lines.lineAt p.line) with
    | some fence => simp [LineKind.accepts, hLevel, hFence, lineKind?]
    | none =>
      cases hItem : ListItem.parse? (lines.lineAt p.line) with
      | some item => simp [LineKind.accepts, hLevel, hFence, hItem, lineKind?_ofItem]
      | none =>
        cases hOwner : ownerContext? config lines p.line with
        | none => simp [LineKind.accepts, hLevel, hFence, hItem, lineKind?_classifyRest]
        | some context =>
          obtain ⟨m, item, rfl, hNested⟩ := ownerContext?_eq_some hOwner
          have hAbove := (parse?_of_ownerOf_eq_owner hNested.owner).1
          have hText := isStructural_eq_false_iff.mp hNested.not_structural
          simp [LineKind.accepts, hLevel, hFence, hItem, hText, lineKind?_ofItem,
            Nat.ne_of_lt hAbove]

end Context

/-- **Kinds of line are told apart.** No line is of two kinds. A line is read as a heading, with
whatever keywords, exactly if it has a level, and then with that level. A scan that tests for a kind
finds it in every line of the kind and in no other, whatever else it tests for and in what order.
And a cursor on a line is classified by its kind, wherever the line stands; only closing fences
count as text. -/
theorem LineKind.told_apart (line : Text) :
    (∀ k k' : LineKind, k.accepts line = true → k'.accepts line = true → k = k') ∧
      (∀ keywords, (Heading.parse? keywords line).map Heading.level =
        if 0 < Heading.levelOf line then some (Heading.levelOf line) else none) ∧
      (∀ (scan : List LineKind) (k : LineKind), k ∈ scan →
        (scan.find? (·.accepts line) = some k ↔ k.accepts line = true)) ∧
      ∀ config lines p, Lines.lineAt lines p.line = line → ∀ k : LineKind, k ≠ .closingFence →
        ((Context.classify config lines p).lineKind? p.line = some k ↔ k.accepts line = true) := by
  refine ⟨fun k k' => eq_of_accepts, fun keywords => ?_, fun scan k => find?_eq_some_iff, ?_⟩
  · split
    · next hLevel =>
      obtain ⟨heading, hParse⟩ := Heading.exists_parse?_eq keywords hLevel
      rw [hParse, Option.map_some, Heading.level_of_parse? hParse]
    · next hLevel =>
      rw [Heading.parse?_eq_none keywords (Nat.eq_zero_of_not_pos hLevel), Option.map_none]
  · rintro config lines p rfl k hk
    rw [Context.lineKind?_classify]
    exact find?_eq_some_iff (Context.mem_tested_of_ne hk)

/-- A star behind a tab is the marker of an item, and a fence may stand behind any white space only
if it closes a block. -/
example :
    LineKind.item.accepts "\t* a".toList = true ∧ LineKind.heading.accepts "*\ta".toList = true ∧
      LineKind.closingFence.accepts "\u00a0#+end_x".toList = true ∧
      LineKind.openingFence.accepts "\u00a0#+begin_x".toList = false := by
  decide

end Outliner
