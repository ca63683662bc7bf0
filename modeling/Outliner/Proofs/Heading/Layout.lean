import Outliner.Proofs.Subtree
import Outliner.Proofs.Text

/-!
# Outliner — how a heading line is laid out

A heading line is a run of stars, a gap, and a body that is not indented. The body alone says what
the parts of the heading are, and it is read from the left: a keyword with the gap behind it, then a
cookie, then title and tags. A line with another body behind the same stars and the same gap is a
heading of the same level.

* `Heading.Layout` — the stars, the gap and the body of a heading line.
* `Heading.bodyOf` — the body of a line.
* `Heading.Opens` — a body that opens with a keyword.

Main results:

* `exists_layout`, `Layout.parse?_eq` — every heading line has a layout, and is read from its body.
* `Opens.takeKeyword_eq`, `takeKeyword_eq_or` — the keyword that a body is read to have.
* `exists_edit?_body` — a document takes another opening for the body of a heading.
-/

namespace Outliner

namespace Text

variable {s t : Text}

/-- What is blank ends the first word. -/
theorem firstWord_append (hs : ∀ c ∈ s, isBlank c = false)
    (ht : ∀ c, t.head? = some c → isBlank c = true) : firstWord (s ++ t) = (s, t) := by
  have hSolid : ∀ c ∈ s, (!isBlank c) = true := fun c hc => by rw [hs c hc]; rfl
  unfold firstWord
  rw [List.takeWhile_append_of_pos hSolid, List.dropWhile_append_of_pos hSolid]
  cases t with
  | nil => simp
  | cons c t => simp [ht c rfl]

/-- The first word and what follows it make up the text. -/
theorem firstWord_spec (t : Text) :
    t = (firstWord t).1 ++ (firstWord t).2 ∧ ∀ c ∈ (firstWord t).1, isBlank c = false := by
  refine ⟨(List.takeWhile_append_dropWhile ..).symm, fun c hc => ?_⟩
  have hSolid := List.mem_takeWhile_imp hc
  simpa using hSolid

/-- A word is not indented. -/
theorem indent_append_eq_zero_of_solid (hs : s ≠ []) (hSolid : ∀ c ∈ s, isBlank c = false)
    (t : Text) : indent (s ++ t) = 0 := by
  apply indent_append_eq_zero hs
  rw [indent_eq_zero_iff]
  intro c hc
  by_contra hBlank
  have hSpace := isBlank_of_isSpaceOrTab ((Bool.not_eq_false _).mp hBlank)
  rw [hSolid c (List.mem_of_head? hc)] at hSpace
  contradiction

theorem atGap_append {gap rest : Text} (hGap : ∀ c ∈ gap, isSpaceOrTab c = true)
    (hRest : gap = [] → rest = []) : atGap (gap ++ rest) = true := by
  cases gap with
  | nil =>
    rw [hRest rfl]
    rfl
  | cons c gap => exact hGap c (List.mem_cons_self ..)

end Text

namespace Heading

variable {keywords : Keywords} {line gap body body' t word rest : Text} {level n : Nat}

/-! ## Stars, a gap and a body -/

/-- The line is a run of stars, a gap, and a body that is not indented. -/
structure Layout (line : Text) (level : Nat) (gap body : Text) : Prop where
  eq : line = List.replicate level '*' ++ (gap ++ body)
  level_pos : 0 < level
  gap_ne_nil : gap ≠ []
  gap_blank : ∀ c ∈ gap, Text.isSpaceOrTab c = true
  indent_body : body.indent = 0

theorem Layout.levelOf_eq (h : Layout line level gap body) : levelOf line = level := by
  obtain ⟨c, t, rfl⟩ := List.exists_cons_of_ne_nil h.gap_ne_nil
  rw [h.eq, List.cons_append, levelOf_replicate_append (h.gap_blank c (List.mem_cons_self ..))]

theorem Layout.drop_level (h : Layout line level gap body) : line.drop level = gap ++ body := by
  rw [h.eq]
  exact List.drop_left' List.length_replicate

theorem Layout.indent_drop_level (h : Layout line level gap body) :
    Text.indent (line.drop level) = gap.length := by
  rw [h.drop_level, Text.indent_append h.gap_blank h.indent_body]

theorem Layout.drop_front (h : Layout line level gap body) :
    line.drop (level + gap.length) = body := by
  rw [← List.drop_drop, h.drop_level, List.drop_left]

theorem Layout.take_front (h : Layout line level gap body) :
    line.take (level + gap.length) = List.replicate level '*' ++ gap := by
  have hFront : line = (List.replicate level '*' ++ gap) ++ body := by
    rw [List.append_assoc, ← h.eq]
  rw [hFront]
  exact List.take_left' (by simp)

/-- **A heading is read from its body.** -/
theorem Layout.parse?_eq (h : Layout line level gap body) (keywords : Keywords) :
    parse? keywords line = some (ofBody keywords level body) := by
  rw [parse?_eq_ite, h.levelOf_eq, if_neg (Nat.ne_of_gt h.level_pos), h.drop_level,
    Text.dropIndent_append h.gap_blank h.indent_body]

/-- Behind the same stars and the same gap may stand another body. -/
theorem Layout.with_body (h : Layout line level gap body) (hBody : body'.indent = 0) :
    Layout (List.replicate level '*' ++ (gap ++ body')) level gap body' :=
  ⟨rfl, h.level_pos, h.gap_ne_nil, h.gap_blank, hBody⟩

/-- What follows the stars of a line and the gap behind them. -/
def bodyOf (line : Text) : Text :=
  Text.dropIndent (line.drop (levelOf line))

/-- **Every heading line has a layout.** -/
theorem exists_layout (h : 0 < levelOf line) :
    ∃ gap, Layout line (levelOf line) gap (bodyOf line) := by
  obtain ⟨c, t, hc, hLine⟩ := exists_eq_of_levelOf_pos h
  have hDrop : line.drop (levelOf line) = c :: t := by
    generalize levelOf line = level at hLine
    rw [hLine]
    exact List.drop_left' List.length_replicate
  have hBody : bodyOf line = Text.dropIndent t := by
    unfold bodyOf
    rw [hDrop, Text.dropIndent, List.dropWhile_cons_of_pos hc, Text.dropIndent]
  -- The character behind the stars is the first one of the gap.
  refine ⟨c :: t.take (Text.indent t), ?_, h, by simp, ?_, ?_⟩
  · rw [List.cons_append, hBody, Text.take_indent_append_dropIndent]
    exact hLine
  · intro a ha
    rcases List.mem_cons.mp ha with rfl | ha
    · exact hc
    · exact Text.isSpaceOrTab_of_mem_take_indent ha
  · rw [hBody, Text.indent_dropIndent]

theorem ofBody_of_parse? {h : Heading} (hp : parse? keywords line = some h) :
    ofBody keywords (levelOf line) (bodyOf line) = h := by
  rw [parse?_eq_ite] at hp
  exact Option.some.inj (Option.ite_none_left_eq_some.mp hp).2

/-! ## Keywords -/

/-- The body opens with one of the words, then comes a gap or the end, and then the rest. -/
structure Opens (keywords : Keywords) (t word gap rest : Text) : Prop where
  eq : t = word ++ (gap ++ rest)
  word_mem : word ∈ keywords.all
  word_ne_nil : word ≠ []
  word_solid : ∀ c ∈ word, Text.isBlank c = false
  gap_blank : ∀ c ∈ gap, Text.isSpaceOrTab c = true
  rest_of_gap : gap = [] → rest = []
  indent_rest : rest.indent = 0

theorem Opens.firstWord_eq (h : Opens keywords t word gap rest) :
    Text.firstWord t = (word, gap ++ rest) := by
  rw [h.eq]
  apply Text.firstWord_append h.word_solid
  intro c hc
  -- Behind the word comes a space or a tab, if anything.
  have hGap := Text.atGap_append h.gap_blank h.rest_of_gap
  rw [Text.atGap, hc] at hGap
  exact Text.isBlank_of_isSpaceOrTab hGap

/-- **The keyword that opens a body** is read, and the gap behind it is dropped. -/
theorem Opens.takeKeyword_eq (h : Opens keywords t word gap rest) :
    takeKeyword keywords t = (some word, rest) := by
  have hTaken : word ≠ [] ∧ keywords.all.contains word ∧ Text.atGap (gap ++ rest) :=
    ⟨h.word_ne_nil, List.contains_iff_mem.mpr h.word_mem,
      Text.atGap_append h.gap_blank h.rest_of_gap⟩
  unfold takeKeyword
  rw [h.firstWord_eq]
  dsimp only
  rw [if_pos hTaken, Text.dropIndent_append h.gap_blank h.indent_rest]

/-- A keyword in front of a gap or the end opens the body. -/
theorem opens_of_atGap {after : Text} (hMem : word ∈ keywords.all) (hNonempty : word ≠ [])
    (hSolid : ∀ c ∈ word, Text.isBlank c = false) (hGap : Text.atGap after = true) :
    Opens keywords (word ++ after) word (after.take (Text.indent after))
      (Text.dropIndent after) where
  eq := by rw [Text.take_indent_append_dropIndent]
  word_mem := hMem
  word_ne_nil := hNonempty
  word_solid := hSolid
  gap_blank c hc := Text.isSpaceOrTab_of_mem_take_indent hc
  rest_of_gap := by
    -- Where no gap follows the word, nothing does.
    cases after with
    | nil => exact fun _ => rfl
    | cons c after =>
      have hc : Text.isSpaceOrTab c = true := hGap
      intro hNone
      simp [Text.indent, hc] at hNone
  indent_rest := Text.indent_dropIndent after

/-- A body opens with a keyword, or is left as it is. -/
theorem takeKeyword_eq_or (keywords : Keywords) (t : Text) :
    takeKeyword keywords t = (none, t) ∨ ∃ word gap rest, Opens keywords t word gap rest := by
  obtain ⟨hSplit, hSolid⟩ := Text.firstWord_spec t
  by_cases hTaken : (Text.firstWord t).1 ≠ [] ∧ keywords.all.contains (Text.firstWord t).1 ∧
      Text.atGap (Text.firstWord t).2
  · -- The first word is a keyword, and a gap or the end follows it.
    obtain ⟨hNonempty, hMem, hGap⟩ := hTaken
    have hOpens := opens_of_atGap (List.contains_iff_mem.mp hMem) hNonempty hSolid hGap
    rw [← hSplit] at hOpens
    exact Or.inr ⟨_, _, _, hOpens⟩
  · left
    unfold takeKeyword
    exact if_neg hTaken

theorem takeKeyword_eq_none_iff :
    takeKeyword keywords t = (none, t) ↔ ¬∃ word gap rest, Opens keywords t word gap rest := by
  constructor
  · rintro hNone ⟨word, gap, rest, h⟩
    rw [h.takeKeyword_eq] at hNone
    simp at hNone
  · exact (takeKeyword_eq_or keywords t).resolve_right

theorem takeKeyword_eq_of_fst_eq_none (h : (takeKeyword keywords t).1 = none) :
    takeKeyword keywords t = (none, t) := by
  rcases takeKeyword_eq_or keywords t with hNone | ⟨word, _, _, hOpens⟩
  · exact hNone
  · rw [hOpens.takeKeyword_eq] at h
    contradiction

theorem indent_takeKeyword (ht : t.indent = 0) : (takeKeyword keywords t).2.indent = 0 := by
  rcases takeKeyword_eq_or keywords t with hNone | ⟨word, gap, rest, h⟩
  · rw [hNone]
    exact ht
  · rw [h.takeKeyword_eq]
    exact h.indent_rest

/-! ## Another opening -/

/-- **A document takes another opening** for the body of a heading. -/
theorem exists_edit?_body {d : Document} {old new : Text} (hLines : d.lines.Unbroken)
    (h : Layout (d.lines.lineAt n) level gap (old ++ rest)) (hNew : new.Unbroken) :
    ∃ d', d.edit? [⟨.onLine n (level + gap.length) (level + gap.length + old.length), new⟩] =
        some d' ∧
      d'.lines = d.lines.set n (List.replicate level '*' ++ (gap ++ (new ++ rest))) ∧
      d'.lineEnd = d.lineEnd := by
  have hn : n < d.lines.length := lt_length_of_levelOf_pos (h.levelOf_eq ▸ h.level_pos)
  have hInside : level + gap.length + old.length ≤ (d.lines.lineAt n).length := by
    rw [h.eq]
    simp only [List.length_append, List.length_replicate]
    omega
  -- The edit leaves the stars and the gap, and the rest of the body.
  have hRest : (d.lines.lineAt n).drop (level + gap.length + old.length) = rest := by
    rw [← List.drop_drop, h.drop_front, List.drop_left]
  obtain ⟨d', hEdit, hResult, hEnd⟩ :=
    Batch.exists_edit?_onLine hLines hn (Nat.le_add_right _ _) hInside hNew
  refine ⟨d', hEdit, ?_, hEnd⟩
  rw [hResult, h.take_front, hRest]
  simp only [List.append_assoc]

end Heading

end Outliner
