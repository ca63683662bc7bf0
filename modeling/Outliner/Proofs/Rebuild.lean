import Outliner.Proofs.Heading.RoundTrip
import Outliner.Proofs.Keyword
import Outliner.Proofs.ListItem.RoundTrip

/-!
# Outliner — rebuilding a line

A heading or an item that was read from a line is written again with one space between its parts.
Parts are told apart by spaces and tabs, but white space of any kind is cut off at the end of a
line, and a gap is put in where a cookie had none. So a word that was no keyword, because of what
stood right behind it, can become one when the line is rebuilt, and a box a checkbox; otherwise the
rebuilt line is read as what it was built from. This module says exactly when.

* `Heading.regular_of_parse?` — what is read is regular, whatever the line.
* `Heading.exists_opens_written_iff` — when rebuilding uncovers a keyword.
* `Checkbox.not_opens_prefix_iff` — when trimming uncovers a checkbox.

Main results:

* `Heading.parse?_render_iff_of_parse?`, `ListItem.parse?_render_iff_of_parse?` — when a rebuilt
  line is read as what it was built from.
* `rebuilding_stable_iff` — both, for the keywords of any sequence.
-/

namespace Outliner

namespace Heading

variable {keywords : Keywords} {heading : Heading} {line t word part : Text}

/-! ## What is read is regular -/

/-- What is left behind a priority is not indented, and without a priority it is all there was. -/
theorem takePriority_spec (ht : t.indent = 0) :
    Text.indent (takePriority t).2 = 0 ∧
      (∀ c, (takePriority t).1 = some c → c.isAlphanum = true) ∧
      ((takePriority t).1 = none → (takePriority t).2 = t ∧
        ∀ c rest, t = '[' :: '#' :: c :: ']' :: rest → c.isAlphanum = false) := by
  unfold takePriority
  split
  · next c after =>
    split
    · next hc =>
      refine ⟨Text.indent_dropIndent after, ?_, by simp⟩
      rintro a ha
      injection ha with ha
      rwa [← ha]
    · next hc =>
      refine ⟨ht, by simp, fun _ => ⟨rfl, ?_⟩⟩
      intro a rest hCookie
      injection hCookie with _ hCookie
      injection hCookie with _ hCookie
      injection hCookie with ha _
      rw [← ha]
      simpa using hc
  · next hNone =>
    exact ⟨ht, by simp, fun _ => ⟨rfl, fun c rest hCookie => absurd hCookie (hNone c rest)⟩⟩

/-- The title is the beginning of what is read, trimmed at its end; where no tags are found, its
last word is no group. -/
theorem takeTags_spec (t : Text) :
    (takeTags t).1 <+: t ∧ Text.trimEnd (takeTags t).1 = (takeTags t).1 ∧
      (∀ tag ∈ (takeTags t).2, Tag tag) ∧
      ((takeTags t).2 = [] → tagsOf? (Text.lastWord (takeTags t).1) = none) := by
  rw [takeTags_eq]
  split
  · next tags hGroup =>
    obtain ⟨-, hNonempty, hTags⟩ := tagsOf?_eq_some_iff.mp hGroup
    refine ⟨?_, Text.trimEnd_trimEnd _, hTags, fun hNone => absurd hNone hNonempty⟩
    exact (Text.trimEnd_prefix _).trans
      ((Text.beforeLastWord_prefix _).trans (Text.trimEnd_prefix t))
  · next hNone =>
    exact ⟨Text.trimEnd_prefix t, Text.trimEnd_trimEnd t, by simp, fun _ => hNone⟩

/-- **What is read from a line is regular.** -/
theorem regular_of_parse? (hp : parse? keywords line = some heading) :
    Regular keywords heading := by
  have hLevel := levelOf_pos_of_parse? hp
  obtain ⟨gap, hLayout⟩ := exists_layout hLevel
  obtain rfl := ofBody_of_parse? hp
  have hBehind : Text.indent (takeKeyword keywords (bodyOf line)).2 = 0 :=
    indent_takeKeyword hLayout.indent_body
  obtain ⟨hIndent, hAlphanum, hCookie⟩ := takePriority_spec hBehind
  -- Each reader works on what the one before it has left.
  obtain ⟨hTitle, hTrim, hTags, hGroup⟩ :=
    takeTags_spec (takePriority (takeKeyword keywords (bodyOf line)).2).2
  refine ⟨hLevel, ?_, hAlphanum, Text.indent_eq_zero_of_prefix hTitle hIndent, hTrim, hTags, ?_,
    hGroup⟩
  · intro word hWord
    rcases takeKeyword_eq_or keywords (bodyOf line) with hNone | ⟨_, _, _, hOpens⟩
    · rw [ofBody, hNone] at hWord
      contradiction
    · rw [ofBody, hOpens.takeKeyword_eq] at hWord
      injection hWord with hWord
      subst hWord
      exact ⟨hOpens.word_mem, hOpens.word_ne_nil, hOpens.word_solid⟩
  · -- A cookie that opens the title would have opened the text that it is the beginning of.
    intro hNone c rest hOpen
    obtain ⟨hSame, hAbsent⟩ := hCookie hNone
    obtain ⟨more, hMore⟩ := hTitle
    have hOpen : (takeTags (takePriority (takeKeyword keywords (bodyOf line)).2).2).1 =
      '[' :: '#' :: c :: ']' :: rest := hOpen
    rw [hOpen, hSame] at hMore
    exact hAbsent c (rest ++ more) hMore.symm

/-! ## Rebuilding a heading -/

/-- The first part of a heading without a keyword. -/
theorem head?_laterParts (h : heading.laterParts.head? = some part) :
    (∃ c, heading.priority = some c ∧ part = ['[', '#', c, ']']) ∨
      heading.priority = none ∧ heading.title ≠ [] ∧ part = heading.title ∨
      heading.tags ≠ [] ∧ part = renderTags heading.tags := by
  unfold laterParts titleParts at h
  cases hPriority : heading.priority with
  | some c =>
    rw [hPriority] at h
    exact Or.inl ⟨c, rfl, (Option.some.inj h).symm⟩
  | none =>
    rw [hPriority] at h
    by_cases hTitle : heading.title = []
    · by_cases hTags : heading.tags = []
      · simp [hTitle, hTags] at h
      · simp only [List.isEmpty_iff, hTitle, hTags] at h
        exact Or.inr (Or.inr ⟨hTags, (Option.some.inj h).symm⟩)
    · simp only [List.isEmpty_iff, hTitle] at h
      exact Or.inr (Or.inl ⟨rfl, hTitle, (Option.some.inj h).symm⟩)

theorem ne_nil_of_head?_laterParts (h : heading.laterParts.head? = some part) : part ≠ [] := by
  rcases head?_laterParts h with ⟨c, -, rfl⟩ | ⟨-, hTitle, rfl⟩ | ⟨-, rfl⟩
  · exact List.cons_ne_nil _ _
  · exact hTitle
  · exact List.cons_ne_nil _ _

/-- Without a keyword and without a priority, a title is the beginning of the body. -/
theorem title_prefix_of_parse? (hp : parse? keywords line = some heading)
    (hKeyword : heading.keyword = none) (hPriority : heading.priority = none) :
    takeKeyword keywords (bodyOf line) = (none, bodyOf line) ∧ heading.title <+: bodyOf line := by
  obtain ⟨gap, hLayout⟩ := exists_layout (levelOf_pos_of_parse? hp)
  obtain rfl := ofBody_of_parse? hp
  have hRead := takeKeyword_eq_of_fst_eq_none hKeyword
  have hBehind : (takePriority (takeKeyword keywords (bodyOf line)).2).2 = bodyOf line := by
    rw [hRead]
    rw [ofBody, hRead] at hPriority
    exact ((takePriority_spec hLayout.indent_body).2.2 hPriority).1
  refine ⟨hRead, ?_⟩
  have hTitle : (ofBody keywords (levelOf line) (bodyOf line)).title <+:
      (takePriority (takeKeyword keywords (bodyOf line)).2).2 := (takeTags_spec _).1
  rwa [hBehind] at hTitle

/-- No space and no tab stands in a cookie. -/
theorem isSpaceOrTab_of_mem_cookie {c : Char} (hc : c.isAlphanum = true) :
    ∀ a ∈ ['[', '#', c, ']'], Text.isSpaceOrTab a = false := by
  have hSolid : Text.isSpaceOrTab c = false :=
    Text.isSpaceOrTab_eq_false hc (by decide) (by decide)
  intro a ha
  simp only [List.mem_cons, List.not_mem_nil, or_false] at ha
  rcases ha with rfl | rfl | rfl | rfl
  · decide
  · decide
  · exact hSolid
  · decide

/-- A word and a part that open one text, each in front of a gap or the end: the part opens with the
word. -/
theorem exists_eq_append_of_append_eq {after after' : Text} (h : word ++ after = part ++ after')
    (hSolid : ∀ c ∈ word, Text.isBlank c = false) (hGap : Text.atGap after = true)
    (hGap' : Text.atGap after' = true) : ∃ s, part = word ++ s ∧ Text.atGap s = true := by
  rcases List.append_eq_append_iff.mp h with ⟨s, hPart, hAfter⟩ | ⟨s, hWord, hAfter⟩
  · refine ⟨s, hPart, ?_⟩
    cases s with
    | nil => rfl
    | cons c s =>
      rw [hAfter] at hGap
      exact hGap
  · cases s with
    | nil => exact ⟨[], by simp [hWord], rfl⟩
    | cons c s =>
      -- The word would go on with the gap behind the part.
      rw [hAfter] at hGap'
      have hc : Text.isBlank c = true := Text.isBlank_of_isSpaceOrTab hGap'
      rw [hSolid c (by simp [hWord])] at hc
      contradiction

/-- A part without spaces and tabs opens with a word only if it is the word. -/
theorem eq_of_atGap {s : Text} (hPart : ∀ c ∈ word ++ s, Text.isSpaceOrTab c = false)
    (hGap : Text.atGap s = true) : word ++ s = word := by
  cases s with
  | nil => exact List.append_nil word
  | cons c s =>
    have hc : Text.isSpaceOrTab c = true := hGap
    rw [hPart c (by simp)] at hc
    contradiction

/-- **A keyword that opens the first part** of a heading read without one, in front of a gap, is the
whole part. -/
theorem first_part_eq_word {s : Text} (hp : parse? keywords line = some heading)
    (hNone : heading.keyword = none) (hHead : heading.laterParts.head? = some (word ++ s))
    (hGap : Text.atGap s = true) (hMem : word ∈ keywords.all) (hNonempty : word ≠ [])
    (hSolid : ∀ c ∈ word, Text.isBlank c = false) : word ++ s = word := by
  have hRegular := regular_of_parse? hp
  rcases head?_laterParts hHead with ⟨c, hPriority, hCookie⟩ | ⟨hPriority, -, hTitle⟩ | ⟨-, hGroup⟩
  · have hChars := isSpaceOrTab_of_mem_cookie (hRegular.priority c hPriority)
    rw [← hCookie] at hChars
    exact eq_of_atGap hChars hGap
  · obtain ⟨hRead, more, hMore⟩ := title_prefix_of_parse? hp hNone hPriority
    rw [← hTitle] at hMore
    cases s with
    | nil => exact List.append_nil word
    | cons c s =>
      -- The line that was read would have opened with the keyword, too.
      have hOpens : Opens keywords (word ++ (c :: s ++ more)) word _ _ :=
        opens_of_atGap hMem hNonempty hSolid hGap
      rw [← List.append_assoc, hMore] at hOpens
      rw [hOpens.takeKeyword_eq] at hRead
      exact absurd (congrArg Prod.fst hRead) (Option.some_ne_none word)
  · have hChars := isSpaceOrTab_of_mem_renderTags hRegular.tags
    rw [← hGroup] at hChars
    exact eq_of_atGap hChars hGap

/-- **A keyword is uncovered** by rebuilding a heading that had none exactly if the first part that
is there is a keyword as a whole. -/
theorem exists_opens_written_iff (hp : parse? keywords line = some heading)
    (hSolid : ∀ word ∈ keywords.all, ∀ c ∈ word, Text.isBlank c = false)
    (hNone : heading.keyword = none) :
    (∃ word gap rest, Opens keywords heading.written word gap rest) ↔
      ∃ part, heading.parts.head? = some part ∧ part ∈ keywords.all := by
  have hParts : heading.parts = heading.laterParts := by
    rw [parts_eq, hNone]
    rfl
  unfold written
  rw [hParts]
  cases hLater : heading.laterParts with
  | nil =>
    constructor
    · rintro ⟨word, gap, rest, hOpens⟩
      have hEmpty := hOpens.eq
      rw [List.intercalate_nil, eq_comm, List.append_eq_nil_iff] at hEmpty
      exact absurd hEmpty.1 hOpens.word_ne_nil
    · rintro ⟨part, hPart, -⟩
      contradiction
  | cons part ps =>
    have hHead : heading.laterParts.head? = some part := by
      rw [hLater]
      rfl
    obtain ⟨gap', hGap', hBlank, hRest⟩ := Text.exists_gap part ps
    have hAtGap := Text.atGap_append hBlank hRest
    rw [hGap']
    constructor
    · rintro ⟨word, gap, rest, hOpens⟩
      obtain ⟨s, rfl, hs⟩ := exists_eq_append_of_append_eq hOpens.eq.symm hOpens.word_solid
        (Text.atGap_append hOpens.gap_blank hOpens.rest_of_gap) hAtGap
      refine ⟨word ++ s, rfl, ?_⟩
      rw [first_part_eq_word hp hNone hHead hs hOpens.word_mem hOpens.word_ne_nil
        hOpens.word_solid]
      exact hOpens.word_mem
    · rintro ⟨first, hFirst, hMem⟩
      obtain rfl : part = first := Option.some.inj hFirst
      exact ⟨_, _, _, opens_of_atGap hMem (ne_nil_of_head?_laterParts hHead) (hSolid part hMem)
        hAtGap⟩

/-- **A rebuilt heading** is read as what it was built from, unless it has no keyword and its first
part is one. -/
theorem parse?_render_iff_of_parse? (hp : parse? keywords line = some heading)
    (hSolid : ∀ word ∈ keywords.all, ∀ c ∈ word, Text.isBlank c = false) :
    parse? keywords heading.render = some heading ↔
      (heading.keyword = none →
        ∀ part, heading.parts.head? = some part → part ∉ keywords.all) := by
  rw [(regular_of_parse? hp).parse?_render_eq_iff]
  apply forall_congr'
  intro hNone
  rw [exists_opens_written_iff hp hSolid hNone]
  simp only [not_exists, not_and]

end Heading

/-! ## Rebuilding an item -/

/-- What a text without a checkbox in front begins with has one in front only if it is nothing but a
box. -/
theorem Checkbox.not_opens_prefix_iff {s t : Text} (hPrefix : s <+: t) (hNone : ¬Opens t) :
    ¬Opens s ↔ ∀ mark, s = ['[', mark, ']'] → ofMark? mark = none := by
  constructor
  · intro hNot mark hBox
    rw [ofMark?_eq_none_iff]
    exact fun hMark => hNot ⟨mark, hMark, [], hBox, rfl⟩
  · rintro hBox ⟨mark, hMark, after, rfl, hGap⟩
    cases after with
    | nil => exact ofMark?_eq_none_iff.mp (hBox mark rfl) hMark
    | cons c after =>
      -- What follows the bracket decides, and it was there before.
      obtain ⟨more, rfl⟩ := hPrefix
      exact hNone ⟨mark, hMark, c :: after ++ more, rfl, hGap⟩

/-- **A rebuilt item** is read as what it was built from, unless it has no checkbox and its content
is one. -/
theorem ListItem.parse?_render_iff_of_parse? {line : Text} {item : ListItem}
    (hp : parse? line = some item) :
    parse? item.render = some item ↔
      (item.checkbox = none →
        ∀ mark, item.content = ['[', mark, ']'] → Checkbox.ofMark? mark = none) := by
  obtain ⟨lead, marker, after, h⟩ := exists_layout_of_parse? hp
  rw [(regular_of_parse? hp).parse?_render_eq_iff]
  apply forall_congr'
  intro hBox
  -- The content is all that was behind the marker, without the white space at its end.
  have hNone : (Checkbox.take (Text.dropIndent after)).1 = none := h.box.trans hBox
  have hLeft : item.content = Text.trimEnd (Text.dropIndent after) := by
    rw [← h.content, (Checkbox.take_spec (Text.indent_dropIndent after)).2 hNone]
  rw [hLeft]
  exact Checkbox.not_opens_prefix_iff (Text.trimEnd_prefix _)
    (Checkbox.fst_take_eq_none_iff.mp hNone)

/-! ## Rebuilding a line -/

/-- **Rebuilding is stable up to one exception on either side.** With the keywords of any sequence
and for every line: a heading is read back from its own line unless it has no keyword and the first
of its parts is one of the keywords, and an item unless it has no checkbox and its content is
one. -/
theorem rebuilding_stable_iff {keywords : Keywords} {sequence : Text}
    (hKeywords : Keywords.parse sequence = .ok keywords) (line : Text) :
    (∀ heading, Heading.parse? keywords line = some heading →
      (Heading.parse? keywords heading.render = some heading ↔
        (heading.keyword = none →
          ∀ part, heading.parts.head? = some part → part ∉ keywords.all))) ∧
      ∀ item, ListItem.parse? line = some item →
        (ListItem.parse? item.render = some item ↔
          (item.checkbox = none →
            ∀ mark, item.content = ['[', mark, ']'] → Checkbox.ofMark? mark = none)) :=
  ⟨fun _ hp => Heading.parse?_render_iff_of_parse? hp (Keywords.solid_of_parse hKeywords),
    fun _ hp => ListItem.parse?_render_iff_of_parse? hp⟩

/-- A heading and an item with white space of several kinds, which are read back. -/
theorem rebuilding_stable_iff_spaced :
    Heading.parse? .standard (Heading.render
        { level := 1, keyword := some "TODO".toList, title := "a\u00a0b".toList,
          tags := [['x']] }) =
      some { level := 1, keyword := some "TODO".toList, title := "a\u00a0b".toList,
             tags := [['x']] } ∧
      ListItem.parse? (ListItem.render ⟨1, .dash, some .checked, "a".toList⟩) =
        some ⟨1, .dash, some .checked, "a".toList⟩ := by
  have hKeywords : Keywords.parse "TODO | DONE".toList = .ok .standard := by decide
  constructor
  · exact ((rebuilding_stable_iff hKeywords "*  TODO\ta\u00a0b\u3000 :x:\u00a0".toList).1 _
      (by decide)).mpr (by decide)
  · exact ((rebuilding_stable_iff hKeywords " -\t[x]  a\u3000".toList).2 _
      (by decide)).mpr (by simp)

/-- White space that is no space and no tab keeps a word from being a keyword, and a box from being
a checkbox, until it is cut off. -/
theorem uncovered_by_rebuilding :
    Keywords.parse "TODO | DONE".toList = .ok .standard ∧
      Heading.parse? .standard "* TODO\u00a0".toList = some { level := 1, title := "TODO".toList } ∧
      Heading.parse? .standard (Heading.render { level := 1, title := "TODO".toList }) =
        some { level := 1, keyword := some "TODO".toList, title := [] } ∧
      ListItem.parse? "- [X]\u00a0".toList = some ⟨0, .dash, none, "[X]".toList⟩ ∧
      ListItem.parse? (ListItem.render ⟨0, .dash, none, "[X]".toList⟩) =
        some ⟨0, .dash, some .checked, []⟩ := by
  decide

end Outliner
