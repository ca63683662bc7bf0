import Outliner.Proofs.Heading.Layout
import Outliner.Proofs.Text.Cut

/-!
# Outliner — a heading that is written and read again

A heading is written with one space between its parts. The keyword and the cookie are found again
from the left, the tags from the right, and the title is what is left between them; so each part is
read back as it was, unless the text of another part looks like it. Where a part is absent, those
that are there must not be taken for it.

* `Heading.Tag`, `Text.lastWord` — the words of a group, and where a group is looked for.
* `Heading.Regular` — the parts are what they can be, and the title does not look like a part that
  is absent.
* `Heading.Canonical` — no keyword is read off the other parts, either.

Main results:

* `tagsOf?_eq_some_iff` — a group is read exactly from its writing.
* `Regular.parse?_render_eq_iff` — when a regular heading is read back.
* `canonical_round_trip` — canonical headings and canonical lines.
-/

namespace Outliner

namespace Text

variable {t w : Text} {c : Char}

/-! ## Words from the right -/

/-- The last word of a text, as spaces and tabs divide it. -/
def lastWord (t : Text) : Text :=
  (t.reverse.takeWhile (!isSpaceOrTab ·)).reverse

/-- The text in front of the last word, without the space or the tab before it. -/
def beforeLastWord (t : Text) : Text :=
  ((t.reverse.dropWhile (!isSpaceOrTab ·)).drop 1).reverse

theorem lastWord_append_cons (hc : isSpaceOrTab c = true) (hw : ∀ a ∈ w, isSpaceOrTab a = false)
    (t : Text) : lastWord (t ++ c :: w) = w ∧ beforeLastWord (t ++ c :: w) = t := by
  have hSolid : ∀ a ∈ w.reverse, (!isSpaceOrTab a) = true := fun a ha => by
    rw [hw a (List.mem_reverse.mp ha)]
    rfl
  -- From the right the word comes first, and the space or the tab ends it.
  have hReverse : (t ++ c :: w).reverse = w.reverse ++ c :: t.reverse := by simp
  unfold lastWord beforeLastWord
  rw [hReverse, List.takeWhile_append_of_pos hSolid, List.dropWhile_append_of_pos hSolid]
  simp [hc]

/-- A text of one word has nothing in front of it. -/
theorem lastWord_of_solid (hw : ∀ a ∈ w, isSpaceOrTab a = false) :
    lastWord w = w ∧ beforeLastWord w = [] := by
  have hSolid : ∀ a ∈ w.reverse, (!isSpaceOrTab a) = true := fun a ha => by
    rw [hw a (List.mem_reverse.mp ha)]
    rfl
  unfold lastWord beforeLastWord
  rw [List.takeWhile_eq_self_iff.mpr hSolid, List.dropWhile_eq_nil_iff.mpr hSolid]
  simp

theorem beforeLastWord_prefix (t : Text) : t.beforeLastWord <+: t := by
  unfold beforeLastWord
  rw [← List.reverse_suffix, List.reverse_reverse]
  exact (List.drop_suffix ..).trans (List.dropWhile_suffix _)

/-- The first of some texts with a space between them, then the rest behind a gap. -/
theorem exists_gap (t : Text) (ts : List Text) :
    ∃ gap, List.intercalate [' '] (t :: ts) = t ++ (gap ++ List.intercalate [' '] ts) ∧
      (∀ c ∈ gap, isSpaceOrTab c = true) ∧ (gap = [] → List.intercalate [' '] ts = []) := by
  cases ts with
  | nil => exact ⟨[], by simp, by simp, fun _ => rfl⟩
  | cons s ts =>
    refine ⟨[' '], ?_, by simp [isSpaceOrTab], by simp⟩
    rw [List.intercalate_cons_cons, List.append_assoc]

end Text

namespace Heading

variable {keywords : Keywords} {heading : Heading} {t title word : Text} {tags : List Text}

/-! ## Tags -/

/-- A tag: a word of tag characters. -/
structure Tag (tag : Text) : Prop where
  ne_nil : tag ≠ []
  chars : ∀ c ∈ tag, isTagChar c = true

/-- A group is read exactly from the writing of its tags. -/
theorem tagsOf?_eq_some_iff :
    tagsOf? word = some tags ↔ word = renderTags tags ∧ tags ≠ [] ∧ ∀ tag ∈ tags, Tag tag := by
  have hTag : ∀ tag : Text, (!tag.isEmpty && tag.all isTagChar) = true ↔ Tag tag := by
    intro tag
    simp only [Bool.and_eq_true, Bool.not_eq_true', List.isEmpty_eq_false_iff, List.all_eq_true]
    exact ⟨fun h => ⟨h.1, h.2⟩, fun h => ⟨h.1, h.2⟩⟩
  constructor
  · intro h
    unfold tagsOf? at h
    split at h
    · next t =>
      dsimp only at h
      split at h
      · next hGroup =>
        injection h with h
        subst h
        refine ⟨?_, List.splitOn_ne_nil _ _, fun tag hMem => ?_⟩
        · -- What is cut at its colons and joined by colons is what it was.
          rw [renderTags, List.intercalate_splitOn, List.cons_append,
            List.dropLast_append_getLast? _ hGroup.1]
        · exact (hTag tag).mp (List.all_eq_true.mp hGroup.2 tag hMem)
      · contradiction
    · contradiction
  · rintro ⟨rfl, hNonempty, hTags⟩
    -- No tag holds the colon that separates it from the next one.
    have hColon : ∀ tag ∈ tags, ':' ∉ tag := fun tag hMem hc =>
      absurd ((hTags tag hMem).chars ':' hc) (by decide)
    have hSplit := List.splitOn_intercalate ':' hColon hNonempty
    have hGroup : tags.all fun tag => !tag.isEmpty && tag.all isTagChar :=
      List.all_eq_true.mpr fun tag hMem => (hTag tag).mpr (hTags tag hMem)
    unfold tagsOf? renderTags
    simp only [List.cons_append, List.dropLast_concat, hSplit]
    exact if_pos ⟨List.getLast?_concat, hGroup⟩

/-- No space and no tab stands in a group. -/
theorem isSpaceOrTab_of_mem_renderTags (hTags : ∀ tag ∈ tags, Tag tag) :
    ∀ c ∈ renderTags tags, Text.isSpaceOrTab c = false := by
  have hColon : Text.isSpaceOrTab ':' = false := by decide
  intro c hc
  unfold renderTags at hc
  rw [List.mem_append, List.mem_cons, List.mem_singleton] at hc
  rcases hc with (rfl | hc) | rfl
  · exact hColon
  · -- Between the colons at the ends are the tags, and the colons that separate them.
    rcases Text.mem_intercalate hc with hc | ⟨tag, hMem, hc⟩
    · rw [List.mem_singleton.mp hc]
      exact hColon
    · exact Text.isSpaceOrTab_eq_false ((hTags tag hMem).chars c hc) (by decide) (by decide)
  · exact hColon

theorem trimEnd_append_renderTags (t : Text) (tags : List Text) :
    Text.trimEnd (t ++ renderTags tags) = t ++ renderTags tags := by
  unfold renderTags
  rw [← List.append_assoc]
  exact Text.trimEnd_concat (by decide) _

/-- Tags are looked for in the last word of the trimmed text. -/
theorem takeTags_eq (t : Text) :
    takeTags t = match tagsOf? (Text.lastWord t.trimEnd) with
      | some tags => (Text.trimEnd (Text.beforeLastWord t.trimEnd), tags)
      | none => (t.trimEnd, []) :=
  rfl

/-- **A group at the end** is found, and the title is what stands in front of it. -/
theorem takeTags_append_renderTags (hNonempty : tags ≠ []) (hTags : ∀ tag ∈ tags, Tag tag)
    (title : Text) : takeTags (title ++ ' ' :: renderTags tags) = (title.trimEnd, tags) := by
  have hSpace : Text.isSpaceOrTab ' ' = true := by decide
  obtain ⟨hLast, hFront⟩ :=
    Text.lastWord_append_cons hSpace (isSpaceOrTab_of_mem_renderTags hTags) title
  have hTrim := trimEnd_append_renderTags (title ++ [' ']) tags
  rw [List.append_assoc, List.singleton_append] at hTrim
  have hGroup := tagsOf?_eq_some_iff.mpr ⟨rfl, hNonempty, hTags⟩
  rw [takeTags_eq, hTrim, hLast, hGroup, hFront]

theorem takeTags_renderTags (hNonempty : tags ≠ []) (hTags : ∀ tag ∈ tags, Tag tag) :
    takeTags (renderTags tags) = ([], tags) := by
  obtain ⟨hLast, hFront⟩ := Text.lastWord_of_solid (isSpaceOrTab_of_mem_renderTags hTags)
  have hTrim : Text.trimEnd (renderTags tags) = renderTags tags :=
    trimEnd_append_renderTags [] tags
  have hGroup := tagsOf?_eq_some_iff.mpr ⟨rfl, hNonempty, hTags⟩
  rw [takeTags_eq, hTrim, hLast, hGroup, hFront]
  rfl

theorem takeTags_of_no_group (hTrim : title.trimEnd = title)
    (hGroup : tagsOf? title.lastWord = none) : takeTags title = (title, []) := by
  rw [takeTags_eq, hTrim, hGroup]

/-! ## Cookies -/

/-- A cookie is read, and the gap behind it is dropped. -/
theorem takePriority_cookie {c : Char} {gap : Text} (hc : c.isAlphanum = true)
    (hGap : ∀ c ∈ gap, Text.isSpaceOrTab c = true) (ht : t.indent = 0) :
    takePriority (['[', '#', c, ']'] ++ (gap ++ t)) = (some c, t) := by
  show (if c.isAlphanum then (some c, Text.dropIndent (gap ++ t)) else _) = _
  rw [if_pos hc, Text.dropIndent_append hGap ht]

theorem takePriority_of_no_cookie
    (h : ∀ c rest, t = '[' :: '#' :: c :: ']' :: rest → c.isAlphanum = false) :
    takePriority t = (none, t) := by
  unfold takePriority
  split
  · next c rest => simp [h c rest rfl]
  · rfl

/-- A text in front of a space opens with a cookie only if it holds the whole cookie. -/
theorem exists_of_append_eq_cookie {c : Char} {rest more : Text}
    (h : title ++ ' ' :: more = '[' :: '#' :: c :: ']' :: rest) :
    c.isAlphanum = false ∨ ∃ rest', title = '[' :: '#' :: c :: ']' :: rest' := by
  match title, h with
  | [], h => simp at h
  | [_], h => simp at h
  | [_, _], h =>
    -- The space is no letter and no digit.
    simp only [List.cons_append, List.nil_append, List.cons.injEq] at h
    obtain ⟨-, -, rfl, -⟩ := h
    exact Or.inl (by decide)
  | [_, _, _], h => simp at h
  | _ :: _ :: _ :: _ :: rest', h =>
    simp only [List.cons_append, List.cons.injEq] at h
    obtain ⟨rfl, rfl, rfl, rfl, -⟩ := h
    exact Or.inr ⟨rest', rfl⟩

/-! ## The parts in writing -/

/-- The title and the tags, as far as they are there, in writing. -/
def titleParts (h : Heading) : List Text :=
  (if h.title.isEmpty then [] else [h.title])
    ++ (if h.tags.isEmpty then [] else [renderTags h.tags])

/-- The parts behind the keyword, in writing. -/
def laterParts (h : Heading) : List Text :=
  (h.priority.map fun c => ['[', '#', c, ']']).toList ++ h.titleParts

/-- What is written behind the stars and the space after them. -/
def written (h : Heading) : Text :=
  List.intercalate [' '] h.parts

theorem parts_eq (h : Heading) : h.parts = h.keyword.toList ++ h.laterParts := by
  simp only [parts, laterParts, titleParts, List.append_assoc]

/-- What is written of a title and of tags: nothing, one of them, or both with a space between. -/
theorem intercalate_titleParts (h : Heading) :
    (h.title = [] ∧ h.tags = [] ∧ List.intercalate [' '] h.titleParts = []) ∨
      (h.tags = [] ∧ h.title ≠ [] ∧ List.intercalate [' '] h.titleParts = h.title) ∨
      (h.title = [] ∧ h.tags ≠ [] ∧ List.intercalate [' '] h.titleParts = renderTags h.tags) ∨
      (h.title ≠ [] ∧ h.tags ≠ [] ∧
        List.intercalate [' '] h.titleParts = h.title ++ ' ' :: renderTags h.tags) := by
  unfold titleParts
  by_cases hTitle : h.title = []
  · by_cases hTags : h.tags = []
    · simp [hTitle, hTags]
    · simp [hTitle, hTags]
  · by_cases hTags : h.tags = []
    · simp [hTitle, hTags]
    · simp [hTitle, hTags, List.intercalate_cons_cons]

/-- The parts of a heading are what they can be, and where a priority or tags are absent, the title
does not look like them. -/
structure Regular (keywords : Keywords) (h : Heading) : Prop where
  level_pos : 0 < h.level
  keyword : ∀ word, h.keyword = some word →
    word ∈ keywords.all ∧ word ≠ [] ∧ ∀ c ∈ word, Text.isBlank c = false
  priority : ∀ c, h.priority = some c → c.isAlphanum = true
  indent_title : Text.indent h.title = 0
  trimEnd_title : Text.trimEnd h.title = h.title
  tags : ∀ tag ∈ h.tags, Tag tag
  no_cookie : h.priority = none →
    ∀ c rest, h.title = '[' :: '#' :: c :: ']' :: rest → c.isAlphanum = false
  no_group : h.tags = [] → tagsOf? (Text.lastWord h.title) = none

/-- The title and the tags are read from the right. -/
theorem Regular.takeTags_eq (h : Regular keywords heading) :
    takeTags (List.intercalate [' '] heading.titleParts) = (heading.title, heading.tags) := by
  rcases intercalate_titleParts heading with ⟨hTitle, hTags, hText⟩ | ⟨hTags, -, hText⟩ |
    ⟨hTitle, hTags, hText⟩ | ⟨-, hTags, hText⟩
  · rw [hText, hTitle, hTags]
    rfl
  · rw [hText, hTags]
    exact takeTags_of_no_group h.trimEnd_title (h.no_group hTags)
  · rw [hText, hTitle]
    exact takeTags_renderTags hTags h.tags
  · rw [hText, takeTags_append_renderTags hTags h.tags, h.trimEnd_title]

theorem Regular.indent_titleParts (h : Regular keywords heading) :
    Text.indent (List.intercalate [' '] heading.titleParts) = 0 := by
  rcases intercalate_titleParts heading with ⟨-, -, hText⟩ | ⟨-, -, hText⟩ | ⟨-, -, hText⟩ |
    ⟨hTitle, -, hText⟩
  · rw [hText]
    rfl
  · rw [hText]
    exact h.indent_title
  · rw [hText]
    rfl
  · rw [hText]
    exact Text.indent_append_eq_zero hTitle h.indent_title _

/-- A priority that is absent is not read off the title and the tags, either. -/
theorem Regular.takePriority_titleParts (h : Regular keywords heading)
    (hNone : heading.priority = none) :
    takePriority (List.intercalate [' '] heading.titleParts) =
      (none, List.intercalate [' '] heading.titleParts) := by
  apply takePriority_of_no_cookie
  intro c rest hCookie
  rcases intercalate_titleParts heading with ⟨-, -, hText⟩ | ⟨-, -, hText⟩ | ⟨-, -, hText⟩ |
    ⟨-, -, hText⟩
  · rw [hText] at hCookie
    contradiction
  · rw [hText] at hCookie
    exact h.no_cookie hNone c rest hCookie
  · -- A group opens with a colon.
    rw [hText] at hCookie
    injection hCookie with hColon
    exact absurd hColon (by decide)
  · rw [hText] at hCookie
    rcases exists_of_append_eq_cookie hCookie with hc | ⟨rest', hTitle⟩
    · exact hc
    · exact h.no_cookie hNone c rest' hTitle

/-- The priority is read in front of the title and the tags. -/
theorem Regular.takePriority_laterParts (h : Regular keywords heading) :
    takePriority (List.intercalate [' '] heading.laterParts) =
      (heading.priority, List.intercalate [' '] heading.titleParts) := by
  unfold laterParts
  cases hPriority : heading.priority with
  | none => exact h.takePriority_titleParts hPriority
  | some c =>
    obtain ⟨gap, hGap, hBlank, -⟩ := Text.exists_gap ['[', '#', c, ']'] heading.titleParts
    rw [Option.map_some, Option.toList_some, List.singleton_append, hGap]
    exact takePriority_cookie (h.priority c hPriority) hBlank h.indent_titleParts

theorem Regular.indent_laterParts (h : Regular keywords heading) :
    Text.indent (List.intercalate [' '] heading.laterParts) = 0 := by
  unfold laterParts
  cases heading.priority with
  | none => exact h.indent_titleParts
  | some c =>
    obtain ⟨gap, hGap, -⟩ := Text.exists_gap ['[', '#', c, ']'] heading.titleParts
    rw [Option.map_some, Option.toList_some, List.singleton_append, hGap]
    rfl

/-- A keyword is read in front of the later parts. -/
theorem Regular.opens_written (h : Regular keywords heading) (hWord : heading.keyword = some word) :
    ∃ gap, Opens keywords heading.written word gap (List.intercalate [' '] heading.laterParts) := by
  obtain ⟨hMem, hNonempty, hSolid⟩ := h.keyword word hWord
  obtain ⟨gap, hGap, hBlank, hRest⟩ := Text.exists_gap word heading.laterParts
  refine ⟨gap, ?_, hMem, hNonempty, hSolid, hBlank, hRest, h.indent_laterParts⟩
  rw [written, parts_eq, hWord, Option.toList_some, List.singleton_append, hGap]

theorem Regular.indent_written (h : Regular keywords heading) :
    Text.indent heading.written = 0 := by
  cases hWord : heading.keyword with
  | none =>
    rw [written, parts_eq, hWord]
    exact h.indent_laterParts
  | some word =>
    obtain ⟨gap, hOpens⟩ := h.opens_written hWord
    rw [hOpens.eq]
    exact Text.indent_append_eq_zero_of_solid hOpens.word_ne_nil hOpens.word_solid _

theorem Regular.layout_render (h : Regular keywords heading) :
    Layout heading.render heading.level [' '] heading.written where
  eq := by
    rw [render, Nat.max_eq_left h.level_pos]
    rfl
  level_pos := h.level_pos
  gap_ne_nil := by simp
  gap_blank := by simp [Text.isSpaceOrTab]
  indent_body := h.indent_written

/-- **A regular heading is read back** exactly if it has a keyword, or no keyword opens its writing
behind the stars. -/
theorem Regular.parse?_render_eq_iff (h : Regular keywords heading) :
    parse? keywords heading.render = some heading ↔
      (heading.keyword = none →
        ¬∃ word gap rest, Opens keywords heading.written word gap rest) := by
  rw [h.layout_render.parse?_eq, Option.some.injEq]
  constructor
  · -- A heading without a keyword is read back only if no keyword is read.
    intro hSame hNone
    rw [← takeKeyword_eq_none_iff]
    apply takeKeyword_eq_of_fst_eq_none
    rw [← hNone]
    exact congrArg Heading.keyword hSame
  · intro hNone
    have hKeyword : takeKeyword keywords heading.written =
        (heading.keyword, List.intercalate [' '] heading.laterParts) := by
      cases hWord : heading.keyword with
      | none =>
        have hWritten : heading.written = List.intercalate [' '] heading.laterParts := by
          rw [written, parts_eq, hWord]
          rfl
        rw [← hWritten]
        exact takeKeyword_eq_none_iff.mpr (hNone hWord)
      | some word =>
        obtain ⟨gap, hOpens⟩ := h.opens_written hWord
        exact hOpens.takeKeyword_eq
    -- The parts are read one after the other.
    simp only [ofBody, hKeyword, h.takePriority_laterParts, h.takeTags_eq]

/-! ## Canonical headings -/

/-- A regular heading whose other parts do not open with a keyword where it has none. -/
structure Canonical (keywords : Keywords) (h : Heading) : Prop extends Regular keywords h where
  no_keyword : h.keyword = none → (Text.firstWord h.written).1 ≠ [] →
    (Text.firstWord h.written).1 ∉ keywords.all

/-- **Canonical headings are read back from their lines**, and so canonical lines are written again
as they were. -/
theorem canonical_round_trip (hCanonical : Canonical keywords heading) :
    parse? keywords heading.render = some heading ∧
      (parse? keywords heading.render).map render = some heading.render := by
  have hRead : parse? keywords heading.render = some heading := by
    rw [hCanonical.parse?_render_eq_iff]
    rintro hNone ⟨word, gap, rest, hOpens⟩
    have hAbsent := hCanonical.no_keyword hNone
    rw [hOpens.firstWord_eq] at hAbsent
    exact hAbsent hOpens.word_ne_nil hOpens.word_mem
  refine ⟨hRead, ?_⟩
  rw [hRead]
  rfl

theorem canonical_round_trip_meeting :
    let h : Heading := { level := 2, title := "Meeting :room: at 10:30".toList }
    parse? .standard h.render = some h ∧ (parse? .standard h.render).map render = some h.render :=
  canonical_round_trip
    { level_pos := by decide
      keyword := by simp
      priority := by simp
      indent_title := by decide
      trimEnd_title := by decide
      tags := by simp
      no_cookie := by simp
      no_group := by decide
      no_keyword := by decide }

end Heading

end Outliner
