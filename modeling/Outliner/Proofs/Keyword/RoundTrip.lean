import Mathlib.Data.List.TakeWhile
import Outliner.Proofs.Keyword

/-!
# Outliner — a keyword sequence that is written and read again

The words of a sequence are written with a space between them, and the two sides with a bar. A word
that was read holds no white space and no opening parenthesis, and what stands before the bar holds
no other bar; so the words are read back as they are. The exception is a word that was nothing but a
shortcut key: what is left of it is empty, which does not show in writing.

* `Keywords.Plain` — what the keywords of every sequence are like.
* `Keywords.withoutEmpty` — the keywords that show in writing.

Main results:

* `Plain.parse_render` — what is read from the writing of plain keywords.
* `parse_render_iff` — when the keywords of a sequence are read back.
-/

namespace Outliner.Keywords

variable {k : Keywords} {word sequence : Text} {words : List Text}

/-! ## What is read -/

/-- The keywords can be written and taken apart again, but for words that are empty. -/
structure Plain (k : Keywords) : Prop where
  solid : ∀ word ∈ k.all, ∀ c ∈ word, Text.isBlank c = false
  no_shortcut : ∀ word ∈ k.all, '(' ∉ word
  /-- A later bar is a word or a part of one. -/
  no_bar : ∀ word ∈ k.active, '|' ∉ word

theorem notMem_dropShortcut (word : Text) : '(' ∉ dropShortcut word := by
  intro hc
  have hKept := List.mem_takeWhile_imp hc
  contradiction

/-- The states that a side lists hold characters of that side. -/
theorem mem_of_mem_states {side : Text} {c : Char} (h : word ∈ states side) (hc : c ∈ word) :
    c ∈ side := by
  obtain ⟨whole, hWhole, rfl⟩ := List.mem_map.mp h
  exact ((Text.spec_of_mem_words hWhole).2 c ((List.takeWhile_sublist _).subset hc)).1

/-- The keywords of a sequence are plain. -/
theorem plain_of_parse (h : parse sequence = .ok k) : Plain k where
  solid := solid_of_parse h
  no_shortcut word hWord := by
    rw [(all_of_parse h).1] at hWord
    obtain ⟨whole, -, rfl⟩ := List.mem_map.mp hWord
    exact notMem_dropShortcut whole
  no_bar word hWord hBar := by
    cases hCut : sequence.cutAt ['|'] with
    | some sides =>
      -- The sequence was cut at its first bar.
      obtain ⟨active, done⟩ := sides
      rw [parse, hCut] at h
      dsimp only at h
      split at h
      · contradiction
      · injection h with h
        subst h
        have hFirst := (Text.cutAt_singleton_eq_some_iff.mp hCut).2
        exact hFirst (mem_of_mem_states hWord hBar)
    | none =>
      rw [parse, hCut] at h
      dsimp only at h
      split at h
      · injection h with h
        subst h
        have hNone := Text.cutAt_singleton_eq_none_iff.mp hCut
        exact hNone (mem_of_mem_states ((List.dropLast_sublist _).subset hWord) hBar)
      · contradiction

/-! ## What is written -/

/-- The keywords that show in writing. -/
def withoutEmpty (k : Keywords) : Keywords :=
  ⟨k.active.filter (!·.isEmpty), k.done.filter (!·.isEmpty)⟩

theorem withoutEmpty_eq_self_iff : k.withoutEmpty = k ↔ [] ∉ k.all := by
  obtain ⟨active, done⟩ := k
  have hSide : ∀ words : List Text, words.filter (!·.isEmpty) = words ↔ [] ∉ words := by
    intro words
    rw [List.filter_eq_self]
    constructor
    · intro hAll hNil
      exact absurd (hAll [] hNil) (by decide)
    · intro hNil word hWord
      rw [Bool.not_eq_true', List.isEmpty_eq_false_iff]
      exact fun hEmpty => hNil (hEmpty ▸ hWord)
  rw [withoutEmpty, Keywords.mk.injEq, hSide, hSide, all, List.mem_append, not_or]

/-- The words of a side in writing, with a space in front or behind, are its states. -/
theorem states_intercalate (hSolid : ∀ word ∈ words, ∀ c ∈ word, Text.isBlank c = false)
    (hShortcut : ∀ word ∈ words, '(' ∉ word) :
    states (List.intercalate [' '] words ++ [' ']) = words.filter (!·.isEmpty) ∧
      states (' ' :: List.intercalate [' '] words) = words.filter (!·.isEmpty) := by
  have hKept : ∀ word ∈ words.filter (!·.isEmpty), dropShortcut word = word := by
    intro word hWord
    have hNone := hShortcut word (List.mem_of_mem_filter hWord)
    exact List.takeWhile_eq_self_iff.mpr fun c hc => bne_iff_ne.mpr fun hEq => hNone (hEq ▸ hc)
  have hWords := Text.words_intercalate hSolid
  have hBlank : Text.isBlank ' ' = true := by decide
  have hEnd : Text.words (List.intercalate [' '] words ++ [' ']) = words.filter (!·.isEmpty) := by
    rw [Text.words_append_cons hBlank, hWords]
    exact List.append_nil _
  have hStart : Text.words (' ' :: List.intercalate [' '] words) =
      words.filter (!·.isEmpty) := by
    rw [Text.words_cons hBlank, hWords]
  constructor
  · rw [states, hEnd, List.map_congr_left hKept, List.map_id']
  · rw [states, hStart, List.map_congr_left hKept, List.map_id']

/-- **The writing of plain keywords** is read as those of them that are not empty. -/
theorem Plain.parse_render (h : Plain k) :
    parse k.render =
      if k.withoutEmpty.all.isEmpty then .error .emptyKeywordSequence else .ok k.withoutEmpty := by
  obtain ⟨hSolidActive, hSolidDone⟩ := List.forall_mem_append.mp h.solid
  obtain ⟨hOpenActive, hOpenDone⟩ := List.forall_mem_append.mp h.no_shortcut
  -- The bar that is written is the first one.
  have hCut : k.render.cutAt ['|'] =
      some (List.intercalate [' '] k.active ++ [' '], ' ' :: List.intercalate [' '] k.done) := by
    rw [Text.cutAt_singleton_eq_some_iff]
    refine ⟨by simp [render], fun hBar => ?_⟩
    rcases List.mem_append.mp hBar with hBar | hBar
    · rcases Text.mem_intercalate hBar with hBar | ⟨word, hWord, hBar⟩
      · contradiction
      · exact h.no_bar word hWord hBar
    · contradiction
  rw [parse, hCut]
  dsimp only
  rw [(states_intercalate hSolidActive hOpenActive).1, (states_intercalate hSolidDone hOpenDone).2]
  rfl

/-- A word keeps nothing exactly if it is a shortcut key. -/
theorem nil_mem_all_iff (h : parse sequence = .ok k) :
    [] ∈ k.all ↔ ∃ word ∈ listed sequence, word.head? = some '(' := by
  rw [(all_of_parse h).1, List.mem_map]
  refine exists_congr fun word => and_congr_right fun hWord => ?_
  obtain ⟨c, rest, rfl⟩ := List.exists_cons_of_ne_nil (spec_of_mem_listed hWord).1
  rw [dropShortcut, List.takeWhile_eq_nil_iff]
  simp

/-- **The keywords of a sequence are read back** from their writing exactly if none of its words is
nothing but a shortcut key. -/
theorem parse_render_iff (h : parse sequence = .ok k) :
    parse k.render = .ok k ↔ ∀ word ∈ listed sequence, word.head? ≠ some '(' := by
  have hEmpty : (∀ word ∈ listed sequence, word.head? ≠ some '(') ↔ [] ∉ k.all := by
    rw [nil_mem_all_iff h]
    simp only [not_exists, not_and, ne_eq]
  rw [hEmpty, ← withoutEmpty_eq_self_iff, (plain_of_parse h).parse_render]
  constructor
  · intro hRead
    split at hRead
    · contradiction
    · exact Except.ok.inj hRead
  · intro hSame
    rw [hSame, if_neg]
    simpa using (all_of_parse h).2

end Outliner.Keywords
