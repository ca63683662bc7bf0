import Mathlib.Data.List.Infix
import Outliner.Text.Basic

/-!
# Outliner — where a text is cut

A text is cut at the first occurrence of a separator, at every occurrence of a character, or at all
its white space. What was put together with separators between the parts is taken apart again at the
same places, as long as no part brings a separator of its own.

Main results:

* `cutAt_eq_some_iff`, `cutAt_eq_none_iff` — the cut is at the first occurrence.
* `splitOn_intercalate_eq_flatMap` — the pieces of a text that is put together.
* `words_append_cons`, `words_intercalate` — the words of a text that is put together.
-/

namespace Outliner.Text

variable {t separator before after lead rest : Text} {a c : Char}

/-! ## The first occurrence of a separator -/

theorem isPrefixOf?_eq_some_iff : lead.isPrefixOf? t = some rest ↔ t = lead ++ rest := by
  induction lead generalizing t with
  | nil => simp [List.isPrefixOf?, eq_comm]
  | cons a lead ih =>
    cases t with
    | nil => simp [List.isPrefixOf?]
    | cons b t =>
      by_cases hab : a = b
      · simp [List.isPrefixOf?, hab, ih]
      · simp [List.isPrefixOf?, hab, Ne.symm hab]

theorem isPrefixOf?_eq_none_iff : lead.isPrefixOf? t = none ↔ ¬lead <+: t := by
  rw [Option.eq_none_iff_forall_ne_some]
  constructor
  · rintro h ⟨rest, hRest⟩
    exact h rest (isPrefixOf?_eq_some_iff.mpr hRest.symm)
  · intro h rest hRest
    exact h ⟨rest, (isPrefixOf?_eq_some_iff.mp hRest).symm⟩

/-- A separator that opens what is in front of its own occurrence stands there before the last of
its characters does. -/
private theorem prefix_append_dropLast (hSep : separator ≠ [])
    (h : separator <+: c :: before ++ separator ++ after) :
    separator <+: c :: before ++ separator.dropLast := by
  have hDropLast : separator.dropLast <+: separator := List.dropLast_prefix _
  have hFront : c :: before ++ separator.dropLast <+: c :: before ++ separator ++ after := by
    rw [List.append_assoc, List.prefix_append_right_inj]
    exact hDropLast.trans (List.prefix_append ..)
  refine List.prefix_of_prefix_length_le h hFront ?_
  have hPos := List.length_pos_iff.mpr hSep
  simp only [List.length_append, List.length_cons, List.length_dropLast]
  omega

/-- **A text is cut at the first occurrence** of the separator: it does not occur in what stands in
front, not even with the beginning of the separator itself. -/
theorem cutAt_eq_some_iff (hSep : separator ≠ []) :
    t.cutAt separator = some (before, after) ↔
      t = before ++ separator ++ after ∧ ¬separator <:+: before ++ separator.dropLast := by
  -- On the text: either the separator opens it, or its first character stays in front.
  induction t generalizing before with
  | nil => simp [cutAt, hSep]
  | cons c t ih =>
    rw [cutAt]
    cases hOpens : separator.isPrefixOf? (c :: t) with
    | some rest =>
      have hRest := isPrefixOf?_eq_some_iff.mp hOpens
      constructor
      · rintro h
        obtain ⟨rfl, rfl⟩ := Prod.mk.inj (Option.some.inj h)
        refine ⟨hRest, fun hInfix => ?_⟩
        have hLength := hInfix.length_le
        have hPos := List.length_pos_iff.mpr hSep
        rw [List.nil_append, List.length_dropLast] at hLength
        omega
      · rintro ⟨hText, hFirst⟩
        cases before with
        | nil =>
          have hAfter : rest = after := List.append_cancel_left (hRest.symm.trans hText)
          rw [hAfter]
        | cons b before =>
          -- It would occur in front.
          have hPrefix : separator <+: b :: before ++ separator ++ after := by
            rw [← hText, hRest]
            exact List.prefix_append ..
          exact absurd (prefix_append_dropLast hSep hPrefix).isInfix hFirst
    | none =>
      have hNot := isPrefixOf?_eq_none_iff.mp hOpens
      simp only [Option.map_eq_some_iff, Prod.exists]
      constructor
      · rintro ⟨b, a, hCut, hEq⟩
        obtain ⟨rfl, rfl⟩ := Prod.mk.inj hEq
        obtain ⟨rfl, hFirst⟩ := ih.mp hCut
        refine ⟨rfl, fun hInfix => ?_⟩
        rw [List.cons_append, List.infix_cons_iff] at hInfix
        rcases hInfix with hPrefix | hInfix
        · refine hNot (hPrefix.trans ?_)
          rw [← List.cons_append, List.append_assoc b, ← List.cons_append,
            List.prefix_append_right_inj]
          exact (List.dropLast_prefix _).trans (List.prefix_append ..)
        · exact hFirst hInfix
      · rintro ⟨hText, hFirst⟩
        cases before with
        | nil =>
          rw [hText] at hNot
          exact absurd (List.prefix_append ..) hNot
        | cons b before =>
          obtain ⟨rfl, rfl⟩ := List.cons.inj hText
          refine ⟨before, after, ih.mpr ⟨rfl, fun hInfix => hFirst ?_⟩, rfl⟩
          rw [List.cons_append, List.infix_cons_iff]
          exact Or.inr hInfix

/-- A text is not cut exactly if the separator does not occur in it. -/
theorem cutAt_eq_none_iff (hSep : separator ≠ []) :
    t.cutAt separator = none ↔ ¬separator <:+: t := by
  induction t with
  | nil => simp [cutAt, hSep]
  | cons c t ih =>
    rw [cutAt, List.infix_cons_iff, not_or, ← ih, ← isPrefixOf?_eq_none_iff]
    cases separator.isPrefixOf? (c :: t) with
    | some rest => simp
    | none => simp

/-- The first occurrence of a character is behind text without it. -/
theorem cutAt_singleton_eq_some_iff :
    t.cutAt [c] = some (before, after) ↔ t = before ++ c :: after ∧ c ∉ before := by
  rw [cutAt_eq_some_iff (List.cons_ne_nil c []), List.append_assoc, List.singleton_append,
    List.dropLast_singleton, List.append_nil, List.singleton_infix_iff]

theorem cutAt_singleton_eq_none_iff : t.cutAt [c] = none ↔ c ∉ t := by
  rw [cutAt_eq_none_iff (List.cons_ne_nil c []), List.singleton_infix_iff]

/-! ## Pieces -/

/-- Texts with separators in between are cut at these, and at those that they bring themselves. -/
theorem splitOn_intercalate_eq_flatMap (c : Char) {ts : List Text} (h : ts ≠ []) :
    (List.intercalate [c] ts).splitOn c = ts.flatMap (List.splitOn c) := by
  induction ts with
  | nil => contradiction
  | cons t ts ih =>
    cases ts with
    | nil => rw [List.intercalate_singleton, List.flatMap_singleton]
    | cons t' ts =>
      rw [List.intercalate_cons_cons, List.append_assoc, List.singleton_append,
        List.splitOn_append_cons_self, ih (List.cons_ne_nil _ _), ← List.flatMap_cons]

/-- A character in front of a text that is no separator belongs to the first piece. -/
theorem exists_splitOn_cons (h : a ≠ c) (t : Text) :
    ∃ first others, t.splitOn c = first :: others ∧
      (a :: t).splitOn c = (a :: first) :: others := by
  obtain ⟨first, others, hPieces⟩ := List.exists_cons_of_ne_nil (List.splitOn_ne_nil c t)
  refine ⟨first, others, hPieces, ?_⟩
  rw [List.splitOn_cons_eq_if_modifyHead, if_neg (by simpa using h), hPieces, List.modifyHead_cons]

/-- A character behind a text that is no separator belongs to the last piece. -/
theorem exists_splitOn_concat (h : a ≠ c) (t : Text) :
    ∃ others last, t.splitOn c = others ++ [last] ∧
      (t ++ [a]).splitOn c = others ++ [last ++ [a]] := by
  induction t with
  | nil => exact ⟨[], [], rfl, List.splitOn_eq_singleton (by simpa using h.symm)⟩
  | cons b t ih =>
    obtain ⟨others, last, hPieces, hLonger⟩ := ih
    rw [List.cons_append, List.splitOn_cons_eq_if_modifyHead, List.splitOn_cons_eq_if_modifyHead,
      hPieces, hLonger]
    split
    · exact ⟨[] :: others, last, rfl, rfl⟩
    · -- What comes first in a piece that is the only one comes first in the last.
      cases others with
      | nil => exact ⟨[], b :: last, rfl, rfl⟩
      | cons first others => exact ⟨(b :: first) :: others, last, rfl, rfl⟩

/-- The pieces of a text hold characters of it, and none that it was cut at. -/
theorem mem_and_eq_false_of_mem_splitOnP {f : Char → Bool} {piece : Text}
    (h : piece ∈ t.splitOnP f) (hc : c ∈ piece) : c ∈ t ∧ f c = false := by
  -- On the text: its first character either ends an empty piece, or opens the first one.
  induction t generalizing piece with
  | nil =>
    rw [List.splitOnP_nil, List.mem_singleton] at h
    rw [h] at hc
    contradiction
  | cons a t ih =>
    rw [List.splitOnP_cons_eq_if_modifyHead] at h
    split at h
    · rcases List.mem_cons.mp h with rfl | h
      · contradiction
      · exact (ih h hc).imp_left (List.mem_cons_of_mem a)
    · next ha =>
      obtain ⟨first, rest, hFirst⟩ := List.exists_cons_of_ne_nil (List.splitOnP_ne_nil f t)
      rw [hFirst, List.modifyHead_cons] at h
      rw [hFirst] at ih
      rcases List.mem_cons.mp h with rfl | h
      · rcases List.mem_cons.mp hc with rfl | hc
        · exact ⟨List.mem_cons_self .., by simpa using ha⟩
        · exact (ih (List.mem_cons_self ..) hc).imp_left (List.mem_cons_of_mem a)
      · exact (ih (List.mem_cons_of_mem _ h) hc).imp_left (List.mem_cons_of_mem a)

/-! ## Words -/

/-- A word is not empty, and holds characters of the text that are not blank. -/
theorem spec_of_mem_words {word : Text} (h : word ∈ t.words) :
    word ≠ [] ∧ ∀ c ∈ word, c ∈ t ∧ isBlank c = false := by
  obtain ⟨hPiece, hNonempty⟩ := List.mem_filter.mp h
  exact ⟨by simpa using hNonempty, fun c hc => mem_and_eq_false_of_mem_splitOnP hPiece hc⟩

/-- White space ends the words in front of it. -/
theorem words_append_cons (hc : isBlank c = true) (s t : Text) :
    words (s ++ c :: t) = words s ++ words t := by
  rw [words, List.splitOnP_append_cons s t hc, List.filter_append]
  rfl

theorem words_cons (hc : isBlank c = true) (t : Text) : words (c :: t) = words t :=
  words_append_cons hc [] t

/-- A text without white space is one word, or none when it is empty. -/
theorem words_of_solid (h : ∀ c ∈ t, isBlank c = false) :
    words t = [t].filter (!·.isEmpty) := by
  rw [words, List.splitOnP_eq_singleton h]

theorem mem_intercalate {separator : Text} {ts : List Text}
    (h : c ∈ List.intercalate separator ts) : c ∈ separator ∨ ∃ t ∈ ts, c ∈ t := by
  induction ts with
  | nil => simp at h
  | cons t ts ih =>
    cases ts with
    | nil =>
      rw [List.intercalate_singleton] at h
      exact Or.inr ⟨t, List.mem_cons_self .., h⟩
    | cons t' ts =>
      rw [List.intercalate_cons_cons, List.append_assoc, List.mem_append, List.mem_append] at h
      rcases h with h | h | h
      · exact Or.inr ⟨t, List.mem_cons_self .., h⟩
      · exact Or.inl h
      · rcases ih h with h | ⟨s, hs, h⟩
        · exact Or.inl h
        · exact Or.inr ⟨s, List.mem_cons_of_mem _ hs, h⟩

/-- **Texts without white space, written with spaces between them**, are the words again, except
that those that are empty are lost. -/
theorem words_intercalate {ts : List Text} (h : ∀ t ∈ ts, ∀ c ∈ t, isBlank c = false) :
    words (List.intercalate [' '] ts) = ts.filter (!·.isEmpty) := by
  induction ts with
  | nil => rfl
  | cons t ts ih =>
    obtain ⟨ht, hts⟩ := List.forall_mem_cons.mp h
    cases ts with
    | nil => rw [List.intercalate_singleton, words_of_solid ht]
    | cons t' ts =>
      rw [List.intercalate_cons_cons, List.append_assoc, List.singleton_append,
        words_append_cons (by decide), words_of_solid ht, ih hts, ← List.filter_append,
        List.singleton_append]

end Outliner.Text
