import Mathlib.Data.List.Basic
import Outliner.Document

/-!
# Outliner — writing what was read

A document keeps its lines without their ends, and one line end for all of them. What is read is
therefore written again as it was only if it ends its lines in one way: a line with the other end
gets the end of the document, and a carriage return behind the last line feed is dropped, since it
is taken for a part of a line end that is not there.

* `LineEnd.Throughout` — the text ends all its lines in one way, and no line end is left half.

Main results:

* `text_read_iff` — the texts that are written as they were read with a given line end.
* `text_ofText_iff` — the texts that are written as they were read.
-/

namespace Outliner

variable {e : LineEnd} {t p : Text}

/-! ## One line -/

namespace Text

theorem dropReturn_eq_self_iff : t.dropReturn = t ↔ t.getLast? ≠ some '\r' := by
  rw [dropReturn]
  split
  · next h =>
    refine iff_of_false (fun hEq => ?_) (not_not_intro h)
    -- A text with a last character is longer than without it.
    have hNonempty : t ≠ [] := by
      rintro rfl
      contradiction
    have := List.length_pos_iff.mpr hNonempty
    have := congrArg List.length hEq
    rw [List.length_dropLast] at this
    omega
  · next h => exact iff_of_true rfl h

theorem dropReturn_append_eq_self_iff : t.dropReturn ++ ['\r'] = t ↔ t.getLast? = some '\r' := by
  constructor
  · intro h
    rw [← h, List.getLast?_append, List.getLast?_singleton, Option.some_or]
  · intro h
    rw [dropReturn, if_pos h]
    exact List.dropLast_append_getLast? _ h

theorem pieces_ne_nil (t : Text) : t.pieces ≠ [] :=
  List.splitOnP_ne_nil _ t

/-- The pieces with line feeds between them are the text. -/
theorem intercalate_pieces (t : Text) : List.intercalate ['\n'] t.pieces = t :=
  List.intercalate_splitOn '\n'

/-- A text says what stands in front of its first line feed, and what behind. -/
theorem append_feed_inj {a b s t : Text} (ha : '\n' ∉ a) (hb : '\n' ∉ b) :
    a ++ '\n' :: s = b ++ '\n' :: t ↔ a = b ∧ s = t := by
  constructor
  · intro h
    have hPieces := congrArg pieces h
    simp only [pieces, List.splitOn_append_cons_self, List.splitOn_eq_singleton ha,
      List.splitOn_eq_singleton hb, List.singleton_append, List.cons.injEq] at hPieces
    obtain ⟨rfl, -⟩ := hPieces
    exact ⟨rfl, (List.cons.inj (List.append_cancel_left h)).2⟩
  · rintro ⟨rfl, rfl⟩
    rfl

end Text

/-- With the line end `e`, a line without line feeds is written as it was read when `e` is its own
end; then the rest is written as it was read, too. -/
private theorem dropReturn_append_chars_iff (e : LineEnd) (hp : '\n' ∉ p) (s t : Text) :
    p.dropReturn ++ e.chars ++ s = p ++ ['\n'] ++ t ↔
      (p.getLast? = some '\r' ↔ e = .returnFeed) ∧ s = t := by
  have hFeed : '\n' ∉ p.dropReturn := fun h => hp (Text.mem_of_mem_dropReturn h)
  cases e with
  | feed =>
    simp only [LineEnd.chars, List.append_assoc, List.singleton_append]
    rw [Text.append_feed_inj hFeed hp, Text.dropReturn_eq_self_iff]
    simp
  | returnFeed =>
    have hReturn : '\n' ∉ p.dropReturn ++ ['\r'] := by
      simp [hFeed]
    rw [show p.dropReturn ++ LineEnd.returnFeed.chars ++ s = (p.dropReturn ++ ['\r']) ++ '\n' :: s by
      simp [LineEnd.chars], List.append_assoc p, List.singleton_append,
      Text.append_feed_inj hReturn hp, Text.dropReturn_append_eq_self_iff]
    simp

/-! ## All lines -/

/-- The text has the line end `e` behind all its lines but the last, which has no carriage return at
its end. -/
structure LineEnd.Throughout (e : LineEnd) (t : Text) : Prop where
  inner : ∀ p ∈ t.pieces.dropLast, (p.getLast? = some '\r' ↔ e = .returnFeed)
  last : ∀ p ∈ t.pieces.getLast?, p.getLast? ≠ some '\r'

theorem LineEnd.throughout_iff {init : List Text} {last : Text} (h : t.pieces = init ++ [last]) :
    e.Throughout t ↔
      (∀ p ∈ init, (p.getLast? = some '\r' ↔ e = .returnFeed)) ∧ last.getLast? ≠ some '\r' := by
  constructor
  · rintro ⟨hInner, hLast⟩
    rw [h, List.dropLast_concat] at hInner
    exact ⟨hInner, hLast last (by simp [h])⟩
  · rintro ⟨hInner, hLast⟩
    refine ⟨by rwa [h, List.dropLast_concat], fun p hp => ?_⟩
    obtain rfl : last = p := by simpa [h] using hp
    exact hLast

/-- Pieces without line feeds, written as lines with the line end `e`. -/
private theorem intercalate_dropReturn_iff (e : LineEnd) {ps : List Text} (h : ∀ p ∈ ps, '\n' ∉ p) :
    List.intercalate e.chars (ps.map Text.dropReturn) = List.intercalate ['\n'] ps ↔
      (∀ p ∈ ps.dropLast, (p.getLast? = some '\r' ↔ e = .returnFeed)) ∧
        ∀ p ∈ ps.getLast?, p.getLast? ≠ some '\r' := by
  -- On the pieces; the last one has no line end behind it.
  induction ps with
  | nil => simp
  | cons p ps ih =>
    obtain ⟨hp, hps⟩ := List.forall_mem_cons.mp h
    cases ps with
    | nil => simp [Text.dropReturn_eq_self_iff]
    | cons q ps =>
      rw [List.map_cons, List.map_cons, List.intercalate_cons_cons, List.intercalate_cons_cons,
        ← List.map_cons, dropReturn_append_chars_iff e hp, ih hps, List.dropLast_cons_cons,
        List.forall_mem_cons, List.getLast?_cons_cons, and_assoc]

namespace Document

/-- A text that is read with a line end is written as it was when it has that end throughout. -/
theorem text_read_iff (e : LineEnd) (t : Text) : (read e t).text = t ↔ e.Throughout t := by
  have h := intercalate_dropReturn_iff e fun p (hp : p ∈ t.pieces) =>
    Text.feed_not_mem_of_mem_pieces hp
  rw [Text.intercalate_pieces] at h
  exact h.trans ⟨fun ⟨hInner, hLast⟩ => ⟨hInner, hLast⟩, fun ⟨hInner, hLast⟩ => ⟨hInner, hLast⟩⟩

/-- **Writing what was read.** A text is written as it was read exactly when none of its lines has a
carriage return at its end, or there are several lines and all of them have one but the last. -/
theorem text_ofText_iff (t : Text) :
    (ofText t).text = t ↔
      (∀ p ∈ t.pieces, p.getLast? ≠ some '\r') ∨
        ∃ init last, t.pieces = init ++ [last] ∧ init ≠ [] ∧
          (∀ p ∈ init, p.getLast? = some '\r') ∧ last.getLast? ≠ some '\r' := by
  obtain hNil | ⟨init, last, hPieces⟩ := List.eq_nil_or_concat' t.pieces
  · exact absurd hNil t.pieces_ne_nil
  have hShown : LineEnd.ofText t = .returnFeed ↔ ∃ p ∈ init, p.getLast? = some '\r' := by
    rw [LineEnd.ofText, hPieces, List.dropLast_concat]
    split
    · next h => simpa using h
    · next h => simpa using h
  rw [ofText, text_read_iff, LineEnd.throughout_iff hPieces, hShown, hPieces,
    List.forall_mem_append, List.forall_mem_singleton]
  constructor
  · rintro ⟨hInit, hLast⟩
    by_cases hAny : ∃ p ∈ init, p.getLast? = some '\r'
    · have hNonempty : init ≠ [] := by
        obtain ⟨p, hp, -⟩ := hAny
        exact List.ne_nil_of_mem hp
      exact Or.inr ⟨init, last, rfl, hNonempty, fun p hp => (hInit p hp).mpr hAny, hLast⟩
    · exact Or.inl ⟨fun p hp hReturn => hAny ((hInit p hp).mp hReturn), hLast⟩
  · rintro (⟨hInit, hLast⟩ | ⟨init', last', hSplit, hNonempty, hInit, hLast⟩)
    · refine ⟨fun p hp => iff_of_false (hInit p hp) ?_, hLast⟩
      rintro ⟨q, hq, hReturn⟩
      exact hInit q hq hReturn
    · obtain ⟨rfl, hSame⟩ := List.append_inj' hSplit rfl
      obtain rfl : last = last' := List.singleton_inj.mp hSame
      obtain ⟨q, hq⟩ := List.exists_mem_of_ne_nil init hNonempty
      exact ⟨fun p hp => iff_of_true (hInit p hp) ⟨q, hq, hInit q hq⟩, hLast⟩

/-- Of two line ends the one that is shown first comes behind every line. -/
example : (ofText "a\r\nb\nc".toList).text = "a\r\nb\r\nc".toList := by
  decide

end Document

end Outliner
