import Outliner.Proofs.Link

/-!
# Outliner — links written into a line

Text without an opening bracket and without a colon holds no beginning of a link: no scheme of a
bare link does without its colon. So of a line that is put together from such text and from links
in brackets, exactly these links are read, whatever their parts look like.

* `Link.Plain` — text that no link can start in.
* `Link.Segment` — a link in brackets with the plain text behind it.

Main results:

* `scan_plain_append`, `scan_render_append` — plain text is passed over, and a link is read in one.
* `ofLine_renderAll` — the links of a line that is put together.
-/

namespace Outliner

namespace Link

variable {s t front : Text} {before : Option Char} {column : Nat} {ls : List Link}

/-! ## Plain text -/

/-- No link can start in the text. -/
structure Plain (t : Text) : Prop where
  no_bracket : '[' ∉ t
  no_colon : ':' ∉ t

theorem Plain.tail {c : Char} (h : Plain (c :: t)) : Plain t where
  no_bracket hc := h.no_bracket (List.mem_cons_of_mem c hc)
  no_colon hc := h.no_colon (List.mem_cons_of_mem c hc)

theorem marks_of_mem_bareSchemes :
    ∀ p ∈ bareSchemes, ':' ∈ p.1 ∧ '[' ∉ p.1 := by
  decide

/-- No scheme opens plain text, also with a bracket behind it. -/
theorem not_prefix_of_plain {p : Text × LinkForm} (hp : p ∈ bareSchemes) (hPlain : Plain s)
    (hNext : ∀ c, t.head? = some c → c = '[') : ¬p.1 <+: s ++ t := by
  obtain ⟨hColon, hBracket⟩ := marks_of_mem_bareSchemes p hp
  intro hPrefix
  rcases List.prefix_or_prefix_of_prefix hPrefix (List.prefix_append s t) with hInside | hBeyond
  · -- The colon of the scheme would be in the plain text.
    exact hPlain.no_colon (hInside.subset hColon)
  · -- The scheme would go on with the bracket.
    obtain ⟨q, hq⟩ := hBeyond
    rw [← hq, List.prefix_append_right_inj] at hPrefix
    cases q with
    | nil =>
      rw [← hq, List.append_nil] at hColon
      exact hPlain.no_colon hColon
    | cons c q =>
      obtain ⟨rest, rfl⟩ := hPrefix
      rw [← hq, hNext c rfl] at hBracket
      simp at hBracket

/-- No link opens plain text, also with a bracket behind it. -/
theorem take?_plain_append {c : Char} (before : Option Char) (hPlain : Plain (c :: s))
    (hNext : ∀ c, t.head? = some c → c = '[') : take? before (c :: (s ++ t)) = none := by
  have hc : c ≠ '[' := by
    rintro rfl
    exact hPlain.no_bracket (List.mem_cons_self ..)
  have hBracketed : takeBracketed? (c :: (s ++ t)) = none := by
    simp [takeBracketed?, List.isPrefixOf?, hc.symm]
  have hFind : bareSchemes.find? (·.1.isPrefixOf (c :: (s ++ t))) = none := by
    rw [List.find?_eq_none]
    intro p hp hOpens
    exact not_prefix_of_plain hp hPlain hNext (List.isPrefixOf_iff_prefix.mp hOpens)
  have hBare : takeBare? (c :: (s ++ t)) = none := by
    rw [takeBare?, hFind]
    rfl
  rw [take?, hBracketed, hBare]
  exact ite_self none

/-! ## One stretch of a line -/

/-- **Plain text is passed over**: the links are those of what follows, if that starts with one. -/
theorem scan_plain_append (hPlain : Plain s) (hNext : ∀ c, t.head? = some c → c = '[')
    (h : ∀ before, scan before (column + s.length) 0 t = ls) :
    scan before column 0 (s ++ t) = ls := by
  induction s generalizing before column with
  | nil => exact h before
  | cons c s ih =>
    rw [List.cons_append, scan_of_take?_none (take?_plain_append before hPlain hNext)]
    refine ih hPlain.tail fun before => ?_
    rw [← h before, List.length_cons, Nat.add_assoc, Nat.add_comm 1]

/-- The columns that belong to a link are skipped. -/
theorem scan_skip_append (h : ∀ before, scan before (column + s.length) 0 t = ls) :
    scan before column s.length (s ++ t) = ls := by
  induction s generalizing before column with
  | nil => exact h before
  | cons c s ih =>
    rw [List.cons_append, List.length_cons, scan_skip_cons]
    refine ih fun before => ?_
    rw [← h before, List.length_cons, Nat.add_assoc, Nat.add_comm 1]

/-- **A link in brackets is read in one**, and the links of what follows behind it. -/
theorem scan_render_append (b : Bracketed)
    (h : ∀ before, scan before (column + b.render.length) 0 t = ls) :
    scan before column 0 (b.render ++ t) = b.linkAt column :: ls := by
  obtain ⟨inner, hRender⟩ : ∃ inner, b.render = '[' :: inner :=
    ⟨_, by rw [Bracketed.render, List.append_assoc, List.append_assoc]; rfl⟩
  have hTake : take? before ('[' :: (inner ++ t)) = some b.reading := by
    rw [take?, ← List.cons_append, ← hRender, takeBracketed?_render_append]
  have hWidth : b.reading.width - 1 = inner.length := by
    show b.render.length - 1 = inner.length
    rw [hRender, List.length_cons, Nat.add_sub_cancel]
  -- The link is found at its first bracket, and the rest of its columns are skipped.
  rw [hRender, List.cons_append, scan_of_take?_some hTake, hWidth]
  congr 1
  refine scan_skip_append fun before => ?_
  rw [← h before, hRender, List.length_cons, Nat.add_assoc, Nat.add_comm 1]

/-! ## The whole line -/

/-- A link in brackets with the plain text behind it. -/
structure Segment where
  link : Bracketed
  behind : Text
  plain : Plain behind

/-- The segments in writing. -/
def renderAll (segments : List Segment) : Text :=
  segments.flatMap fun s => s.link.render ++ s.behind

/-- The links of the segments, which are written from a column on. -/
def linksFrom (column : Nat) : List Segment → List Link
  | [] => []
  | s :: segments =>
    s.link.linkAt column
      :: linksFrom (column + s.link.render.length + s.behind.length) segments

/-- Only a bracket opens the writing of segments. -/
theorem eq_of_head?_renderAll {segments : List Segment} {c : Char}
    (h : (renderAll segments).head? = some c) : c = '[' := by
  cases segments with
  | nil => contradiction
  | cons s segments => exact (Option.some.inj h).symm

theorem scan_renderAll (before : Option Char) (column : Nat) (segments : List Segment) :
    scan before column 0 (renderAll segments) = linksFrom column segments := by
  -- On the segments, for every column and whatever stands before: a link, then plain text.
  induction segments generalizing before column with
  | nil => rfl
  | cons s segments ih =>
    rw [renderAll, List.flatMap_cons, List.append_assoc, ← renderAll, linksFrom]
    apply scan_render_append
    intro before
    apply scan_plain_append s.plain fun c => eq_of_head?_renderAll
    intro before
    exact ih ..

/-- **The links that are written into a line are read back**: exactly these, in order, each with
its own parts at its own columns. -/
theorem ofLine_renderAll (hFront : Plain front) (segments : List Segment) :
    ofLine (front ++ renderAll segments) = linksFrom front.length segments := by
  apply scan_plain_append hFront fun c => eq_of_head?_renderAll
  intro before
  rw [Nat.zero_add, scan_renderAll]

/-- Brackets and addresses inside a link are part of it. -/
theorem ofLine_renderAll_nested :
    Plain "é ".toList ∧
      ofLine "é [[http://a.org/[[b][[[c] file:d]][[ id:ü ]] e[[x][]]".toList =
        [⟨.bracketed, .url "http://a.org/[[b".toList, "http://a.org/[[b".toList,
            some "[[c] file:d".toList, 2, 35⟩,
          ⟨.bracketed, .byId "ü".toList, "id:ü".toList, none, 35, 45⟩,
          ⟨.bracketed, .headline "x".toList, "x".toList, some [], 47, 54⟩] := by
  have hFront : Plain "é ".toList := ⟨by decide, by decide⟩
  let segments : List Segment :=
    [⟨⟨"http://a.org/[[b".toList, some "[[c] file:d".toList, by decide, by decide, by
          rintro _ ⟨⟩
          decide⟩, [], ⟨by decide, by decide⟩⟩,
      ⟨⟨" id:ü ".toList, none, by decide, by decide, by simp⟩, " e".toList,
        ⟨by decide, by decide⟩⟩,
      ⟨⟨"x".toList, some [], by decide, by decide, by
          rintro _ ⟨⟩
          decide⟩, [], ⟨by decide, by decide⟩⟩]
  have hLine : "é ".toList ++ renderAll segments =
      "é [[http://a.org/[[b][[[c] file:d]][[ id:ü ]] e[[x][]]".toList := by
    simp [segments, renderAll, Bracketed.render]
  rw [← hLine, ofLine_renderAll hFront]
  exact ⟨hFront, rfl⟩

end Link

end Outliner
