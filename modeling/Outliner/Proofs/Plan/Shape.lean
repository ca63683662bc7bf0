import Outliner.Editor.Plan
import Outliner.Proofs.Batch.WholeLines
import Outliner.Proofs.Cursor

/-!
# Outliner — the shapes of plans

Commands mean many things, but what they ask for comes in six shapes. A batch of edits either stays
in place, at most one edit a line, with the cursor following its text; or it puts in one new line,
besides edits of other text, and the cursor goes there; or it breaks the line of the cursor.

* `Clean` — the keywords and the lines are unbroken.
* `Batch.InPlace`, `Batch.Beside` — what the edits of the first two shapes have in common.
* `Plan.Shape` — the six shapes.

Main results:

* `inside_mapCursor` — a cursor that follows the text of its line stays inside.
* `exists_edit?_onLine` — columns of one line replaced.
* `Shape.fits` — the batch of a shaped plan fits.
* `Shape.result` — of clean lines it leaves unbroken lines, with the cursor inside.
-/

namespace Outliner

/-- Nothing that a command could write breaks a line: keywords and lines are unbroken. -/
structure Clean (config : Config) (lines : Lines) : Prop where
  keywords : ∀ word ∈ config.keywords.all, word.Unbroken
  lines : lines.Unbroken

namespace Batch

/-- Every edit stays on a line of its own; the batch goes down the lines. -/
structure InPlace (lines : Lines) (edits : List Edit) : Prop where
  onLine : ∀ e ∈ edits, e.OnLine lines
  increasing : edits.Pairwise fun e f => e.span.start.line < f.span.start.line

/-- Every edit stays on its line, they are apart, and none only puts text in. -/
structure Beside (lines : Lines) (edits : List Edit) : Prop where
  onLine : ∀ e ∈ edits, e.OnLine lines
  apart : edits.Pairwise Edit.Apart
  idle : ∀ e ∈ edits, e.span.start = e.span.stop → e.text = []

end Batch

/-- The shapes that the plan of a command at a place can have. -/
inductive Plan.Shape (config : Config) (lines : Lines) (p : Position) : Plan → Prop where
  | unchanged : Shape config lines p .unchanged
  /-- More than one line is folded. -/
  | fold {first last : Nat} (hProper : first < last) (hLast : last < lines.length) :
      Shape config lines p (.fold ⟨first, last⟩)
  /-- The cursor moves, and nothing else. -/
  | move {q : Position} (hInside : lines.Inside q) : Shape config lines p (.apply [] q)
  /-- Text is replaced in place. -/
  | inPlace {edits : List Edit} (hNonempty : edits ≠ []) (hEdits : Batch.InPlace lines edits)
      (hTexts : Clean config lines → Batch.Unbroken edits) :
      Shape config lines p (.apply edits (mapCursor edits p))
  /-- A line is put in, and the cursor goes there. -/
  | newLine {edits : List Edit} {n column : Nat} {new : Text} (hLine : n ≤ lines.length)
      (hEdits : Batch.Beside lines edits)
      (hTexts : Clean config lines → Batch.Unbroken edits ∧ new.Unbroken)
      (hColumn : column ≤ new.length) :
      Shape config lines p (.apply (edits ++ [lines.insertion n [new]]) ⟨n, column⟩)
  /-- The line of the cursor is broken there. -/
  | lineBreak : Shape config lines p (lineBreak p)

/-! ## The cursor after edits in place -/

namespace Batch

variable {lines : Lines} {edits : List Edit}

/-- A line has one edit of a batch in place, or none. -/
theorem InPlace.onLine_eq (h : InPlace lines edits) (n : Nat) :
    Batch.onLine edits n = [] ∨ ∃ e ∈ edits, Batch.onLine edits n = [e] := by
  -- Two edits of one line would have to go down from it.
  have hDistinct : (Batch.onLine edits n).Pairwise fun _ _ => False := by
    rw [Batch.onLine, List.pairwise_filter]
    refine h.increasing.imp ?_
    intro e f hef he hf
    rw [beq_iff_eq] at he hf
    omega
  cases hLine : Batch.onLine edits n with
  | nil => exact Or.inl rfl
  | cons e rest =>
    rw [hLine] at hDistinct
    have hRest : rest = [] := by
      cases rest with
      | nil => rfl
      | cons f rest => exact ((List.pairwise_cons.mp hDistinct).1 f (List.mem_cons_self ..)).elim
    have he : e ∈ Batch.onLine edits n := by
      rw [hLine]
      exact List.mem_cons_self ..
    exact Or.inr ⟨e, (List.mem_filter.mp he).1, by rw [hRest]⟩

/-- An edit of a batch in place is the only one of its line. -/
theorem InPlace.onLine_eq_singleton (h : InPlace lines edits) {e : Edit} (he : e ∈ edits) :
    Batch.onLine edits e.span.start.line = [e] := by
  have hMem : e ∈ Batch.onLine edits e.span.start.line :=
    List.mem_filter.mpr ⟨he, beq_self_eq_true _⟩
  rcases h.onLine_eq e.span.start.line with hNone | ⟨f, -, hOne⟩
  · rw [hNone] at hMem
    contradiction
  · rw [hOne] at hMem ⊢
    rw [List.mem_singleton.mp hMem]

/-- A line with an edit of a batch in place has the columns of the edit replaced. -/
theorem InPlace.lineAt_rewrite (h : InPlace lines edits) {e : Edit} (he : e ∈ edits) :
    (rewrite edits lines).lineAt e.span.start.line =
      (lines.lineAt e.span.start.line).take e.span.start.column ++ e.text ++
        (lines.lineAt e.span.start.line).drop e.span.stop.column := by
  have hOn := h.onLine e he
  rw [Batch.lineAt_rewrite hOn.line_lt]
  exact rewriteLine_of_onLine_eq_singleton (h.onLine_eq_singleton he) hOn.forward hOn.inside

/-- A line without an edit stays as it is. -/
theorem lineAt_rewrite_of_forall_ne {n : Nat} (h : ∀ e ∈ edits, e.span.start.line ≠ n) :
    (rewrite edits lines).lineAt n = lines.lineAt n := by
  rcases Nat.lt_or_ge n lines.length with hn | hn
  · have hNone : onLine edits n = [] := by
      rw [onLine, List.filter_eq_nil_iff]
      intro e he
      simpa using h e he
    rw [lineAt_rewrite hn, rewriteLine_of_onLine_eq_nil hNone]
  · rw [Lines.lineAt_of_length_le hn, Lines.lineAt_of_length_le (by rwa [length_rewrite])]

theorem InPlace.fits (h : InPlace lines edits) : Fits lines edits :=
  fits_of_onLine h.onLine (h.increasing.imp fun hLt hEq => absurd hEq (Nat.ne_of_lt hLt))

/-- After edits in place the cursor is inside the new lines. -/
theorem inside_mapCursor {p : Position} (hp : lines.Inside p) (h : InPlace lines edits) :
    (rewrite edits lines).Inside (mapCursor edits p) := by
  have hLine : (mapCursor edits p).line = p.line := rfl
  refine ⟨by rw [hLine, length_rewrite]; exact hp.line_lt, ?_⟩
  rw [hLine, Batch.lineAt_rewrite hp.line_lt]
  exact column_mapCursor_le h.fits h.onLine hp

/-- A document takes edits in place, and keeps its lines where they are. -/
theorem InPlace.exists_edit?_eq {d : Document} {edits : List Edit} (h : InPlace d.lines edits)
    (hLines : d.lines.Unbroken) (hTexts : Batch.Unbroken edits) :
    ∃ d', d.edit? edits = some d' ∧ d'.lines = rewrite edits d.lines ∧ d'.lineEnd = d.lineEnd := by
  refine ⟨result d edits, ?_, result_lines_of_unbroken hLines h.onLine hTexts, lineEnd_result d _⟩
  rw [Document.edit?_eq, if_pos h.fits]

theorem inPlace_singleton {e : Edit} (h : e.OnLine lines) : InPlace lines [e] :=
  ⟨by simpa using h, List.pairwise_singleton ..⟩

/-- **A document takes another text for columns of one line,** and keeps its other lines. -/
theorem exists_edit?_onLine {d : Document} {n start stop : Nat} {text : Text}
    (hLines : d.lines.Unbroken) (hn : n < d.lines.length) (hForward : start ≤ stop)
    (hInside : stop ≤ (d.lines.lineAt n).length) (hText : text.Unbroken) :
    ∃ d', d.edit? [⟨.onLine n start stop, text⟩] = some d' ∧
      d'.lines = d.lines.set n
        ((d.lines.lineAt n).take start ++ text ++ (d.lines.lineAt n).drop stop) ∧
      d'.lineEnd = d.lineEnd := by
  have hInPlace : InPlace d.lines [⟨.onLine n start stop, text⟩] :=
    inPlace_singleton (Edit.onLine_mk hn hForward hInside text)
  have hTexts : Batch.Unbroken [⟨.onLine n start stop, text⟩] := by
    intro e he
    rw [List.mem_singleton.mp he]
    exact hText
  obtain ⟨d', hEdit, hResult, hEnd⟩ := hInPlace.exists_edit?_eq hLines hTexts
  refine ⟨d', hEdit, ?_, hEnd⟩
  rw [hResult]
  apply Lines.ext_lineAt (by rw [length_rewrite, List.length_set])
  intro m
  by_cases hm : n = m
  · subst hm
    rw [Lines.lineAt_set_self hn]
    exact hInPlace.lineAt_rewrite (List.mem_singleton.mpr rfl)
  · rw [Lines.lineAt_set_of_ne hm, lineAt_rewrite_of_forall_ne]
    intro e he
    rw [List.mem_singleton.mp he]
    exact hm

/-- A document takes another text for a whole line. -/
theorem exists_edit?_spanOf {d : Document} {n : Nat} {text : Text} (hLines : d.lines.Unbroken)
    (hn : n < d.lines.length) (hText : text.Unbroken) :
    ∃ d', d.edit? [⟨d.lines.spanOf n, text⟩] = some d' ∧ d'.lines = d.lines.set n text ∧
      d'.lineEnd = d.lineEnd := by
  obtain ⟨d', hEdit, hResult, hEnd⟩ :=
    exists_edit?_onLine hLines hn (Nat.zero_le _) (Nat.le_refl _) hText
  refine ⟨d', hEdit, ?_, hEnd⟩
  rwa [List.take_zero, List.nil_append, List.drop_length, List.append_nil] at hResult

/-- Edits that are made line by line on the way down are in place. -/
theorem inPlace_filterMap {α : Type} {xs : List α} {f : α → Option Edit} (line : α → Nat)
    (hIncreasing : xs.Pairwise fun x y => line x < line y)
    (hEdit : ∀ x ∈ xs, ∀ e, f x = some e → e.OnLine lines ∧ e.span.start.line = line x) :
    InPlace lines (xs.filterMap f) where
  onLine e he := by
    obtain ⟨x, hx, hfx⟩ := List.mem_filterMap.mp he
    exact (hEdit x hx e hfx).1
  increasing := by
    rw [List.pairwise_filterMap]
    refine hIncreasing.imp_of_mem ?_
    intro x y hx hy hLt e he f hf
    rw [(hEdit x hx e he).2, (hEdit y hy f hf).2]
    exact hLt

theorem InPlace.of_sublist {edits' : List Edit} (h : InPlace lines edits)
    (hSub : edits'.Sublist edits) : InPlace lines edits' where
  onLine e he := h.onLine e (hSub.subset he)
  increasing := h.increasing.sublist hSub

theorem inPlace_toList {edit? : Option Edit} (h : ∀ e, edit? = some e → e.OnLine lines) :
    InPlace lines edit?.toList := by
  cases edit? with
  | none => exact ⟨by simp, .nil⟩
  | some e => exact inPlace_singleton (h e rfl)

/-- A new line is apart from the edits beside it. -/
theorem Beside.fits_insertion (h : Beside lines edits) (hLines : lines ≠ []) (n : Nat)
    (new : List Text) : Fits lines (edits ++ [lines.insertion n new]) := by
  apply fits_of_onLine
  · intro e he
    rcases List.mem_append.mp he with he | he
    · exact h.onLine e he
    · rw [List.mem_singleton.mp he]
      exact Lines.onLine_insertion hLines n new
  · refine List.pairwise_append.mpr ⟨h.apart, List.pairwise_singleton .., ?_⟩
    intro e he f hf
    rw [List.mem_singleton.mp hf]
    exact Lines.apart_insertion (h.onLine e he) n new

end Batch

/-! ## What shaped plans ask for -/

namespace Plan

/-- **Shaped plans fit.** The batch of a shaped plan is taken by every document with these lines. -/
theorem Shape.fits {config : Config} {lines : Lines} {p q : Position} {edits : List Edit}
    (hLines : lines ≠ []) (hp : lines.Inside p) (h : Shape config lines p (.apply edits q)) :
    Batch.Fits lines edits := by
  cases h with
  | move hInside => exact ⟨by simp, by simp, .nil⟩
  | inPlace _ hEdits _ => exact hEdits.fits
  | newLine _ hEdits _ _ => exact hEdits.fits_insertion hLines _ _
  | lineBreak =>
    apply Batch.fits_of_onLine
    · intro e he
      rw [List.mem_singleton.mp he]
      exact Edit.onLine_mk hp.line_lt (Nat.le_refl _) hp.column_le _
    · exact List.pairwise_singleton ..

/-- A shaped plan without edits moves the cursor to a place inside. -/
theorem Shape.inside_of_nil {config : Config} {lines : Lines} {p q : Position}
    (h : Shape config lines p (.apply [] q)) : lines.Inside q := by
  generalize hPlan : Plan.apply [] q = plan at h
  -- The other shapes that change something have at least one edit.
  cases h with
  | unchanged => contradiction
  | fold => contradiction
  | move hInside =>
    injection hPlan with _ hq
    rw [hq]
    exact hInside
  | inPlace hNonempty _ _ =>
    injection hPlan with hEdits _
    exact absurd hEdits.symm hNonempty
  | newLine =>
    injection hPlan with hEdits _
    simp at hEdits
  | lineBreak =>
    injection hPlan with hEdits _
    contradiction

/-- The plan that makes edits in place has the shape of edits in place, if there are any. -/
theorem Shape.ofEdits {config : Config} {lines : Lines} {edits : List Edit}
    (hEdits : Batch.InPlace lines edits) (hTexts : Clean config lines → Batch.Unbroken edits)
    (p : Position) : Shape config lines p (.ofEdits edits p) := by
  rw [Plan.ofEdits]
  split
  · exact .unchanged
  · next hNonempty => exact .inPlace (by simpa using hNonempty) hEdits hTexts

variable {config : Config} {d : Document} {p q : Position} {edits : List Edit}

/-- **Shaped plans keep lines whole.** What the batch of a shaped plan leaves of clean lines is
unbroken, and the cursor is inside it. -/
theorem Shape.result (hp : d.lines.Inside p) (hClean : Clean config d.lines)
    (h : Shape config d.lines p (.apply edits q)) (hEdits : edits ≠ []) :
    (Batch.result d edits).lines.Unbroken ∧ (Batch.result d edits).lines.Inside q := by
  cases h with
  | move hInside => exact absurd rfl hEdits
  | inPlace _ hInPlace hTexts =>
    rw [Batch.result_lines_of_unbroken hClean.lines hInPlace.onLine (hTexts hClean)]
    exact ⟨(hTexts hClean).rewrite hClean.lines, Batch.inside_mapCursor hp hInPlace⟩
  | @newLine edits n column new hLine hBeside hTexts hColumn =>
    obtain ⟨hTexts, hNew⟩ := hTexts hClean
    have hNewLines : Lines.Unbroken [new] := by
      intro l hl
      rw [List.mem_singleton.mp hl]
      exact hNew
    have hRewrite := hTexts.rewrite hClean.lines
    rw [Batch.result_lines_insertion hClean.lines hBeside.onLine hTexts hBeside.idle hNewLines
      (by simp)]
    constructor
    · exact ((hRewrite.take n).append hNewLines).append (hRewrite.drop n)
    · -- The lines in front of the new one are `n` in number.
      have hTake : ((Batch.rewrite edits d.lines).take n).length = n := by
        rw [List.length_take, Batch.length_rewrite, Nat.min_eq_left hLine]
      have hAt : Lines.lineAt ((Batch.rewrite edits d.lines).take n ++ [new] ++
          (Batch.rewrite edits d.lines).drop n) n = new := by
        rw [Lines.lineAt, List.getD_eq_getElem?_getD, List.append_assoc,
          List.getElem?_append_right (by omega), hTake, Nat.sub_self]
        rfl
      refine ⟨?_, by rw [hAt]; exact hColumn⟩
      simp only [List.length_append, hTake, List.length_singleton]
      omega
  | lineBreak =>
    rw [Batch.result_lines_lineBreak hClean.lines hp.line_lt hp.column_le]
    constructor
    · exact hClean.lines.lineBreak p.line p.column
    · have := hp.line_lt
      refine ⟨?_, Nat.zero_le _⟩
      simp only [List.length_append, List.length_take, List.length_cons, List.length_nil,
        List.length_drop]
      omega

end Plan

end Outliner
