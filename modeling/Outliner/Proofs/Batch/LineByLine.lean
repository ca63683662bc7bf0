import Outliner.Proofs.Batch.Acceptance
import Outliner.Proofs.Batch.Split

/-!
# Outliner — batches line by line

Most batches hold only edits that stay on one line each. For these the reading of the joined text
falls apart into readings of the lines: what a batch does to a line depends on the line and on the
edits that stay on it, and on nothing else.

* `Edit.OnLine` — the edit stays on one line that exists, within its text.
* `Edit.Apart` — if two edits are on the same line, one ends before the other starts.
* `Batch.onLine`, `Batch.rewrite` — the edits of one line, and all lines with their edits made.

Main results:

* `fits_of_onLine`, `apart_of_not_clash` — edits that stay on their lines fit if they are apart, and
  only then.
* `readThrough_joined` — the reading of the joined lines is the joined readings of the lines.
* `result_lines` — the lines that such a batch leaves.
-/

namespace Outliner

/-! ## Edits that stay on a line -/

/-- The edit stays on one line that exists, within its text. -/
structure Edit.OnLine (lines : Lines) (e : Edit) : Prop where
  same_line : e.span.stop.line = e.span.start.line
  line_lt : e.span.start.line < lines.length
  forward : e.span.start.column ≤ e.span.stop.column
  inside : e.span.stop.column ≤ (lines.lineAt e.span.start.line).length

theorem Edit.OnLine.exists_eq {lines : Lines} {e : Edit} (h : e.OnLine lines) :
    ∃ n a b t, e = ⟨.onLine n a b, t⟩ ∧ n < lines.length ∧ a ≤ b ∧
      b ≤ (lines.lineAt n).length := by
  obtain ⟨⟨⟨n, a⟩, ⟨n', b⟩⟩, t⟩ := e
  have hLine : n' = n := h.same_line
  subst hLine
  exact ⟨n', a, b, t, rfl, h.line_lt, h.forward, h.inside⟩

/-- The columns from `a` up to `b` of a line that has them. -/
theorem Edit.onLine_mk {lines : Lines} {n a b : Nat} (hn : n < lines.length) (hab : a ≤ b)
    (hb : b ≤ (lines.lineAt n).length) (t : Text) : (⟨.onLine n a b, t⟩ : Edit).OnLine lines :=
  ⟨rfl, hn, hab, hb⟩

/-- If the two edits start on the same line, one of them ends before the other starts. -/
def Edit.Apart (e f : Edit) : Prop :=
  e.span.start.line = f.span.start.line →
    e.span.stop.column ≤ f.span.start.column ∨ f.span.stop.column ≤ e.span.start.column

namespace Lines

/-- Every place of a line has a smaller offset than any place of a line below it. -/
theorem offset_lt_of_line_lt {lines : Lines} {p q : Position} (h : p.line < q.line)
    (hq : q.line < lines.length) : lines.offset p < lines.offset q := by
  obtain ⟨m, c⟩ := p
  obtain ⟨n, d⟩ := q
  induction lines generalizing m n with
  | nil => simp at hq
  | cons l ls ih =>
    obtain ⟨n, rfl⟩ : ∃ k, n = k + 1 := ⟨n - 1, by simp at h; omega⟩
    rw [offset_succ]
    cases m with
    | zero =>
      rw [offset_zero]
      omega
    | succ m =>
      rw [offset_succ]
      have := ih m n (by simpa using hq) (by simpa using h)
      omega

theorem offset_le_of_column_le (lines : Lines) {n c d : Nat} (h : c ≤ d) :
    lines.offset ⟨n, c⟩ ≤ lines.offset ⟨n, d⟩ := by
  simp only [offset]
  omega

/-- Within the text of a line an offset counts the column. -/
theorem offset_of_column_le (lines : Lines) {n c : Nat} (h : c ≤ (lines.lineAt n).length) :
    lines.offset ⟨n, c⟩ = width (lines.take n) + c := by
  rw [offset, Nat.min_eq_left h]

end Lines

namespace Batch

/-- Edits that stay on their lines do not clash when they are apart. -/
theorem not_clash_of_apart {lines : Lines} {e f : Edit} (he : e.OnLine lines)
    (hf : f.OnLine lines) (h : e.Apart f) : ¬e.Clash lines f := by
  obtain ⟨m, a, b, t, rfl, hm, hab, -⟩ := he.exists_eq
  obtain ⟨n, c, d, u, rfl, hn, hcd, -⟩ := hf.exists_eq
  simp only [Edit.Apart, Span.onLine] at h
  simp only [Edit.Clash, Span.onLine]
  have hab := lines.offset_le_of_column_le (n := m) hab
  have hcd := lines.offset_le_of_column_le (n := n) hcd
  -- On different lines the offsets are apart; on one line the columns are, and so the offsets.
  rcases Nat.lt_trichotomy m n with hmn | rfl | hmn
  · have := Lines.offset_lt_of_line_lt (p := ⟨m, b⟩) (q := ⟨n, c⟩) hmn hn
    omega
  · rcases h rfl with h | h
    · have := lines.offset_le_of_column_le (n := m) h
      omega
    · have := lines.offset_le_of_column_le (n := m) h
      omega
  · have := Lines.offset_lt_of_line_lt (p := ⟨n, d⟩) (q := ⟨m, a⟩) hmn hm
    omega

/-- And if they do not clash, they are apart. -/
theorem apart_of_not_clash {lines : Lines} {e f : Edit} (he : e.OnLine lines)
    (hf : f.OnLine lines) (h : ¬e.Clash lines f) : e.Apart f := by
  obtain ⟨m, a, b, t, rfl, -, hab, hb⟩ := he.exists_eq
  obtain ⟨n, c, d, u, rfl, -, hcd, hd⟩ := hf.exists_eq
  intro hLine
  obtain rfl : m = n := hLine
  simp only [Edit.Clash, Span.onLine, lines.offset_of_column_le hb, lines.offset_of_column_le hd,
    lines.offset_of_column_le (Nat.le_trans hab hb),
    lines.offset_of_column_le (Nat.le_trans hcd hd)] at h
  simp only [Span.onLine]
  omega

/-- Edits that stay on their lines and are apart fit. -/
theorem fits_of_onLine {lines : Lines} {edits : List Edit} (h : ∀ e ∈ edits, e.OnLine lines)
    (hApart : edits.Pairwise Edit.Apart) : Fits lines edits where
  lines_exist e he := by
    have := h e he
    exact ⟨this.line_lt, this.same_line ▸ this.line_lt⟩
  forward e he := by
    obtain ⟨n, a, b, t, rfl, -, hab, -⟩ := (h e he).exists_eq
    exact lines.offset_le_of_column_le hab
  apart := hApart.imp_of_mem fun he hf hef => not_clash_of_apart (h _ he) (h _ hf) hef

end Batch

/-! ## Reading past a line feed -/

namespace Patch

/-- The numbers of the patches do not matter to what is written at an offset. -/
theorem readThrough_map_order (f : Patch → Nat) (patches : List Patch) (text : Text) :
    readThrough (patches.map fun p => { p with order := f p }) text =
      readThrough patches text := by
  have h : readAt (patches.map fun p => { p with order := f p }) text = readAt patches text := by
    funext k
    simp [readAt, insertedAt, replacedAt, keptAt, List.filter_map, Function.comp_def,
      isInsertion, covers, List.flatMap_map]
  rw [readThrough, readThrough, readFrom, readFrom, h]

/-- A text is read up to a character that no patch takes out or stands behind, and then past it. -/
theorem readThrough_append_cons {a b : Text} {c : Char} {ps : List Patch}
    (h : ∀ p ∈ ps, p.start ≤ p.stop ∧ (p.start ≤ a.length → p.stop ≤ a.length)) :
    readThrough ps (a ++ c :: b) =
      readThrough (ps.filter fun p => p.start ≤ a.length) a ++
        c :: readThrough ((ps.filter fun p => a.length < p.start).map (shiftLeft (a.length + 1)))
          b := by
  have hParted : ∀ p ∈ ps, p.start ≤ p.stop ∧ (p.stop ≤ a.length ∨ a.length ≤ p.start) := by
    intro p hp
    have := h p hp
    omega
  have hFront : ps.filter (·.stop ≤ a.length) = ps.filter (·.start ≤ a.length) := by
    apply List.filter_congr
    intro p hp
    have := h p hp
    rw [decide_eq_decide]
    omega
  have hBehind : ps.filter (a.length < ·.stop) = ps.filter (a.length < ·.start) := by
    apply List.filter_congr
    intro p hp
    have := h p hp
    rw [decide_eq_decide]
    omega
  have hStart : ∀ p ∈ ps.filter (a.length < ·.start), a.length + 1 ≤ p.start ∧ p.start ≤ p.stop := by
    intro p hp
    obtain ⟨hp, hStart⟩ := List.mem_filter.mp hp
    exact ⟨of_decide_eq_true hStart, (h p hp).1⟩
  have hDrop : (a ++ c :: b).drop (a.length + 1) = b := by
    rw [← List.drop_drop, List.drop_left]
    rfl
  -- All patches behind stand behind the character, so that it is copied.
  rw [readThrough_eq_append_readFrom (by simp) hParted, hFront, hBehind, readFrom_succ (by simp),
    readAt_of_lt_start (fun p hp => (hStart p hp).1),
    readFrom_eq_readThrough_shiftLeft (by simp) hStart, hDrop]
  simp

end Patch

/-! ## Every line for itself -/

/-- An edit that stays on one line, as a patch of the text of that line. -/
def Edit.linePatch (e : Edit) : Patch :=
  ⟨e.span.start.column, e.span.stop.column, e.text, 0⟩

namespace Batch

/-- The edits that start on line `n`. -/
def onLine (edits : List Edit) (n : Nat) : List Edit :=
  edits.filter (·.span.start.line == n)

/-- Line `n` with its edits made. -/
def rewriteLine (edits : List Edit) (n : Nat) (line : Text) : Text :=
  Patch.readThrough ((onLine edits n).map Edit.linePatch) line

/-- The lines with their edits made, each for itself. -/
def rewrite (edits : List Edit) (lines : Lines) : Lines :=
  lines.mapIdx (rewriteLine edits)

/-- The patch of an edit in lines of which the first has the number `base`. -/
private def patchFrom (lines : Lines) (base : Nat) (e : Edit) : Patch :=
  ⟨lines.offset ⟨e.span.start.line - base, e.span.start.column⟩,
    lines.offset ⟨e.span.stop.line - base, e.span.stop.column⟩, e.text, 0⟩

/-- The edit stays on one of the lines, of which the first has the number `base`. -/
private def OnLineFrom (lines : Lines) (base : Nat) (e : Edit) : Prop :=
  ∃ i a b t, e = ⟨.onLine (base + i) a b, t⟩ ∧ i < lines.length ∧ a ≤ b ∧
    b ≤ (lines.lineAt i).length

/-- The edits of the first line are those whose patches start within its text. -/
private theorem patchFrom_start_le_iff {l : Text} {ls : Lines} {base : Nat} {e : Edit}
    (h : OnLineFrom (l :: ls) base e) :
    (patchFrom (l :: ls) base e).start ≤ l.length ↔ e.span.start.line = base := by
  obtain ⟨i, a, b, t, rfl, -, -, -⟩ := h
  cases i with
  | zero =>
    have hStart : (patchFrom (l :: ls) base ⟨.onLine (base + 0) a b, t⟩).start ≤ l.length := by
      simp only [patchFrom, Span.onLine, Nat.add_sub_cancel_left, Lines.offset_zero]
      exact Nat.min_le_right ..
    exact iff_of_true hStart rfl
  | succ i =>
    simp only [patchFrom, Span.onLine, Nat.add_sub_cancel_left, Lines.offset_succ]
    omega

/-- The patches that start within the first line are those of its edits. -/
private theorem filter_patchFrom_le {l : Text} {ls : Lines} {base : Nat} {edits : List Edit}
    (h : ∀ e ∈ edits, OnLineFrom (l :: ls) base e) :
    (edits.map (patchFrom (l :: ls) base)).filter (fun p => p.start ≤ l.length) =
      (onLine edits base).map Edit.linePatch := by
  have hFilter : edits.filter ((fun p => decide (p.start ≤ l.length)) ∘ patchFrom (l :: ls) base) =
      onLine edits base := by
    apply List.filter_congr
    intro e he
    rw [Function.comp_apply, Bool.eq_iff_iff, decide_eq_true_eq, beq_iff_eq]
    exact patchFrom_start_le_iff (h e he)
  -- On the first line an offset is the column, which the text of the line does not clamp.
  rw [List.filter_map, hFilter]
  apply List.map_congr_left
  intro e he
  obtain ⟨he, hLine⟩ := List.mem_filter.mp he
  obtain ⟨i, a, b, t, rfl, -, hab, hb⟩ := h e he
  have hi : i = 0 := by simpa [Span.onLine] using hLine
  subst hi
  have hb : b ≤ l.length := hb
  simp only [patchFrom, Edit.linePatch, Span.onLine, Nat.add_zero, Nat.sub_self, Lines.offset_zero,
    Nat.min_eq_left hb, Nat.min_eq_left (Nat.le_trans hab hb)]

/-- The other patches are, seen from the line below, those of the edits from there on. -/
private theorem filter_patchFrom_lt {l : Text} {ls : Lines} {base : Nat} {edits : List Edit}
    (h : ∀ e ∈ edits, OnLineFrom (l :: ls) base e) :
    ((edits.map (patchFrom (l :: ls) base)).filter fun p => l.length < p.start).map
        (Patch.shiftLeft (l.length + 1)) =
      (edits.filter (·.span.start.line ≠ base)).map (patchFrom ls (base + 1)) := by
  have hFilter : edits.filter ((fun p => decide (l.length < p.start)) ∘ patchFrom (l :: ls) base) =
      edits.filter (·.span.start.line ≠ base) := by
    apply List.filter_congr
    intro e he
    rw [Function.comp_apply, Bool.eq_iff_iff, decide_eq_true_eq, decide_eq_true_eq, ← Nat.not_le]
    exact not_congr (patchFrom_start_le_iff (h e he))
  -- Below the first line every offset counts it with its line feed, and the shift takes that off.
  rw [List.filter_map, List.map_map, hFilter]
  apply List.map_congr_left
  intro e he
  obtain ⟨he, hLine⟩ := List.mem_filter.mp he
  obtain ⟨i, a, b, t, rfl, -, hab, hb⟩ := h e he
  obtain ⟨i, rfl⟩ : ∃ k, i = k + 1 := ⟨i - 1, by simp [Span.onLine] at hLine; omega⟩
  simp [patchFrom, Patch.shiftLeft, Span.onLine, Lines.offset_succ,
    show base + (i + 1) - (base + 1) = i by omega]

/-- The edits below the first line stay on the lines below it. -/
private theorem onLineFrom_of_ne {l : Text} {ls : Lines} {base : Nat} {e : Edit}
    (h : OnLineFrom (l :: ls) base e) (hLine : e.span.start.line ≠ base) :
    OnLineFrom ls (base + 1) e := by
  obtain ⟨i, a, b, t, rfl, hi, hab, hb⟩ := h
  obtain ⟨i, rfl⟩ : ∃ k, i = k + 1 := ⟨i - 1, by simp [Span.onLine] at hLine; omega⟩
  exact ⟨i, a, b, t, by rw [Nat.add_right_comm, Nat.add_assoc], by simpa using hi, hab, hb⟩

/-- Without the edits of a line the edits of another are the same. -/
theorem onLine_filter_ne {m n : Nat} (h : n ≠ m) (edits : List Edit) :
    onLine (edits.filter (·.span.start.line ≠ m)) n = onLine edits n := by
  rw [onLine, onLine, List.filter_filter]
  apply List.filter_congr
  intro e _
  by_cases he : e.span.start.line = n <;> simp [he, h]

/-- Lines with the edits made, from the line with the number `base` on. -/
private theorem readThrough_patchFrom {lines : Lines} {base : Nat} {edits : List Edit}
    (hLines : lines ≠ []) (h : ∀ e ∈ edits, OnLineFrom lines base e) :
    Patch.readThrough (edits.map (patchFrom lines base)) lines.joined =
      Lines.joined (lines.mapIdx fun i l => rewriteLine edits (base + i) l) := by
  -- Line by line: the line feed behind the first line parts its edits from all others.
  induction lines generalizing base edits with
  | nil => exact absurd rfl hLines
  | cons l ls ih =>
    have hInside : ∀ p ∈ edits.map (patchFrom (l :: ls) base),
        p.start ≤ p.stop ∧ (p.start ≤ l.length → p.stop ≤ l.length) := by
      intro p hp
      obtain ⟨e, he, rfl⟩ := List.mem_map.mp hp
      obtain ⟨i, a, b, t, rfl, -, hab, hb⟩ := h e he
      simp only [patchFrom, Span.onLine, Nat.add_sub_cancel_left]
      refine ⟨Lines.offset_le_of_column_le _ hab, ?_⟩
      cases i with
      | zero =>
        rw [Lines.offset_zero, Lines.offset_zero]
        omega
      | succ i =>
        rw [Lines.offset_succ, Lines.offset_succ]
        omega
    cases ls with
    | nil =>
      -- One line, and all edits are on it.
      have hAll : (edits.map (patchFrom [l] base)).filter (fun p => p.start ≤ l.length) =
          edits.map (patchFrom [l] base) := by
        rw [List.filter_eq_self]
        intro p hp
        obtain ⟨e, he, rfl⟩ := List.mem_map.mp hp
        rw [decide_eq_true_eq, patchFrom_start_le_iff (h e he)]
        obtain ⟨i, a, b, t, rfl, hi, -⟩ := h e he
        have hi : i = 0 := by simpa using hi
        rw [hi]
        rfl
      rw [← hAll, filter_patchFrom_le h]
      simp [Lines.joined, rewriteLine]
    | cons l' ls =>
      have hBelow : ∀ e ∈ edits.filter (·.span.start.line ≠ base),
          OnLineFrom (l' :: ls) (base + 1) e := by
        intro e he
        obtain ⟨he, hLine⟩ := List.mem_filter.mp he
        exact onLineFrom_of_ne (h e he) (by simpa using hLine)
      have hRest : ∀ i line,
          rewriteLine (edits.filter (·.span.start.line ≠ base)) (base + 1 + i) line =
            rewriteLine edits (base + (i + 1)) line := by
        intro i line
        rw [rewriteLine, rewriteLine, onLine_filter_ne (by omega), Nat.add_right_comm,
          Nat.add_assoc]
      rw [Lines.joined_cons_cons, Patch.readThrough_append_cons hInside, filter_patchFrom_le h,
        filter_patchFrom_lt h, ih (by simp) hBelow]
      simp only [hRest, List.mapIdx_cons, Lines.joined_cons_cons]
      rfl

/-- The reading of the joined lines is the joined readings of the lines. -/
theorem readThrough_joined {lines : Lines} {edits : List Edit} (hLines : lines ≠ [])
    (h : ∀ e ∈ edits, e.OnLine lines) :
    Patch.readThrough (patches lines edits) lines.joined =
      Lines.joined (rewrite edits lines) := by
  have hPatches : (patches lines edits).map (fun p => { p with order := 0 }) =
      edits.map (patchFrom lines 0) := by
    conv_rhs => rw [← List.zipIdx_map_fst 0 edits]
    rw [patches, List.map_map, List.map_map]
    rfl
  have hFrom : ∀ e ∈ edits, OnLineFrom lines 0 e := by
    intro e he
    obtain ⟨n, a, b, t, rfl, hn, hab, hb⟩ := (h e he).exists_eq
    exact ⟨n, a, b, t, by rw [Nat.zero_add], hn, hab, hb⟩
  rw [← Patch.readThrough_map_order (fun _ => 0), hPatches, readThrough_patchFrom hLines hFrom]
  simp only [Nat.zero_add]
  rfl

end Batch

/-! ## The lines that are left -/

/-- Joined lines fall apart into the pieces of the lines. -/
theorem Lines.pieces_joined {lines : Lines} (h : lines ≠ []) :
    Text.pieces lines.joined = lines.flatMap Text.pieces := by
  induction lines with
  | nil => exact absurd rfl h
  | cons l ls ih =>
    cases ls with
    | nil => simp [joined]
    | cons l' ls =>
      rw [joined_cons_cons, Text.pieces, List.splitOn_append_cons_self, List.flatMap_cons,
        ← ih (by simp)]
      rfl

/-- Lines without line feeds are the pieces of themselves. -/
theorem Lines.flatMap_pieces {lines : Lines} (h : ∀ l ∈ lines, '\n' ∉ l) :
    lines.flatMap Text.pieces = lines := by
  induction lines with
  | nil => rfl
  | cons l ls ih =>
    obtain ⟨hl, hls⟩ := List.forall_mem_cons.mp h
    have hPieces : l.pieces = [l] := List.splitOn_eq_singleton hl
    rw [List.flatMap_cons, hPieces, ih hls, List.singleton_append]

/-- The lines that a batch of edits leaves when each of them stays on its line. -/
theorem Batch.result_lines {d : Document} {edits : List Edit}
    (h : ∀ e ∈ edits, e.OnLine d.lines) :
    (result d edits).lines =
      ((rewrite edits d.lines).flatMap Text.pieces).map Text.dropReturn := by
  have hNonempty : rewrite edits d.lines ≠ [] := by
    simp [rewrite, d.lines_ne_nil]
  calc (result d edits).lines
      = (Text.pieces (Patch.readThrough (patches d.lines edits) d.lines.joined)).map
          Text.dropReturn := rfl
    _ = (Text.pieces (rewrite edits d.lines).joined).map Text.dropReturn := by
        rw [readThrough_joined d.lines_ne_nil h]
    _ = _ := by rw [Lines.pieces_joined hNonempty]

end Outliner
