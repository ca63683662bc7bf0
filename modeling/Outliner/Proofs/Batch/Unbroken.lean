import Outliner.Proofs.Batch.LineByLine

/-!
# Outliner — batches of unbroken texts

A text is unbroken when it holds no character of a line end. As long as lines and edits are unbroken
a batch neither joins nor cuts lines, and what it leaves can be read off line by line. A line comes
into being only where an edit writes a line feed.

* `Text.Unbroken`, `Lines.Unbroken` — no line feed and no carriage return.
* `Patch.mem_readThrough` — a reading writes nothing of its own.
* `rewriteLine_of_onLine_eq_nil`, `rewriteLine_of_onLine_eq_singleton` — a line with no edit or one.

Main results:

* `result_lines_of_feed_notMem` — edits without line feeds leave every line in its place.
* `result_lines_of_unbroken` — unbroken edits do, and nothing is dropped at the end of a line.
* `result_lines_lineBreak` — a line that is broken in two.
-/

namespace Outliner

/-! ## Unbroken texts -/

/-- The text holds no character of a line end. -/
def Text.Unbroken (t : Text) : Prop :=
  '\n' ∉ t ∧ '\r' ∉ t

/-- All lines are unbroken. -/
def Lines.Unbroken (lines : Lines) : Prop :=
  ∀ l ∈ lines, Text.Unbroken l

namespace Text

theorem Unbroken.of_subset {s t : Text} (h : t.Unbroken) (hSubset : ∀ c ∈ s, c ∈ t) : s.Unbroken :=
  ⟨fun hc => h.1 (hSubset _ hc), fun hc => h.2 (hSubset _ hc)⟩

theorem Unbroken.take {t : Text} (h : t.Unbroken) (n : Nat) : Unbroken (t.take n) :=
  h.of_subset fun _ => List.mem_of_mem_take

theorem Unbroken.drop {t : Text} (h : t.Unbroken) (n : Nat) : Unbroken (t.drop n) :=
  h.of_subset fun _ => List.mem_of_mem_drop

@[simp]
theorem unbroken_nil : Unbroken [] := by
  simp [Unbroken]

@[simp]
theorem unbroken_cons_iff {c : Char} {t : Text} :
    Unbroken (c :: t) ↔ (c ≠ '\n' ∧ c ≠ '\r') ∧ Unbroken t := by
  simp only [Unbroken, List.mem_cons, not_or]
  constructor
  · rintro ⟨⟨hn, hnt⟩, hr, hrt⟩
    exact ⟨⟨Ne.symm hn, Ne.symm hr⟩, hnt, hrt⟩
  · rintro ⟨⟨hn, hr⟩, hnt, hrt⟩
    exact ⟨⟨Ne.symm hn, hnt⟩, Ne.symm hr, hrt⟩

@[simp]
theorem unbroken_append_iff {s t : Text} : Unbroken (s ++ t) ↔ Unbroken s ∧ Unbroken t := by
  simp only [Unbroken, List.mem_append, not_or]
  tauto

theorem unbroken_replicate {c : Char} (hFeed : c ≠ '\n') (hReturn : c ≠ '\r') (n : Nat) :
    Unbroken (List.replicate n c) :=
  ⟨fun h => hFeed (List.eq_of_mem_replicate h).symm,
    fun h => hReturn (List.eq_of_mem_replicate h).symm⟩

theorem unbroken_spaces (n : Nat) : Unbroken (spaces n) :=
  unbroken_replicate (by decide) (by decide) n

theorem Unbroken.pieces_eq {t : Text} (h : t.Unbroken) : t.pieces = [t] :=
  List.splitOn_eq_singleton h.1

theorem Unbroken.dropReturn_eq {t : Text} (h : t.Unbroken) : t.dropReturn = t := by
  rw [dropReturn, if_neg]
  intro hLast
  exact h.2 (List.mem_of_getLast? hLast)

end Text

namespace Lines

/-- A line of unbroken lines is unbroken, past the last one too. -/
theorem Unbroken.lineAt {lines : Lines} (h : lines.Unbroken) (n : Nat) :
    (lines.lineAt n).Unbroken := by
  rcases Nat.lt_or_ge n lines.length with hn | hn
  · rw [lineAt_of_lt hn]
    exact h _ (List.getElem_mem hn)
  · rw [lineAt_of_length_le hn]
    exact Text.unbroken_nil

theorem Unbroken.take {lines : Lines} (h : lines.Unbroken) (n : Nat) :
    Unbroken (List.take n lines) :=
  fun l hl => h l (List.mem_of_mem_take hl)

theorem Unbroken.drop {lines : Lines} (h : lines.Unbroken) (n : Nat) :
    Unbroken (List.drop n lines) :=
  fun l hl => h l (List.mem_of_mem_drop hl)

theorem Unbroken.append {lines new : Lines} (h : lines.Unbroken) (hNew : new.Unbroken) :
    Unbroken (lines ++ new) := by
  intro l hl
  rcases List.mem_append.mp hl with hl | hl
  · exact h l hl
  · exact hNew l hl

theorem Unbroken.set {lines : Lines} (h : lines.Unbroken) {l : Text} (hl : l.Unbroken) (n : Nat) :
    Unbroken (List.set lines n l) := by
  intro l' hl'
  rcases List.mem_or_eq_of_mem_set hl' with hl' | rfl
  · exact h l' hl'
  · exact hl

/-- Breaking an unbroken line in two leaves unbroken lines. -/
theorem Unbroken.lineBreak {lines : Lines} (h : lines.Unbroken) (n c : Nat) :
    Unbroken (lines.take n ++ [(lines.lineAt n).take c, (lines.lineAt n).drop c] ++
      lines.drop (n + 1)) := by
  have hSides : Unbroken [(lines.lineAt n).take c, (lines.lineAt n).drop c] := by
    intro l hl
    simp only [List.mem_cons, List.not_mem_nil, or_false] at hl
    rcases hl with rfl | rfl
    · exact (h.lineAt n).take c
    · exact (h.lineAt n).drop c
  exact ((h.take n).append hSides).append (h.drop (n + 1))

theorem Unbroken.map_dropReturn {lines : Lines} (h : lines.Unbroken) :
    lines.map Text.dropReturn = lines := by
  conv_rhs => rw [← List.map_id lines]
  exact List.map_congr_left fun l hl => (h l hl).dropReturn_eq

end Lines

/-- The lines of a document without carriage returns are unbroken. -/
theorem Document.unbroken_lines {d : Document} (h : ∀ l ∈ d.lines, '\r' ∉ l) :
    d.lines.Unbroken :=
  fun l hl => ⟨d.feed_not_mem l hl, h l hl⟩

/-- Documents with the same lines and the same line end are the same. -/
theorem Document.eq_of_lines {d d' : Document} (hLines : d.lines = d'.lines)
    (hEnd : d.lineEnd = d'.lineEnd) : d = d' := by
  cases d
  cases d'
  subst hLines hEnd
  rfl

/-! ## What a line becomes -/

namespace Patch

/-- Every character that is read is from the text or from a patch. -/
theorem mem_readThrough {ps : List Patch} {text : Text} {c : Char}
    (h : c ∈ readThrough ps text) : c ∈ text ∨ ∃ p ∈ ps, c ∈ p.text := by
  obtain ⟨k, -, h⟩ := List.mem_flatMap.mp h
  rw [readAt, List.mem_append, List.mem_append] at h
  rcases h with (h | h) | h
  · obtain ⟨p, hp, hc⟩ := List.mem_flatMap.mp h
    exact Or.inr ⟨p, (List.mem_filter.mp hp).1, hc⟩
  · obtain ⟨p, hp, hc⟩ := List.mem_flatMap.mp h
    exact Or.inr ⟨p, (List.mem_filter.mp hp).1, hc⟩
  · rw [keptAt] at h
    split at h
    · simp at h
    · exact Or.inl (List.mem_of_getElem? (by simpa using h))

/-- A single patch replaces its stretch. -/
theorem readThrough_singleton {p : Patch} {text : Text} (hp : p.start ≤ p.stop)
    (hLen : p.stop ≤ text.length) :
    readThrough [p] text = text.take p.start ++ p.text ++ text.drop p.stop := by
  rw [← land_readThrough hp hLen (by simp), readThrough_nil, land]

end Patch

/-! ## Lines with their edits made -/

namespace Batch

/-- The texts of the edits are unbroken. -/
def Unbroken (edits : List Edit) : Prop :=
  ∀ e ∈ edits, e.text.Unbroken

@[simp]
theorem length_rewrite (edits : List Edit) (lines : Lines) :
    (rewrite edits lines).length = lines.length := by
  simp [rewrite]

theorem lineAt_rewrite {edits : List Edit} {lines : Lines} {n : Nat} (hn : n < lines.length) :
    (rewrite edits lines).lineAt n = rewriteLine edits n (lines.lineAt n) := by
  rw [Lines.lineAt_of_lt (by simpa using hn), Lines.lineAt_of_lt hn]
  simp [rewrite]

theorem rewriteLine_of_onLine_eq_nil {edits : List Edit} {n : Nat} (h : onLine edits n = [])
    (line : Text) : rewriteLine edits n line = line := by
  rw [rewriteLine, h, List.map_nil, Patch.readThrough_nil]

theorem rewrite_nil (lines : Lines) : rewrite [] lines = lines := by
  apply List.ext_getElem
  · simp
  · intro n _ hn
    simp only [rewrite, List.getElem_mapIdx]
    exact rewriteLine_of_onLine_eq_nil rfl _

/-- A line with one edit has the columns of the edit replaced. -/
theorem rewriteLine_of_onLine_eq_singleton {edits : List Edit} {e : Edit} {n : Nat} {line : Text}
    (h : onLine edits n = [e]) (hForward : e.span.start.column ≤ e.span.stop.column)
    (hInside : e.span.stop.column ≤ line.length) :
    rewriteLine edits n line =
      line.take e.span.start.column ++ e.text ++ line.drop e.span.stop.column := by
  rw [rewriteLine, h, List.map_singleton]
  exact Patch.readThrough_singleton hForward hInside

/-- A line with its edits made holds no character that neither the line nor an edit holds. -/
theorem notMem_rewriteLine {edits : List Edit} {line : Text} {c : Char}
    (h : ∀ e ∈ edits, c ∉ e.text) (hLine : c ∉ line) (n : Nat) : c ∉ rewriteLine edits n line := by
  intro hc
  -- A reading writes nothing of its own.
  rcases Patch.mem_readThrough hc with hc | ⟨p, hp, hc⟩
  · exact hLine hc
  · obtain ⟨e, he, rfl⟩ := List.mem_map.mp hp
    exact h e (List.mem_filter.mp he).1 hc

theorem notMem_of_mem_rewrite {edits : List Edit} {lines : Lines} {c : Char}
    (h : ∀ e ∈ edits, c ∉ e.text) (hLines : ∀ l ∈ lines, c ∉ l) :
    ∀ l ∈ rewrite edits lines, c ∉ l := by
  intro l hl
  obtain ⟨n, hn, rfl⟩ := List.mem_iff_getElem.mp hl
  simp only [rewrite, List.getElem_mapIdx]
  exact notMem_rewriteLine h (hLines _ (List.getElem_mem _)) n

theorem Unbroken.rewrite {edits : List Edit} {lines : Lines} (h : Unbroken edits)
    (hLines : lines.Unbroken) : (rewrite edits lines).Unbroken :=
  fun l hl =>
    ⟨notMem_of_mem_rewrite (fun e he => (h e he).1) (fun l hl => (hLines l hl).1) l hl,
      notMem_of_mem_rewrite (fun e he => (h e he).2) (fun l hl => (hLines l hl).2) l hl⟩

/-- Another edit changes its own line and no other. -/
theorem rewrite_append_singleton {edits : List Edit} {lines : Lines} {e : Edit}
    (he : e.span.start.line < lines.length) :
    rewrite (edits ++ [e]) lines =
      (rewrite edits lines).set e.span.start.line
        (Patch.readThrough ((onLine edits e.span.start.line).map Edit.linePatch ++ [e.linePatch])
          (lines.lineAt e.span.start.line)) := by
  apply List.ext_getElem
  · simp
  · intro n hn _
    simp only [rewrite, List.getElem_mapIdx, List.getElem_set]
    split
    · next h =>
      subst h
      rw [Lines.lineAt_of_lt he, rewriteLine, onLine, List.filter_append]
      simp [onLine]
    · next h =>
      rw [rewriteLine, rewriteLine, onLine, List.filter_append]
      simp [onLine, h]

end Batch

/-! ## What a batch leaves -/

namespace Batch

/-- Edits without line feeds leave every line in its place, read again. -/
theorem result_lines_of_feed_notMem {d : Document} {edits : List Edit}
    (hEdits : ∀ e ∈ edits, e.OnLine d.lines) (hTexts : ∀ e ∈ edits, '\n' ∉ e.text) :
    (result d edits).lines = (rewrite edits d.lines).map Text.dropReturn := by
  rw [result_lines hEdits, Lines.flatMap_pieces (notMem_of_mem_rewrite hTexts d.feed_not_mem)]

/-- Unbroken edits of unbroken lines leave nothing to be dropped. -/
theorem result_lines_of_unbroken {d : Document} {edits : List Edit}
    (hLines : d.lines.Unbroken) (hEdits : ∀ e ∈ edits, e.OnLine d.lines)
    (hTexts : Unbroken edits) : (result d edits).lines = rewrite edits d.lines := by
  rw [result_lines_of_feed_notMem hEdits fun e he => (hTexts e he).1,
    (hTexts.rewrite hLines).map_dropReturn]

/-- Lines of which one falls apart into several. -/
theorem flatMap_pieces_set {lines new : Lines} {l : Text} {n : Nat}
    (hLines : ∀ l ∈ lines, '\n' ∉ l) (hn : n < lines.length) (hl : l.pieces = new) :
    (lines.set n l).flatMap Text.pieces = lines.take n ++ new ++ lines.drop (n + 1) := by
  have hTake : (lines.take n).flatMap Text.pieces = lines.take n :=
    Lines.flatMap_pieces fun l hl => hLines l (List.mem_of_mem_take hl)
  have hDrop : (lines.drop (n + 1)).flatMap Text.pieces = lines.drop (n + 1) :=
    Lines.flatMap_pieces fun l hl => hLines l (List.mem_of_mem_drop hl)
  rw [List.set_eq_take_append_cons_drop, if_pos hn, List.flatMap_append, List.flatMap_cons, hTake,
    hDrop, hl, List.append_assoc]

/-- **A line broken in two.** -/
theorem result_lines_lineBreak {d : Document} {n c : Nat} (hLines : d.lines.Unbroken)
    (hn : n < d.lines.length) (hc : c ≤ (d.lines.lineAt n).length) :
    (result d [.insert ⟨n, c⟩ ['\n']]).lines =
      d.lines.take n ++ [(d.lines.lineAt n).take c, (d.lines.lineAt n).drop c] ++
        d.lines.drop (n + 1) := by
  -- The edit stays on its line like any other; only what it writes is a line feed.
  have hOnLine : ∀ e ∈ [Edit.insert ⟨n, c⟩ ['\n']], e.OnLine d.lines := by
    intro e he
    rw [List.mem_singleton.mp he]
    exact Edit.onLine_mk hn (Nat.le_refl c) hc _
  have hRewrite : rewrite [.insert ⟨n, c⟩ ['\n']] d.lines =
      d.lines.set n ((d.lines.lineAt n).take c ++ '\n' :: (d.lines.lineAt n).drop c) := by
    have hAppend : rewrite ([] ++ [.insert ⟨n, c⟩ ['\n']]) d.lines = _ :=
      rewrite_append_singleton hn
    rw [rewrite_nil] at hAppend
    have hRead := Patch.readThrough_singleton (p := ⟨c, c, ['\n'], 0⟩) (Nat.le_refl c) hc
    rw [List.append_assoc, List.singleton_append] at hRead
    rw [← hRead]
    exact hAppend
  have hTake := (hLines.lineAt n).take c
  have hDrop := (hLines.lineAt n).drop c
  have hPieces : Text.pieces ((d.lines.lineAt n).take c ++ '\n' :: (d.lines.lineAt n).drop c) =
      [(d.lines.lineAt n).take c, (d.lines.lineAt n).drop c] := by
    rw [Text.pieces, List.splitOn_append_cons_self]
    exact congr (congrArg _ hTake.pieces_eq) hDrop.pieces_eq
  rw [result_lines hOnLine, hRewrite, flatMap_pieces_set d.feed_not_mem hn hPieces,
    (hLines.lineBreak n c).map_dropReturn]

end Batch

end Outliner
