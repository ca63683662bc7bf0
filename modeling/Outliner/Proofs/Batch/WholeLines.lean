import Outliner.Proofs.Batch.Unbroken
import Outliner.Proofs.LineEnd
import Outliner.Proofs.Lines

/-!
# Outliner — whole lines put in

One edit puts whole lines into a document: in front of a line, with a line feed behind each of them,
or at the end of the last line, with a line feed in front of each. Either way the text is cut again
at its line feeds, and what comes out should be the new lines between the old ones. Other edits of
the same batch do not disturb this, as long as they insert nothing.

What a line can lose in all this is a carriage return at its end, which is taken for a part of the
line end. The lines that are put in are read again like all others.

* `Patch.readThrough_append_insertion` — what an insertion at the end of a batch writes.
* `Lines.onLine_insertion`, `Lines.apart_insertion` — the edit that puts in whole lines.
* `rewrite_append_insertion_of_lt`, `rewrite_append_insertion_of_length_le` — the line it writes on.

Main results:

* `result_lines_append_insertion` — whole lines put in by the last edit of a batch stand before the
  line they were put before, whatever the other edits do.
* `lines_put_in` — the same of the edit alone, with what becomes of carriage returns.
-/

namespace Outliner

/-! ## An insertion at the end of a batch -/

namespace Patch

/-- With an insertion at the end of a batch, its text is written after the other insertions at its
offset, and in front of everything else there. -/
theorem readThrough_append_insertion {s : Nat} {text : Text} (hs : s ≤ text.length)
    (ps : List Patch) (t : Text) (order : Nat) :
    readThrough (ps ++ [⟨s, s, t, order⟩]) text =
      (List.range' 0 s).flatMap (readAt ps text) ++
        (insertedAt ps s ++ t ++ (replacedAt ps s ++ keptAt ps text s)) ++
        readFrom ps text (s + 1) := by
  -- The insertion is the last of its offset, and at every other offset it changes nothing.
  have hAt : ∀ k, readAt (ps ++ [⟨s, s, t, order⟩]) text k =
      insertedAt ps k ++ (if s = k then t else []) ++ replacedAt ps k ++ keptAt ps text k := by
    intro k
    have hCovers : covers ⟨s, s, t, order⟩ k = false := by
      simp [covers]
    have hInsertion : isInsertion ⟨s, s, t, order⟩ = true := by
      simp [isInsertion]
    by_cases hk : s = k
    · subst hk
      simp [readAt, insertedAt, replacedAt, keptAt, hCovers, hInsertion]
    · simp [readAt, insertedAt, replacedAt, keptAt, hCovers, hInsertion, hk]
  have hOther : ∀ k, s ≠ k → readAt (ps ++ [⟨s, s, t, order⟩]) text k = readAt ps text k := by
    intro k hk
    rw [hAt, if_neg hk, List.append_nil, readAt]
  have hBefore : (List.range' 0 s).flatMap (readAt (ps ++ [⟨s, s, t, order⟩]) text) =
      (List.range' 0 s).flatMap (readAt ps text) := by
    apply List.flatMap_congr
    intro k hk
    have hk : k < s := by simpa using hk
    exact hOther k (by omega)
  have hAfter : readFrom (ps ++ [⟨s, s, t, order⟩]) text (s + 1) = readFrom ps text (s + 1) := by
    apply List.flatMap_congr
    intro k hk
    obtain ⟨hk, -⟩ := List.mem_range'_1.mp hk
    exact hOther k (by omega)
  rw [readThrough, readFrom_eq_append (Nat.zero_le s) (by omega), readFrom_succ hs, Nat.sub_zero,
    hBefore, hAfter, hAt, if_pos rfl]
  simp only [List.append_assoc]

theorem readThrough_eq_append {s : Nat} {text : Text} (hs : s ≤ text.length) (ps : List Patch) :
    readThrough ps text =
      (List.range' 0 s).flatMap (readAt ps text) ++ readAt ps text s ++
        readFrom ps text (s + 1) := by
  rw [readThrough, readFrom_eq_append (Nat.zero_le s) (by omega), readFrom_succ hs, Nat.sub_zero,
    List.append_assoc]

/-- Text inserted at the start comes first, unless other insertions there write something. -/
theorem readThrough_append_insertion_zero {ps : List Patch}
    (h : ∀ p ∈ ps, p.start = p.stop → p.text = []) (text t : Text) (order : Nat) :
    readThrough (ps ++ [⟨0, 0, t, order⟩]) text = t ++ readThrough ps text := by
  -- Nothing else is inserted there, so that nothing is written in front.
  have hNone : insertedAt ps 0 = [] := by
    rw [insertedAt, List.flatMap_eq_nil_iff]
    intro p hp
    obtain ⟨hp, hAt⟩ := List.mem_filter.mp hp
    rw [Bool.and_eq_true, isInsertion_iff, beq_iff_eq] at hAt
    exact h p hp hAt.1
  rw [readThrough_append_insertion (Nat.zero_le _), readThrough_eq_append (Nat.zero_le _), readAt,
    hNone]
  simp

/-- Text inserted at the end comes last. -/
theorem readThrough_append_insertion_length {ps : List Patch} {text : Text}
    (h : ∀ p ∈ ps, p.start ≤ p.stop ∧ p.stop ≤ text.length) (t : Text) (order : Nat) :
    readThrough (ps ++ [⟨text.length, text.length, t, order⟩]) text = readThrough ps text ++ t := by
  -- At the end of the text no replacement starts, and no character is left.
  have hRest : replacedAt ps text.length ++ keptAt ps text text.length = [] := by
    have hAt := readAt_length h
    rw [readAt, List.append_assoc] at hAt
    exact List.append_right_eq_self.mp hAt
  have hPast : readFrom ps text (text.length + 1) = [] := by
    simp [readFrom]
  rw [readThrough_append_insertion (Nat.le_refl _), readThrough_eq_append (Nat.le_refl _),
    readAt_length h, hRest, hPast]
  simp

end Patch

/-! ## The edit -/

namespace Lines

/-- The edit that puts in whole lines stays on its line. -/
theorem onLine_insertion {lines : Lines} (h : lines ≠ []) (n : Nat) (new : List Text) :
    (lines.insertion n new).OnLine lines := by
  have hEmpty : lines.isEmpty = false := by simpa using h
  rw [insertion, hEmpty]
  split
  · contradiction
  · split
    · next hn => exact Edit.onLine_mk hn (Nat.le_refl _) (Nat.zero_le _) _
    · exact Edit.onLine_mk (last_lt h) (Nat.le_refl _) (Nat.le_refl _) _

/-- The edit that puts in whole lines is apart from every edit that stays on its line. -/
theorem apart_insertion {lines : Lines} {e : Edit} (h : e.OnLine lines) (n : Nat)
    (new : List Text) : e.Apart (lines.insertion n new) := by
  obtain ⟨m, a, b, t, rfl, -, -, hb⟩ := h.exists_eq
  rw [insertion]
  split
  · exact fun _ => Or.inr (Nat.zero_le _)
  · split
    · exact fun _ => Or.inr (Nat.zero_le _)
    · intro hLine
      have hLine : m = lines.last := hLine
      subst hLine
      exact Or.inl hb

end Lines

namespace Batch

/-- Whole lines put in before a line are written at its start. -/
theorem rewrite_append_insertion_of_lt {edits : List Edit} {lines new : Lines} {n : Nat}
    (hEdits : ∀ e ∈ edits, e.OnLine lines)
    (hIdle : ∀ e ∈ edits, e.span.start = e.span.stop → e.text = []) (hn : n < lines.length) :
    rewrite (edits ++ [lines.insertion n new]) lines =
      (rewrite edits lines).set n (new.joined ++ '\n' :: (rewrite edits lines).lineAt n) := by
  have hEmpty : lines.isEmpty = false := by
    simp only [List.isEmpty_eq_false_iff]
    exact List.ne_nil_of_length_pos (by omega)
  -- The insertion is the last of its batch, so insertions at the same place would come first.
  have hStart : ∀ p ∈ (onLine edits n).map Edit.linePatch, p.start = p.stop → p.text = [] := by
    intro p hp hp'
    obtain ⟨e, he, rfl⟩ := List.mem_map.mp hp
    have he := (List.mem_filter.mp he).1
    obtain ⟨m, a, b, t, rfl, -⟩ := (hEdits e he).exists_eq
    have hab : a = b := hp'
    exact hIdle _ he (by rw [hab]; rfl)
  have hInsertion : lines.insertion n new = .insert ⟨n, 0⟩ (new.joined ++ ['\n']) := by
    simp [Lines.insertion, hEmpty, hn, Lines.joined]
  have hRead := Patch.readThrough_append_insertion_zero hStart (lines.lineAt n)
    (new.joined ++ ['\n']) 0
  rw [List.append_assoc, List.singleton_append] at hRead
  rw [hInsertion, rewrite_append_singleton hn, lineAt_rewrite hn]
  exact congrArg _ hRead

/-- Whole lines put in past the last line are written at its end. -/
theorem rewrite_append_insertion_of_length_le {edits : List Edit} {lines new : Lines} {n : Nat}
    (hLines : lines ≠ []) (hEdits : ∀ e ∈ edits, e.OnLine lines) (hn : lines.length ≤ n) :
    rewrite (edits ++ [lines.insertion n new]) lines =
      (rewrite edits lines).set lines.last
        ((rewrite edits lines).lineAt lines.last ++ '\n' :: new.joined) := by
  have hEmpty : lines.isEmpty = false := by simpa using hLines
  have hLast : lines.last < lines.length := Lines.last_lt hLines
  -- Replacements at the end of the last line end there, in front of the new lines.
  have hInside : ∀ p ∈ (onLine edits lines.last).map Edit.linePatch,
      p.start ≤ p.stop ∧ p.stop ≤ (lines.lineAt lines.last).length := by
    intro p hp
    obtain ⟨e, he, rfl⟩ := List.mem_map.mp hp
    obtain ⟨he, hLine⟩ := List.mem_filter.mp he
    obtain ⟨m, a, b, t, rfl, -, hab, hb⟩ := (hEdits e he).exists_eq
    have hLine : m = lines.last := beq_iff_eq.mp hLine
    subst hLine
    exact ⟨hab, hb⟩
  have hInsertion : lines.insertion n new =
      .insert ⟨lines.last, (lines.lineAt lines.last).length⟩ ('\n' :: new.joined) := by
    simp [Lines.insertion, hEmpty, Nat.not_lt.mpr hn, Lines.joined]
  rw [hInsertion, rewrite_append_singleton hLast]
  congr 1
  rw [lineAt_rewrite hLast]
  exact Patch.readThrough_append_insertion_length hInside _ _

/-- The pieces of the lines with whole lines put in. -/
private theorem flatMap_pieces_rewrite_insertion {edits : List Edit} {lines new : Lines}
    (hNonempty : lines ≠ []) (hLines : ∀ l ∈ lines, '\n' ∉ l)
    (hEdits : ∀ e ∈ edits, e.OnLine lines) (hTexts : ∀ e ∈ edits, '\n' ∉ e.text)
    (hIdle : ∀ e ∈ edits, e.span.start = e.span.stop → e.text = [])
    (hNew : ∀ l ∈ new, '\n' ∉ l) (hNew' : new ≠ []) (n : Nat) :
    (rewrite (edits ++ [lines.insertion n new]) lines).flatMap Text.pieces =
      (rewrite edits lines).take n ++ new ++ (rewrite edits lines).drop n := by
  have hFeed := notMem_of_mem_rewrite hTexts hLines
  have hBlock : new.joined.pieces = new := by
    rw [Lines.pieces_joined hNew', Lines.flatMap_pieces hNew]
  have hLine : ∀ m, m < lines.length →
      Text.pieces ((rewrite edits lines).lineAt m) = [(rewrite edits lines).lineAt m] := by
    intro m hm
    rw [Lines.lineAt_of_lt (by rwa [length_rewrite])]
    exact List.splitOn_eq_singleton (hFeed _ (List.getElem_mem _))
  rcases Nat.lt_or_ge n lines.length with hn | hn
  · -- The new lines are written at the start of line `n`, with a line feed behind them.
    have hPieces : (new.joined ++ '\n' :: (rewrite edits lines).lineAt n).pieces =
        new ++ [(rewrite edits lines).lineAt n] := by
      rw [Text.pieces, List.splitOn_append_cons_self, ← hLine n hn]
      exact congrArg (· ++ _) hBlock
    have hn' : n < (rewrite edits lines).length := by simpa using hn
    rw [rewrite_append_insertion_of_lt hEdits hIdle hn, flatMap_pieces_set hFeed hn' hPieces,
      List.drop_eq_getElem_cons hn', Lines.lineAt_of_lt hn']
    simp only [List.append_assoc, List.singleton_append]
  · -- There is no line `n`: they are written at the end of the last one, the line feed in front.
    have hLast : lines.last + 1 = lines.length := by
      have := List.length_pos_iff.mpr hNonempty
      rw [Lines.last]
      omega
    have hLast' : lines.last < (rewrite edits lines).length := by
      rw [length_rewrite]
      omega
    have hPieces : ((rewrite edits lines).lineAt lines.last ++ '\n' :: new.joined).pieces =
        [(rewrite edits lines).lineAt lines.last] ++ new := by
      rw [Text.pieces, List.splitOn_append_cons_self, ← hLine lines.last (by omega)]
      exact congrArg (_ ++ ·) hBlock
    have hTake : (rewrite edits lines).take n = rewrite edits lines :=
      List.take_of_length_le (by rw [length_rewrite]; exact hn)
    have hSplit : (rewrite edits lines).take lines.last ++
        [(rewrite edits lines).lineAt lines.last] = rewrite edits lines := by
      rw [Lines.lineAt_of_lt hLast', List.take_append_getElem, List.take_of_length_le]
      rw [length_rewrite]
      omega
    rw [rewrite_append_insertion_of_length_le hNonempty hEdits hn,
      flatMap_pieces_set hFeed hLast' hPieces, hTake, ← List.append_assoc, hSplit,
      List.drop_eq_nil_of_le (by rw [length_rewrite]; omega),
      List.drop_eq_nil_of_le (by rw [length_rewrite]; omega)]

/-! ## What is left -/

/-- **Lines put in.** When the last edit of a batch puts in whole lines, they stand before the line
they were put before, between lines that have the other edits made; and then all of them are read
again. Other edits that take nothing out may put nothing in, or their text could stand in front of
the new lines. -/
theorem result_lines_append_insertion {d : Document} {edits : List Edit} {new : Lines}
    (hEdits : ∀ e ∈ edits, e.OnLine d.lines) (hTexts : ∀ e ∈ edits, '\n' ∉ e.text)
    (hIdle : ∀ e ∈ edits, e.span.start = e.span.stop → e.text = [])
    (hNew : ∀ l ∈ new, '\n' ∉ l) (hNew' : new ≠ []) (n : Nat) :
    (result d (edits ++ [d.lines.insertion n new])).lines =
      ((rewrite edits d.lines).take n ++ new ++ (rewrite edits d.lines).drop n).map
        Text.dropReturn := by
  have hOnLine : ∀ e ∈ edits ++ [d.lines.insertion n new], e.OnLine d.lines := by
    intro e he
    rcases List.mem_append.mp he with he | he
    · exact hEdits e he
    · rw [List.mem_singleton.mp he]
      exact Lines.onLine_insertion d.lines_ne_nil n new
  rw [result_lines hOnLine, flatMap_pieces_rewrite_insertion d.lines_ne_nil d.feed_not_mem hEdits
    hTexts hIdle hNew hNew']

/-- Among unbroken lines, with unbroken texts, reading again changes nothing. -/
theorem result_lines_insertion {d : Document} {edits : List Edit} {new : Lines}
    (hLines : d.lines.Unbroken) (hEdits : ∀ e ∈ edits, e.OnLine d.lines)
    (hTexts : Unbroken edits) (hIdle : ∀ e ∈ edits, e.span.start = e.span.stop → e.text = [])
    (hNew : new.Unbroken) (hNew' : new ≠ []) (n : Nat) :
    (result d (edits ++ [d.lines.insertion n new])).lines =
      (rewrite edits d.lines).take n ++ new ++ (rewrite edits d.lines).drop n := by
  have hRewrite := hTexts.rewrite hLines
  rw [result_lines_append_insertion hEdits (fun e he => (hTexts e he).1) hIdle
    (fun l hl => (hNew l hl).1) hNew']
  exact (((hRewrite.take n).append hNew).append (hRewrite.drop n)).map_dropReturn

/-- A document takes whole lines, and reads them again with its own. -/
theorem exists_edit?_insertion (d : Document) {new : Lines} (hNew : ∀ l ∈ new, '\n' ∉ l)
    (hNew' : new ≠ []) (n : Nat) :
    ∃ d', d.edit? [d.lines.insertion n new] = some d' ∧
      d'.lines = (d.lines.take n ++ new ++ d.lines.drop n).map Text.dropReturn ∧
      d'.lineEnd = d.lineEnd := by
  have hResult : (result d ([] ++ [d.lines.insertion n new])).lines = _ :=
    result_lines_append_insertion (by simp) (by simp) (by simp) hNew hNew' n
  rw [List.nil_append, rewrite_nil] at hResult
  -- The edit stays on its line, and there is no other that it could clash with.
  have hFits : Fits d.lines [d.lines.insertion n new] :=
    fits_of_onLine (by simpa using Lines.onLine_insertion d.lines_ne_nil n new)
      (List.pairwise_singleton ..)
  refine ⟨result d [d.lines.insertion n new], ?_, hResult, lineEnd_result d _⟩
  rw [Document.edit?_eq, if_pos hFits]

/-- **Whole lines put in.** A document takes any lines without line feeds, if there is at least one,
before any of its lines or after the last. It then has its old lines in their order, with the new
ones in this place, except that all lines have lost a carriage return at their end. So the old and
the new lines are as they were exactly when none of them had one there. Nothing else changes. -/
theorem lines_put_in {d : Document} {new : Lines} (hNew : new ≠ []) (hFeed : ∀ l ∈ new, '\n' ∉ l)
    (n : Nat) :
    let place := min n d.lines.length
    let spliced := d.lines.take place ++ new ++ d.lines.drop place
    ∃ d', d.edit? [d.lines.insertion n new] = some d' ∧
      d'.lines = spliced.map Text.dropReturn ∧
      (d'.lines = spliced ↔
        (∀ l ∈ d.lines, l.getLast? ≠ some '\r') ∧ ∀ l ∈ new, l.getLast? ≠ some '\r') ∧
      d'.lineEnd = d.lineEnd := by
  intro place spliced
  have hSpliced : spliced = d.lines.take n ++ new ++ d.lines.drop n := by
    rcases Nat.le_total n d.lines.length with hn | hn
    · simp only [spliced, place, Nat.min_eq_left hn]
    · simp only [spliced, place, Nat.min_eq_right hn, List.take_of_length_le hn,
        List.drop_eq_nil_of_le hn, List.take_length, List.drop_length]
  obtain ⟨d', hEdit, hLines, hEnd⟩ := exists_edit?_insertion d hFeed hNew n
  rw [← hSpliced] at hLines
  refine ⟨d', hEdit, hLines, ?_, hEnd⟩
  -- The spliced lines are the old lines and the new ones.
  have hMem : ∀ l, l ∈ spliced ↔ l ∈ d.lines ∨ l ∈ new := by
    intro l
    conv_rhs => rw [← List.take_append_drop place d.lines]
    simp only [spliced, List.mem_append]
    tauto
  calc d'.lines = spliced
      ↔ spliced.map Text.dropReturn = spliced.map id := by rw [hLines, List.map_id]
    _ ↔ ∀ l ∈ spliced, l.dropReturn = l := List.map_inj_left
    _ ↔ ∀ l ∈ spliced, l.getLast? ≠ some '\r' :=
        forall₂_congr fun l _ => Text.dropReturn_eq_self_iff
    _ ↔ _ := by simp only [hMem, or_imp, forall_and]

/-- Two lines, the second of them empty, past the end of a document whose lines are empty. -/
theorem lines_put_in_past_the_end :
    let d := Document.ofText "\r\n".toList
    let new : Lines := ["* a".toList, []]
    new ≠ [] ∧ (∀ l ∈ new, '\n' ∉ l) ∧
      ∃ d', d.edit? [d.lines.insertion 7 new] = some d' ∧
        d'.lines = [[], [], "* a".toList, []] ∧ d'.lineEnd = .returnFeed := by
  intro d new
  have hNew : new ≠ [] := by decide
  have hFeed : ∀ l ∈ new, '\n' ∉ l := by decide
  obtain ⟨d', hEdit, hLines, -, hEnd⟩ := lines_put_in (d := d) hNew hFeed 7
  exact ⟨hNew, hFeed, d', hEdit, hLines, hEnd⟩

end Batch

end Outliner
