import Mathlib.Logic.Function.Iterate
import Outliner.Proofs.Batch.OneLine
import Outliner.Proofs.Heading
import Outliner.Proofs.Heading.Layout

/-!
# Outliner — cycling the keyword of a heading

The command puts a keyword in, replaces it, or takes it out, on columns that it computes from the
line. What the line says afterwards is a matter of reading it again. The gap in front of the slot
stays, and so does what stands behind it: the other parts of the heading are read from the same text
as before — unless the keyword is taken out and what stood behind it opens with a keyword of its own,
which then takes the place.

* `Heading.turned` — a body with the next keyword of the cycle.
* `Heading.frontOf`, `Heading.behind` — what stands in front of the keyword, and behind it.
* `Heading.cycled` — a document after a number of steps of the cycle.

Main results:

* `exists_edit?_cycle` — one step on the text of a document.
* `cycle_slot_only` — what one step leaves of the heading.
* `cycle_closes` — the words in their order, and then the document as it was.
-/

namespace Outliner.Heading

variable {keywords : Keywords} {d : Document} {line gap t word next rest : Text} {level n i : Nat}

/-! ## A body with the next keyword -/

/-- The body of a heading with the next keyword of the cycle: it is put in with a space behind it,
or takes the place of the old one; past the last keyword, what stands behind it is left. -/
def turned (keywords : Keywords) (t : Text) : Text :=
  match (takeKeyword keywords t).1, keywords.next? (takeKeyword keywords t).1 with
  | none, none => t
  | none, some next => next ++ ' ' :: t
  | some current, some next => next ++ t.drop current.length
  | some _, none => (takeKeyword keywords t).2

/-- A keyword with a space behind it opens any text that is not indented. -/
theorem opens_of_mem (hWords : keywords.Words) (hWord : word ∈ keywords.all)
    (ht : t.indent = 0) : Opens keywords (word ++ ' ' :: t) word [' '] t where
  eq := rfl
  word_mem := hWord
  word_ne_nil := hWords.ne_nil word hWord
  word_solid := hWords.solid word hWord
  gap_blank := by simp [Text.isSpaceOrTab]
  rest_of_gap := by simp
  indent_rest := ht

/-- **The next keyword** is read in front of what stood behind the old one. -/
theorem takeKeyword_turned_of_next (hWords : keywords.Words) (ht : t.indent = 0)
    (hNext : keywords.next? (takeKeyword keywords t).1 = some next) :
    takeKeyword keywords (turned keywords t) = (some next, (takeKeyword keywords t).2) := by
  have hMem := Keywords.mem_all_of_next? hNext
  unfold turned
  rw [hNext]
  rcases takeKeyword_eq_or keywords t with hNone | ⟨word, gap, rest, h⟩
  · rw [hNone]
    exact (opens_of_mem hWords hMem ht).takeKeyword_eq
  · rw [h.takeKeyword_eq]
    dsimp only
    -- The gap behind the old keyword is left to the new one.
    have hRest : t.drop word.length = gap ++ rest := by rw [h.eq, List.drop_left]
    rw [hRest]
    have hOpens : Opens keywords (next ++ (gap ++ rest)) next gap rest :=
      ⟨rfl, hMem, hWords.ne_nil next hMem, hWords.solid next hMem, h.gap_blank, h.rest_of_gap,
        h.indent_rest⟩
    exact hOpens.takeKeyword_eq

/-- Past the last keyword, what stood behind it is left. -/
theorem turned_of_next_eq_none (hNext : keywords.next? (takeKeyword keywords t).1 = none) :
    turned keywords t = (takeKeyword keywords t).2 := by
  unfold turned
  rw [hNext]
  rcases takeKeyword_eq_or keywords t with hNone | ⟨word, gap, rest, h⟩
  · rw [hNone]
  · rw [h.takeKeyword_eq]

/-- A new keyword stands in front of a space and the body, or of a part of the body. -/
theorem exists_turned_eq (hNext : keywords.next? (takeKeyword keywords t).1 = some next) :
    ∃ after, turned keywords t = next ++ after ∧ ∀ c ∈ after, c = ' ' ∨ c ∈ t := by
  unfold turned
  rw [hNext]
  cases (takeKeyword keywords t).1 with
  | none => exact ⟨_, rfl, fun c hc => List.mem_cons.mp hc⟩
  | some word => exact ⟨_, rfl, fun c hc => Or.inr (List.mem_of_mem_drop hc)⟩

/-- Keywords are not indented, so neither is a body with another keyword. -/
theorem indent_turned (hWords : keywords.Words) (ht : t.indent = 0) :
    (turned keywords t).indent = 0 := by
  cases hNext : keywords.next? (takeKeyword keywords t).1 with
  | none =>
    rw [turned_of_next_eq_none hNext]
    exact indent_takeKeyword ht
  | some next =>
    have hMem := Keywords.mem_all_of_next? hNext
    obtain ⟨after, hTurned, -⟩ := exists_turned_eq hNext
    rw [hTurned]
    exact Text.indent_append_eq_zero_of_solid (hWords.ne_nil next hMem) (hWords.solid next hMem)
      after

theorem unbroken_turned (hWords : keywords.Words) (ht : t.Unbroken) :
    (turned keywords t).Unbroken := by
  cases hNext : keywords.next? (takeKeyword keywords t).1 with
  | none =>
    rw [turned_of_next_eq_none hNext]
    rcases takeKeyword_eq_or keywords t with hNone | ⟨word, gap, rest, h⟩
    · rwa [hNone]
    · rw [h.takeKeyword_eq]
      exact ht.of_subset fun c hc => by simp [h.eq, hc]
  | some next =>
    obtain ⟨after, hTurned, hAfter⟩ := exists_turned_eq hNext
    have hMem := hWords.solid next (Keywords.mem_all_of_next? hNext)
    rw [hTurned, Text.unbroken_append_iff]
    refine ⟨Text.unbroken_of_solid hMem, ?_, ?_⟩
    · exact fun hc => (hAfter _ hc).elim (by decide) ht.1
    · exact fun hc => (hAfter _ hc).elim (by decide) ht.2

/-! ## One step on a document -/

/-- **The edit of a step** writes the slot alone: another opening in front of what is left. -/
theorem cycleEdit?_cases {body : Text} {lines : Lines} (hWords : keywords.Words)
    (h : Layout (lines.lineAt n) level gap body) :
    cycleEdit? keywords lines n = none ∧ turned keywords body = body ∨
      ∃ old new rest, body = old ++ rest ∧ turned keywords body = new ++ rest ∧ new.Unbroken ∧
        cycleEdit? keywords lines n =
          some ⟨.onLine n (level + gap.length) (level + gap.length + old.length), new⟩ := by
  have hUnbroken : ∀ current next, keywords.next? current = some next → Text.Unbroken next :=
    fun _ next hNext => Text.unbroken_of_solid (hWords.solid next (Keywords.mem_all_of_next? hNext))
  unfold cycleEdit? turned
  simp only [h.parse?_eq, Option.bind_eq_bind, Option.bind_some, ofBody, h.indent_drop_level]
  rcases takeKeyword_eq_or keywords body with hNone | ⟨word, gap', rest, hOpens⟩
  · rw [hNone]
    cases hNext : keywords.next? none with
    | none => exact Or.inl ⟨rfl, rfl⟩
    | some next =>
      -- The keyword is put in with a space, in front of the whole body.
      refine Or.inr ⟨[], next ++ [' '], body, rfl, by simp, ?_, rfl⟩
      simp [hUnbroken _ _ hNext]
  · rw [hOpens.takeKeyword_eq]
    have hBehind : (lines.lineAt n).drop (level + gap.length + word.length) = gap' ++ rest := by
      rw [← List.drop_drop, h.drop_front, hOpens.eq, List.drop_left]
    cases hNext : keywords.next? (some word) with
    | none =>
      -- The keyword goes together with the gap behind it.
      refine Or.inr ⟨word ++ gap', [], rest, ?_, rfl, Text.unbroken_nil, ?_⟩
      · rw [hOpens.eq, List.append_assoc]
      · dsimp only
        rw [hBehind, Text.indent_append hOpens.gap_blank hOpens.indent_rest, List.length_append,
          ← Nat.add_assoc]
        rfl
    | some next =>
      -- The old keyword is replaced, and its gap is left.
      refine Or.inr ⟨word, next, gap' ++ rest, hOpens.eq, ?_, hUnbroken _ _ hNext, rfl⟩
      dsimp only
      rw [hOpens.eq, List.drop_left]

/-- **One step of the cycle** turns the body of the heading. -/
theorem exists_edit?_cycle {body : Text} (hWords : keywords.Words) (hLines : d.lines.Unbroken)
    (h : Layout (d.lines.lineAt n) level gap body) :
    ∃ d', d.edit? (cycleEdit? keywords d.lines n).toList = some d' ∧
      d'.lines = d.lines.set n (List.replicate level '*' ++ (gap ++ turned keywords body)) ∧
      d'.lineEnd = d.lineEnd := by
  rcases cycleEdit?_cases hWords h with ⟨hEdit, hSame⟩ |
    ⟨old, new, rest, hOld, hTurned, hNew, hEdit⟩
  · -- Nothing to write: the document is read again.
    have hn : n < d.lines.length := lt_length_of_levelOf_pos (h.levelOf_eq ▸ h.level_pos)
    obtain ⟨d', hRead, hLines', hEnd⟩ := Batch.edit?_nil d
    refine ⟨d', by rw [hEdit]; exact hRead, ?_, hEnd⟩
    rw [hLines', hLines.map_dropReturn, hSame, ← h.eq, Lines.set_lineAt hn]
  · rw [hEdit, hTurned]
    rw [hOld] at h
    exact exists_edit?_body hLines h hNew

/-! ## The slot alone -/

/-- The stars of a heading line and the gap behind them. -/
def frontOf (line : Text) : Text :=
  line.take (levelOf line + Text.indent (line.drop (levelOf line)))

/-- What stands behind the keyword of a heading line and the gap that follows it; without a keyword,
the whole body. -/
def behind (keywords : Keywords) (line : Text) : Text :=
  (takeKeyword keywords (bodyOf line)).2

theorem Layout.frontOf_eq {body : Text} (h : Layout line level gap body) :
    frontOf line = List.replicate level '*' ++ gap := by
  unfold frontOf
  rw [h.levelOf_eq, h.indent_drop_level, h.take_front]

/-- With another keyword in front of the same text, a body is read as the same heading otherwise. -/
theorem ofBody_of_takeKeyword_eq {t' : Text} {keyword : Option Text}
    (h : takeKeyword keywords t' = (keyword, (takeKeyword keywords t).2)) (level : Nat) :
    ofBody keywords level t' = { ofBody keywords level t with keyword } := by
  simp only [ofBody, h]

/-- A body with the next keyword differs in the keyword alone, unless another one is uncovered. -/
theorem ofBody_turned_eq_iff (hWords : keywords.Words) (ht : t.indent = 0) (level : Nat) :
    ofBody keywords level (turned keywords t) =
        { ofBody keywords level t with keyword := keywords.next? (takeKeyword keywords t).1 } ↔
      ¬(keywords.next? (takeKeyword keywords t).1 = none ∧
        ∃ word gap rest, Opens keywords (takeKeyword keywords t).2 word gap rest) := by
  cases hNext : keywords.next? (takeKeyword keywords t).1 with
  | some next =>
    have hSame := ofBody_of_takeKeyword_eq (takeKeyword_turned_of_next hWords ht hNext) level
    exact ⟨fun _ h => Option.some_ne_none next h.1, fun _ => hSame⟩
  | none =>
    rw [turned_of_next_eq_none hNext]
    constructor
    · -- A keyword that is uncovered would be read.
      rintro hSame ⟨-, word, gap, rest, hOpens⟩
      have hKeyword := congrArg Heading.keyword hSame
      rw [ofBody, hOpens.takeKeyword_eq] at hKeyword
      exact Option.some_ne_none word hKeyword
    · intro hNone
      apply ofBody_of_takeKeyword_eq
      rw [takeKeyword_eq_none_iff]
      exact fun hOpens => hNone ⟨rfl, hOpens⟩

/-- **Cycling touches the keyword slot only.** The step writes another opening for the body of the
heading, and no other line. The line then reads as the same heading with the next keyword of the
cycle, except where the cycle takes the keyword out and what stood behind it opens with a keyword:
there that word is read as the keyword. The level stays in any case. -/
theorem cycle_slot_only {h : Heading} {e : Edit} (hWords : keywords.Words)
    (hReturn : ∀ l ∈ d.lines, '\r' ∉ l) (hParse : parse? keywords (d.lines.lineAt n) = some h)
    (hCycle : cycleEdit? keywords d.lines n = some e) :
    ∃ d' h', d.edit? [e] = some d' ∧ d'.lineEnd = d.lineEnd ∧
      d'.lines = d.lines.set n
        (frontOf (d.lines.lineAt n) ++ turned keywords (bodyOf (d.lines.lineAt n))) ∧
      parse? keywords (d'.lines.lineAt n) = some h' ∧ h'.level = h.level ∧
      (h' = { h with keyword := keywords.next? h.keyword } ↔
        ¬(keywords.next? h.keyword = none ∧
          ∃ word gap rest, Opens keywords (behind keywords (d.lines.lineAt n)) word gap rest)) ∧
      (keywords.next? h.keyword = none → ∀ word gap rest,
        Opens keywords (behind keywords (d.lines.lineAt n)) word gap rest →
          h'.keyword = some word) := by
  have hn := lt_length_of_parse? hParse
  obtain ⟨gap, hLayout⟩ := exists_layout (levelOf_pos_of_parse? hParse)
  obtain ⟨d', hEdit, hLines, hEnd⟩ :=
    exists_edit?_cycle hWords (Document.unbroken_lines hReturn) hLayout
  rw [hCycle, Option.toList_some] at hEdit
  -- Both lines are read from their bodies.
  obtain rfl := ofBody_of_parse? hParse
  have hBody := hLayout.indent_body
  have hParse' : parse? keywords (d'.lines.lineAt n) = some (ofBody keywords
      (levelOf (d.lines.lineAt n)) (turned keywords (bodyOf (d.lines.lineAt n)))) := by
    rw [hLines, Lines.lineAt_set_self hn]
    exact (hLayout.with_body (indent_turned hWords hBody)).parse?_eq keywords
  refine ⟨d', _, hEdit, hEnd, ?_, hParse', rfl, ofBody_turned_eq_iff hWords hBody _, ?_⟩
  · rw [hLayout.frontOf_eq, List.append_assoc]
    exact hLines
  · intro hNext word gap' rest hOpens
    rw [turned_of_next_eq_none hNext]
    exact congrArg Prod.fst hOpens.takeKeyword_eq

theorem cycle_slot_only_task :
    ∃ d', (Document.ofText "** TODO  Task :x:".toList).edit? [⟨.onLine 0 3 7, "DONE".toList⟩] =
        some d' ∧
      parse? .standard (d'.lines.lineAt 0) = some
        { level := 2, keyword := some "DONE".toList, title := "Task".toList, tags := [['x']] } := by
  have hParse : parse? .standard ((Document.ofText "** TODO  Task :x:".toList).lines.lineAt 0) =
      some { level := 2, keyword := some "TODO".toList, title := "Task".toList,
             tags := [['x']] } := by
    decide
  have hCycle : cycleEdit? .standard (Document.ofText "** TODO  Task :x:".toList).lines 0 =
      some ⟨.onLine 0 3 7, "DONE".toList⟩ := by
    decide
  obtain ⟨d', h', hEdit, -, -, hParse', -, hSame, -⟩ :=
    cycle_slot_only Keywords.words_standard (by decide) hParse hCycle
  -- The keyword is replaced, so there is nothing to uncover.
  refine ⟨d', hEdit, hParse'.trans (congrArg some (hSame.mpr ?_))⟩
  exact fun hNone => absurd hNone.1 (by decide)

/-- A task called TODO that is done: without its keyword the line says that there is something to
do, and the title is gone. -/
theorem title_read_as_keyword :
    let d := Document.ofText "* DONE TODO".toList
    Keywords.standard.Words ∧ Keywords.standard.all.Nodup ∧ (∀ l ∈ d.lines, '\r' ∉ l) ∧
      parse? .standard (d.lines.lineAt 0) =
        some { level := 1, keyword := some "DONE".toList, title := "TODO".toList } ∧
      Keywords.standard.next? (some "DONE".toList) = none ∧
      ∃ e d', cycleEdit? .standard d.lines 0 = some e ∧ d.edit? [e] = some d' ∧
        parse? .standard (d'.lines.lineAt 0) =
          some { level := 1, keyword := some "TODO".toList, title := [] } := by
  refine ⟨Keywords.words_standard, by decide, by decide, by decide, by decide, ?_⟩
  exact ⟨⟨.onLine 0 2 7, []⟩, Document.ofText "* TODO".toList, by decide, by decide, by decide⟩

/-! ## The whole cycle -/

/-- The document after so many steps of the cycle on the heading of line `n`. -/
def cycled (keywords : Keywords) (n : Nat) : Nat → Document → Option Document
  | 0, d => some d
  | i + 1, d => (cycled keywords n i d).bind fun d' =>
    d'.edit? (cycleEdit? keywords d'.lines n).toList

/-- **After any number of steps** the body has been turned as often, and the rest is as it was. -/
theorem exists_cycled {body : Text} (hWords : keywords.Words) (hLines : d.lines.Unbroken)
    (h : Layout (d.lines.lineAt n) level gap body) (i : Nat) :
    ∃ d', cycled keywords n i d = some d' ∧
      d'.lines = d.lines.set n
        (List.replicate level '*' ++ (gap ++ (turned keywords)^[i] body)) ∧
      d'.lineEnd = d.lineEnd := by
  have hn : n < d.lines.length := lt_length_of_levelOf_pos (h.levelOf_eq ▸ h.level_pos)
  have hLine : Text.Unbroken (List.replicate level '*' ++ (gap ++ body)) := by
    rw [← h.eq]
    exact hLines.lineAt n
  rw [Text.unbroken_append_iff, Text.unbroken_append_iff] at hLine
  obtain ⟨hStars, hGap, hBody⟩ := hLine
  have hTurned : ∀ i, Text.indent ((turned keywords)^[i] body) = 0 ∧
      Text.Unbroken ((turned keywords)^[i] body) :=
    Function.Iterate.rec (fun t => Text.indent t = 0 ∧ Text.Unbroken t) ⟨h.indent_body, hBody⟩
      fun _ ht => ⟨indent_turned hWords ht.1, unbroken_turned hWords ht.2⟩
  -- On the number of steps: each one finds a heading with the same front and an unbroken body.
  induction i with
  | zero =>
    refine ⟨d, rfl, ?_, rfl⟩
    rw [Function.iterate_zero_apply, ← h.eq, Lines.set_lineAt hn]
  | succ i ih =>
    obtain ⟨d₁, hCycled, hLines₁, hEnd₁⟩ := ih
    have hLayout : Layout (d₁.lines.lineAt n) level gap ((turned keywords)^[i] body) := by
      rw [hLines₁, Lines.lineAt_set_self hn]
      exact h.with_body (hTurned i).1
    have hUnbroken : d₁.lines.Unbroken := by
      rw [hLines₁]
      apply hLines.set
      rw [Text.unbroken_append_iff, Text.unbroken_append_iff]
      exact ⟨hStars, hGap, (hTurned i).2⟩
    obtain ⟨d', hEdit, hLines', hEnd'⟩ := exists_edit?_cycle hWords hUnbroken hLayout
    refine ⟨d', ?_, ?_, hEnd'.trans hEnd₁⟩
    · rw [cycled, hCycled, Option.bind_some, hEdit]
    · rw [hLines', hLines₁, List.set_set, Function.iterate_succ_apply']

/-- **The words come in their order**, each in front of the body that had no keyword. -/
theorem iterate_turned_succ (hWords : keywords.Words) (hDistinct : keywords.all.Nodup)
    (ht : t.indent = 0) (hNone : takeKeyword keywords t = (none, t))
    (h : keywords.all[i]? = some word) : (turned keywords)^[i + 1] t = word ++ ' ' :: t := by
  -- On the place of the word: the first one is put in, and each next one replaces the one before.
  induction i generalizing word with
  | zero =>
    rw [Function.iterate_succ_apply', Function.iterate_zero_apply]
    unfold turned
    rw [hNone, Keywords.next?_none, h]
  | succ i ih =>
    obtain ⟨hi, -⟩ := List.getElem?_eq_some_iff.mp h
    have hPrev := List.getElem?_eq_getElem (Nat.lt_of_succ_lt hi)
    have hOpens := opens_of_mem hWords (List.mem_of_getElem? hPrev) ht
    rw [Function.iterate_succ_apply', ih hPrev]
    unfold turned
    rw [hOpens.takeKeyword_eq, Keywords.next?_of_getElem? hDistinct hPrev, h]
    dsimp only
    rw [List.drop_left]

/-- One step more than there are words, and the body is what it was. -/
theorem iterate_turned_length (hWords : keywords.Words) (hDistinct : keywords.all.Nodup)
    (ht : t.indent = 0) (hNone : takeKeyword keywords t = (none, t)) :
    (turned keywords)^[keywords.all.length + 1] t = t := by
  rw [Function.iterate_succ_apply']
  cases hLength : keywords.all.length with
  | zero =>
    have hNext : keywords.next? none = none := by
      rw [Keywords.next?_none]
      exact List.getElem?_eq_none (Nat.le_of_eq hLength)
    rw [Function.iterate_zero_apply]
    unfold turned
    rw [hNone, hNext]
  | succ i =>
    -- The last word is taken out with the space that was put in behind the first one.
    obtain ⟨last, hLast⟩ : ∃ last, keywords.all[i]? = some last :=
      ⟨_, List.getElem?_eq_getElem (by omega)⟩
    have hOpens := opens_of_mem hWords (List.mem_of_getElem? hLast) ht
    have hNext : keywords.next? (some last) = none := by
      rw [Keywords.next?_of_getElem? hDistinct hLast]
      exact List.getElem?_eq_none (Nat.le_of_eq hLength)
    rw [iterate_turned_succ hWords hDistinct ht hNone hLast]
    unfold turned
    rw [hOpens.takeKeyword_eq, hNext]

/-- **The cycle closes.** From a heading without a keyword, the steps go through the words in their
order, with nothing else of the heading changed, and one step more restores the document. -/
theorem cycle_closes {h : Heading} (hWords : keywords.Words) (hDistinct : keywords.all.Nodup)
    (hReturn : ∀ l ∈ d.lines, '\r' ∉ l) (hParse : parse? keywords (d.lines.lineAt n) = some h)
    (hKeyword : h.keyword = none) :
    (∀ i word, keywords.all[i]? = some word →
      ∃ d', cycled keywords n (i + 1) d = some d' ∧
        parse? keywords (d'.lines.lineAt n) = some { h with keyword := some word }) ∧
      cycled keywords n (keywords.all.length + 1) d = some d := by
  have hn := lt_length_of_parse? hParse
  have hLines := Document.unbroken_lines hReturn
  obtain ⟨gap, hLayout⟩ := exists_layout (levelOf_pos_of_parse? hParse)
  have hBody := hLayout.indent_body
  obtain rfl := ofBody_of_parse? hParse
  have hNone := takeKeyword_eq_of_fst_eq_none hKeyword
  constructor
  · -- The word stands in front of the body that was read before, and only it is new.
    intro i word hWord
    obtain ⟨d', hCycled, hLines', -⟩ := exists_cycled hWords hLines hLayout (i + 1)
    have hTurned := iterate_turned_succ hWords hDistinct hBody hNone hWord
    have hOpens := opens_of_mem hWords (List.mem_of_getElem? hWord) hBody
    refine ⟨d', hCycled, ?_⟩
    have hIndent : Text.indent (word ++ ' ' :: bodyOf (d.lines.lineAt n)) = 0 :=
      Text.indent_append_eq_zero_of_solid hOpens.word_ne_nil hOpens.word_solid _
    rw [hLines', Lines.lineAt_set_self hn, hTurned, (hLayout.with_body hIndent).parse?_eq]
    congr 1
    apply ofBody_of_takeKeyword_eq
    rw [hOpens.takeKeyword_eq, hNone]
  · obtain ⟨d', hCycled, hLines', hEnd⟩ :=
      exists_cycled hWords hLines hLayout (keywords.all.length + 1)
    rw [hCycled, Option.some.injEq]
    apply Document.eq_of_lines _ hEnd
    rw [hLines', iterate_turned_length hWords hDistinct hBody hNone, ← hLayout.eq,
      Lines.set_lineAt hn]

theorem cycle_closes_task :
    cycled .standard 0 3 (Document.ofText "** Task :x:".toList) =
        some (Document.ofText "** Task :x:".toList) ∧
      ∃ d', cycled .standard 0 2 (Document.ofText "** Task :x:".toList) = some d' ∧
        parse? .standard (d'.lines.lineAt 0) =
          some { level := 2, keyword := some "DONE".toList, title := "Task".toList,
                 tags := [['x']] } := by
  have hParse : parse? .standard ((Document.ofText "** Task :x:".toList).lines.lineAt 0) =
      some { level := 2, title := "Task".toList, tags := [['x']] } := by
    decide
  obtain ⟨hWord, hClosed⟩ :=
    cycle_closes Keywords.words_standard (by decide) (by decide) hParse rfl
  exact ⟨hClosed, hWord 1 "DONE".toList (by decide)⟩

end Outliner.Heading
