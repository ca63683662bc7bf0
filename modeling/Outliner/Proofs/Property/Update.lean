import Outliner.Proofs.Drawer
import Outliner.Proofs.Plan.Shape
import Outliner.Property.Update

/-!
# Outliner — a property that is set can be looked up

There are three ways to set a property: another text for its entry line, a new line at the end of
the drawer, or a whole new drawer. Each of them writes for a reader that starts from the heading
again and knows nothing of it. The reader has to come to the drawer that was written to, past what
stands before it, and in the drawer to the line that was written, before any other entry for the
key.

* `Update` — the lines after each of the three ways.
* `Written` — what the reader finds: the drawer, and in it the line that states the property.

Main results:

* `exists_update` — the edits are taken, and are one of the three ways.
* `Update.exists_written` — in each of them the reader finds what was written.
* `lookup_after_set` — a property that is set can be looked up, and setting it again changes
  nothing.
-/

namespace Outliner.Property

variable {config : Config} {lines lines' : Lines} {n m indent : Nat} {drawer : Drawer}
  {found : Option Drawer} {line key value id : Text} {old : Property} {ids : IdSupply}

/-! ## The three ways -/

/-- The lines after the heading on line `n` has been given a property. -/
inductive Update (config : Config) (lines : Lines) (n : Nat) (key value id : Text) :
    Lines → Prop where
  /-- The entry for the key has another text. -/
  | replaced {drawer : Drawer} {m : Nat} {old : Property}
      (hDrawer : Drawer.below? config lines n = .ok (some drawer))
      (hEntry : drawer.FirstEntry lines key m old) :
      Update config lines n key value id (lines.set m (render ⟨old.indent, key, value⟩))
  /-- The drawer has a new last line. -/
  | appended {drawer : Drawer} (hDrawer : Drawer.below? config lines n = .ok (some drawer))
      (hNone : drawer.find? lines key = none) :
      Update config lines n key value id (lines.take drawer.stop ++
        [render ⟨entryIndent lines drawer, key, value⟩] ++ lines.drop drawer.stop)
  /-- There is a new drawer. -/
  | created (hNone : Drawer.below? config lines n = .ok none) :
      Update config lines n key value id (lines.take (newDrawerLine lines n) ++
        newDrawer key value id ++ lines.drop (newDrawerLine lines n))

theorem unbroken_render (hKey : key.Unbroken) (hValue : value.Unbroken) (indent : Nat) :
    (render ⟨indent, key, value⟩).Unbroken := by
  have hAfter : (afterKey value).Unbroken := by
    rw [afterKey]
    split
    · exact Text.unbroken_nil
    · exact Text.unbroken_cons_iff.mpr ⟨by decide, hValue⟩
  rw [render_eq, Text.unbroken_append_iff, Text.unbroken_cons_iff, Text.unbroken_append_iff,
    Text.unbroken_cons_iff]
  exact ⟨Text.unbroken_spaces indent, by decide, hKey, by decide, hAfter⟩

theorem unbroken_newDrawer (hKey : key.Unbroken) (hValue : value.Unbroken) (hId : id.Unbroken) :
    Lines.Unbroken (newDrawer key value id) := by
  have hIdKey : idKey.Unbroken := by
    constructor <;> decide
  intro l hl
  simp only [newDrawer, List.mem_append, List.mem_cons, List.not_mem_nil, or_false] at hl
  rcases hl with (rfl | hl) | rfl | rfl
  · constructor <;> decide
  · split at hl
    · contradiction
    · rw [List.mem_singleton.mp hl]
      exact unbroken_render hIdKey hId 0
  · exact unbroken_render hKey hValue 0
  · constructor <;> decide

/-- Where there is an answer about the drawer, there are edits. -/
theorem setEdits_of_below? (h : Drawer.below? config lines n = .ok found) (key value : Text)
    (ids : IdSupply) :
    setEdits config lines n key value ids = .ok (editsAt lines n found key value ids) := by
  rw [setEdits, h]
  rfl

/-- **The edits are taken,** and are one of the three ways. -/
theorem exists_update {d : Document} (hFound : Drawer.below? config d.lines n = .ok found)
    (hLines : d.lines.Unbroken) (hKey : key.upper.Unbroken) (hValue : value.trim.Unbroken)
    (hId : ids.fresh.Unbroken) :
    ∃ d', d.edit? (editsAt d.lines n found key value ids).1 = some d' ∧ d'.lines.Unbroken ∧
      d'.lineEnd = d.lineEnd ∧
      Update config d.lines n key.upper value.trim ids.fresh d'.lines := by
  have hRender := unbroken_render hKey hValue
  -- Lines that are put in are taken by the document, whatever they are.
  have hPutIn : ∀ {new : Lines}, new.Unbroken → new ≠ [] → ∀ q,
      ∃ d', d.edit? [d.lines.insertion q new] = some d' ∧ d'.lines.Unbroken ∧
        d'.lineEnd = d.lineEnd ∧ d'.lines = d.lines.take q ++ new ++ d.lines.drop q := by
    intro new hNew hNew' q
    have hUnbroken := ((hLines.take q).append hNew).append (hLines.drop q)
    obtain ⟨d', hEdit, hResult, hEnd⟩ :=
      Batch.exists_edit?_insertion d (fun l hl => (hNew l hl).1) hNew' q
    rw [hUnbroken.map_dropReturn] at hResult
    exact ⟨d', hEdit, hResult ▸ hUnbroken, hEnd, hResult⟩
  cases found with
  | some drawer =>
    cases hFind : drawer.find? d.lines key.upper with
    | some entry =>
      obtain ⟨m, old⟩ := entry
      have hEntry := Drawer.find?_eq_some_iff.mp hFind
      obtain ⟨d', hEdit, hResult, hEnd⟩ :=
        Batch.exists_edit?_spanOf hLines hEntry.lt_length (hRender old.indent)
      simp only [editsAt, hFind]
      refine ⟨d', hEdit, ?_, hEnd, ?_⟩
      · rw [hResult]
        exact hLines.set (hRender old.indent) m
      · rw [hResult]
        exact .replaced hFound hEntry
    | none =>
      have hEntry :
          Lines.Unbroken [render ⟨entryIndent d.lines drawer, key.upper, value.trim⟩] := by
        intro l hl
        rw [List.mem_singleton.mp hl]
        exact hRender _
      obtain ⟨d', hEdit, hUnbroken, hEnd, hResult⟩ := hPutIn hEntry (by simp) drawer.stop
      simp only [editsAt, hFind]
      exact ⟨d', hEdit, hUnbroken, hEnd, hResult ▸ .appended hFound hFind⟩
  | none =>
    obtain ⟨d', hEdit, hUnbroken, hEnd, hResult⟩ :=
      hPutIn (unbroken_newDrawer hKey hValue hId) (by simp [newDrawer]) (newDrawerLine d.lines n)
    exact ⟨d', hEdit, hUnbroken, hEnd, hResult ▸ .created hFound⟩

/-! ## What the reader finds -/

/-- In the drawer of the heading, line `m` is the first entry for the key, and states the
property. -/
structure Written (config : Config) (lines : Lines) (n : Nat) (key value : Text) (drawer : Drawer)
    (m indent : Nat) : Prop where
  below : Drawer.below? config lines n = .ok (some drawer)
  entry : drawer.FirstEntry lines key m ⟨indent, key, value⟩
  line : lines.lineAt m = render ⟨indent, key, value⟩

/-- A line that states a property with nothing to cut off its value is an entry for its key. -/
theorem firstEntry_of_lineAt (hKey : Statable key value) (hValue : value.trim = value)
    (hLine : lines.lineAt m = render ⟨indent, key, value⟩) (hStart : drawer.start < m)
    (hStop : m < drawer.stop)
    (hFirst : ∀ k, drawer.start < k → k < m → ∀ q, parse? (lines.lineAt k) = some q →
      q.key.sameLetters key = false) :
    drawer.FirstEntry lines key m ⟨indent, key, value⟩ where
  start_lt := hStart
  lt_stop := hStop
  parse := by rw [hLine, parse?_render hKey, hValue]
  same := Text.sameLetters_iff.mpr rfl
  first := hFirst

/-- Where there is an answer about the drawer, there is one about its entries. -/
theorem get?_of_below? (h : Drawer.below? config lines n = .ok found) (key : Text) :
    get? config lines n key =
      .ok (found.bind fun drawer => (drawer.find? lines key).map (·.2.value)) := by
  rw [get?, h]
  cases found <;> rfl

/-- The property is looked up, whatever the case of the letters. -/
theorem Written.get?_eq (h : Written config lines n key value drawer m indent) {key' : Text}
    (hKey : key'.sameLetters key = true) : get? config lines n key' = .ok (some value) := by
  have hFind := Drawer.find?_eq_some_iff.mpr h.entry
  rw [get?_of_below? h.below, Option.bind_some, Drawer.find?_congr hKey, hFind]
  rfl

/-- To set the property again is to write its line again. -/
theorem Written.setEdits_eq (h : Written config lines n key.upper value.trim drawer m indent)
    (ids : IdSupply) :
    setEdits config lines n key value ids = .ok ([⟨lines.spanOf m, lines.lineAt m⟩], ids) := by
  have hFind := Drawer.find?_eq_some_iff.mpr h.entry
  simp only [setEdits_of_below? h.below, editsAt, hFind, h.line]

theorem edit?_spanOf_self {d : Document} (hLines : d.lines.Unbroken) (hm : m < d.lines.length) :
    d.edit? [⟨d.lines.spanOf m, d.lines.lineAt m⟩] = some d := by
  obtain ⟨d', hEdit, hResult, hEnd⟩ := Batch.exists_edit?_spanOf hLines hm (hLines.lineAt m)
  rw [Lines.set_lineAt hm] at hResult
  rw [hEdit, Document.eq_of_lines hResult hEnd]

/-! ## The place of a new drawer -/

/-- The word that opens a planning line opens neither a marker nor a heading. -/
theorem not_stop_of_isPlanning (h : isPlanning line = true) :
    Drawer.isStart line = false ∧ Heading.levelOf line = 0 := by
  have hHead : line.trimStart.head? = some 'S' ∨ line.trimStart.head? = some 'D' ∨
      line.trimStart.head? = some 'C' := by
    simp only [isPlanning, List.any_cons, List.any_nil, Bool.or_false, Bool.or_eq_true,
      List.isPrefixOf_iff_prefix] at h
    rcases h with ⟨t, ht⟩ | ⟨t, ht⟩ | ⟨t, ht⟩ <;> rw [← ht] <;> simp
  constructor
  · rw [← Bool.not_eq_true]
    intro hStart
    have hColon := congrArg List.head? (Text.sameLetters_iff.mp hStart)
    rw [Text.asciiUpper, List.head?_map, Text.head?_trim] at hColon
    rcases hHead with hHead | hHead | hHead <;> rw [hHead] at hColon <;> revert hColon <;> decide
  · cases line with
    | nil => rfl
    | cons c t =>
      apply Heading.levelOf_cons_of_ne
      rintro rfl
      have hStar : Text.trimStart ('*' :: t) = '*' :: t :=
        List.dropWhile_cons_of_neg (by decide)
      rw [hStar] at hHead
      simp at hHead

/-- A new drawer goes below the heading or the line after it, and nothing in between would stop the
search for it. -/
theorem newDrawerLine_spec (hn : n < lines.length) :
    n < newDrawerLine lines n ∧ newDrawerLine lines n ≤ n + 2 ∧
      newDrawerLine lines n ≤ lines.length ∧
      ∀ k, n + 1 ≤ k → k < newDrawerLine lines n →
        Drawer.isStart (lines.lineAt k) = false ∧ Heading.levelOf (lines.lineAt k) = 0 := by
  rw [newDrawerLine]
  split
  · next h =>
    obtain ⟨hLength, hPlanning⟩ := h
    refine ⟨by omega, Nat.le_refl _, hLength, fun k hnk hk => ?_⟩
    obtain rfl : k = n + 1 := by omega
    exact not_stop_of_isPlanning hPlanning
  · exact ⟨Nat.lt_succ_self n, Nat.le_succ _, hn, fun k hnk hk => by omega⟩

/-- The `ID` line is an entry, whatever name stands on it. -/
theorem parse?_idLine (id : Text) :
    parse? (render ⟨0, idKey, id⟩) = some ⟨0, idKey, id.trim⟩ := by
  have hIdKey : Statable idKey id :=
    ⟨by decide, List.all_eq_true.mp (by decide), fun _ => by decide⟩
  exact parse?_render hIdKey 0

theorem sameLetters_idKey (hUpper : key.asciiUpper = key) (hne : key ≠ idKey) :
    idKey.sameLetters key = false := by
  rw [← Bool.not_eq_true]
  intro hSame
  have hUpper' : idKey = key.asciiUpper := Text.sameLetters_iff.mp hSame
  rw [hUpper] at hUpper'
  exact hne hUpper'.symm

/-! ## Each of the three ways -/

section

variable (hKey : Statable key value) (hValue : value.trim = value)

include hKey hValue

/-- Another text for the entry: nothing else in the drawer has changed. -/
theorem written_replaced (hDrawer : Drawer.below? config lines n = .ok (some drawer))
    (hEntry : drawer.FirstEntry lines key m old)
    (hResult : lines' = lines.set m (render ⟨old.indent, key, value⟩)) :
    Written config lines' n key value drawer m old.indent := by
  have hLow := hEntry.start_lt
  have hHigh := hEntry.lt_stop
  have hNew : lines'.lineAt m = render ⟨old.indent, key, value⟩ := by
    rw [hResult, Lines.lineAt_set_self hEntry.lt_length]
  refine ⟨?_, ?_, hNew⟩
  · rw [hResult]
    exact Drawer.below?_set hDrawer hLow (hKey.isEnd_render old.indent) (levelOf_render _) hHigh
  · refine firstEntry_of_lineAt hKey hValue hNew hLow hHigh fun k hk hkm => ?_
    rw [hResult, Lines.lineAt_set_of_ne (Nat.ne_of_gt hkm)]
    exact hEntry.first k hk hkm

/-- A new line at the end of the drawer: the closing marker is one line further below. -/
theorem written_appended (hDrawer : Drawer.below? config lines n = .ok (some drawer))
    (hNone : drawer.find? lines key = none)
    (hResult : lines' = lines.take drawer.stop ++ [render ⟨indent, key, value⟩] ++
      lines.drop drawer.stop) :
    Written config lines' n key value ⟨drawer.start, drawer.stop + 1⟩ drawer.stop indent := by
  obtain ⟨-, -, hStop⟩ := Drawer.below?_eq_some_iff.mp hDrawer
  have hPlace := Nat.le_of_lt hStop.lt_length
  have hNew : lines'.lineAt drawer.stop = render ⟨indent, key, value⟩ := by
    rw [hResult, Lines.lineAt_putIn hPlace]
  refine ⟨?_, ?_, hNew⟩
  · rw [hResult]
    exact Drawer.below?_putIn hDrawer (hKey.isEnd_render indent) (levelOf_render _)
  · refine firstEntry_of_lineAt hKey hValue hNew hStop.le (Nat.lt_succ_self _) fun k hk hks => ?_
    rw [hResult, Lines.lineAt_putIn_of_lt hPlace hks]
    exact Drawer.find?_eq_none_iff.mp hNone k hk hks

/-- A drawer in which the property comes last, behind entries for other keys. -/
theorem written_of_drawer {q : Nat} (hqn : n < q)
    (hWord : n + 1 + config.drawerScanLimit.toNat < UInt64.size)
    (hLimit : q ≤ n + config.drawerScanLimit.toNat)
    (hBefore : ∀ k, n + 1 ≤ k → k < q → Drawer.isStart (lines.lineAt k) = false ∧
      Heading.levelOf (lines.lineAt k) = 0)
    (hStart : lines.lineAt q = ":PROPERTIES:".toList) (hqm : q < m)
    (hOthers : ∀ k, q < k → k < m →
      ∃ p, parse? (lines.lineAt k) = some p ∧ p.key.sameLetters key = false)
    (hNew : lines.lineAt m = render ⟨indent, key, value⟩)
    (hEnd : lines.lineAt (m + 1) = ":END:".toList) :
    Written config lines n key value ⟨q, m + 1⟩ m indent := by
  have hParse := parse?_render hKey indent
  have hStartLength : q < lines.length :=
    Lines.lt_length_of_lineAt_ne_nil (by rw [hStart]; decide)
  have hEndLength : m + 1 < lines.length :=
    Lines.lt_length_of_lineAt_ne_nil (by rw [hEnd]; decide)
  have hStartLine : Lines.FirstBody Drawer.isStart lines q q := by
    apply Lines.firstBody_self hStartLength <;> rw [hStart] <;> decide
  have hEndLine : Lines.FirstBody Drawer.isEnd lines (m + 1) (m + 1) := by
    apply Lines.firstBody_self hEndLength <;> rw [hEnd] <;> decide
  refine ⟨Drawer.below?_eq_some_iff.mpr ⟨⟨hWord, hLimit⟩, hStartLine.of_le hqn hBefore, ?_⟩, ?_,
    hNew⟩
  · -- Entries are neither closing markers nor headings.
    refine hEndLine.of_le (Nat.succ_le_succ (Nat.le_of_lt hqm)) fun k hqk hkm => ?_
    rcases Nat.eq_or_lt_of_le (Nat.le_of_lt_succ hkm) with rfl | hkm
    · rw [hNew]
      exact ⟨hKey.isEnd_render indent, levelOf_eq_zero_of_parse? hParse⟩
    · obtain ⟨p, hp, -⟩ := hOthers k hqk hkm
      exact ⟨(not_marker_of_parse? hp).2, levelOf_eq_zero_of_parse? hp⟩
  · refine firstEntry_of_lineAt hKey hValue hNew hqm (Nat.lt_succ_self m) fun k hqk hkm q' hq' => ?_
    obtain ⟨p, hp, hOther⟩ := hOthers k hqk hkm
    rw [hp] at hq'
    rw [← Option.some.inj hq', hOther]

/-- A new drawer: it comes before all that a search below the heading could stop at. Beside the
property it holds the `ID` at most. -/
theorem written_created (hUpper : key.asciiUpper = key) (hn : n < lines.length)
    (hLimit : 2 ≤ config.drawerScanLimit.toNat)
    (hWord : n + 1 + config.drawerScanLimit.toNat < UInt64.size)
    (hResult : lines' = lines.take (newDrawerLine lines n) ++ newDrawer key value id ++
      lines.drop (newDrawerLine lines n)) :
    ∃ drawer m, Written config lines' n key value drawer m 0 ∧
      ∀ k, drawer.start < k → k < drawer.stop → ∃ p, parse? (lines'.lineAt k) = some p ∧
        (p.key = key ∨ p.key = idKey) := by
  obtain ⟨hLow, hHigh, hLength, hBefore⟩ := newDrawerLine_spec hn
  generalize newDrawerLine lines n = q at hLow hHigh hLength hBefore hResult
  have hAbove : ∀ k, n + 1 ≤ k → k < q → Drawer.isStart (lines'.lineAt k) = false ∧
      Heading.levelOf (lines'.lineAt k) = 0 := fun k hnk hkq => by
    rw [hResult, Lines.lineAt_putIn_of_lt hLength hkq]
    exact hBefore k hnk hkq
  have hLine : ∀ i, i < (newDrawer key value id).length →
      lines'.lineAt (q + i) = Lines.lineAt (newDrawer key value id) i := fun i hi => by
    rw [hResult, Lines.lineAt_putIn_add hLength hi]
  have hParse := parse?_render hKey 0
  by_cases hId : key = idKey
  · have hNew : newDrawer key value id =
        [":PROPERTIES:".toList, render ⟨0, key, value⟩, ":END:".toList] := by
      rw [newDrawer, if_pos hId]
      rfl
    rw [hNew] at hLine
    have hProperty : lines'.lineAt (q + 1) = render ⟨0, key, value⟩ := hLine 1 (by simp)
    refine ⟨_, _, written_of_drawer hKey hValue hLow hWord (by omega) hAbove (hLine 0 (by simp))
      (Nat.lt_succ_self q) (fun k hqk hk => ?_) hProperty (hLine 2 (by simp)),
      fun k hqk hk => ?_⟩
    · omega
    · have hk : k = q + 1 := Nat.le_antisymm (Nat.le_of_lt_succ hk) hqk
      rw [hk, hProperty]
      exact ⟨_, hParse, Or.inl rfl⟩
  · have hNew : newDrawer key value id = [":PROPERTIES:".toList, render ⟨0, idKey, id⟩,
        render ⟨0, key, value⟩, ":END:".toList] := by
      rw [newDrawer, if_neg hId]
      rfl
    rw [hNew] at hLine
    have hIdLine : lines'.lineAt (q + 1) = render ⟨0, idKey, id⟩ := hLine 1 (by simp)
    have hProperty : lines'.lineAt (q + 2) = render ⟨0, key, value⟩ := hLine 2 (by simp)
    refine ⟨_, _, written_of_drawer hKey hValue hLow hWord (by omega) hAbove (hLine 0 (by simp))
      (Nat.lt_add_of_pos_right (Nat.zero_lt_two)) (fun k hqk hk => ?_) hProperty
      (hLine 3 (by simp)), fun k hqk hk => ?_⟩
    · have hk : k = q + 1 := by omega
      rw [hk, hIdLine]
      exact ⟨_, parse?_idLine id, sameLetters_idKey hUpper hId⟩
    · have hqk : q < k := hqk
      have hk : k < q + 3 := hk
      rcases Nat.lt_or_ge k (q + 2) with hFirst | hSecond
      · have hk : k = q + 1 := by omega
        rw [hk, hIdLine]
        exact ⟨_, parse?_idLine id, Or.inr rfl⟩
      · have hk : k = q + 2 := by omega
        rw [hk, hProperty]
        exact ⟨_, hParse, Or.inl rfl⟩

/-- **In each of the three ways the reader finds what was written.** -/
theorem Update.exists_written (hUpper : key.asciiUpper = key) (hn : n < lines.length)
    (hLimit : 2 ≤ config.drawerScanLimit.toNat)
    (hWord : n + 1 + config.drawerScanLimit.toNat < UInt64.size)
    (h : Update config lines n key value id lines') :
    ∃ drawer m indent, Written config lines' n key value drawer m indent := by
  cases h with
  | replaced hDrawer hEntry => exact ⟨_, _, _, written_replaced hKey hValue hDrawer hEntry rfl⟩
  | appended hDrawer hNone => exact ⟨_, _, _, written_appended hKey hValue hDrawer hNone rfl⟩
  | created =>
    obtain ⟨drawer, m, hWritten, -⟩ := written_created hKey hValue hUpper hn hLimit hWord rfl
    exact ⟨drawer, m, 0, hWritten⟩

end

/-- **A property that is set can be looked up.** In a document without carriage returns, let the
search for a drawer reach at least two lines below the heading, and let an entry line be able to
state the ASCII key and the value. Then the property can be set; afterwards it is looked up under
the key in any case of its letters, with the white space at the ends of its value cut off; and to
set it once more leaves the document as it is, and takes no name from the supply. -/
theorem lookup_after_set (config : Config) {d : Document} {n : Nat} {key value : Text}
    (ids : IdSupply) (hReturn : ∀ l ∈ d.lines, '\r' ∉ l)
    (hHeading : 0 < Heading.levelOf (d.lines.lineAt n))
    (hLimit : 2 ≤ config.drawerScanLimit.toNat)
    (hWord : n + 1 + config.drawerScanLimit.toNat < UInt64.size)
    (hIds : ∀ i, (ids.name i).Unbroken) (hKey : Statable key value)
    (hAscii : ∀ c ∈ key, c.toNat < 128) (hValue : value.Unbroken) :
    ∃ edits ids' d', setEdits config d.lines n key value ids = .ok (edits, ids') ∧
      d.edit? edits = some d' ∧
      (∀ key', key'.sameLetters key = true →
        get? config d'.lines n key' = .ok (some value.trim)) ∧
      ∀ ids', ∃ edits', setEdits config d'.lines n key value ids' = .ok (edits', ids') ∧
        d'.edit? edits' = some d' := by
  have hUpper : key.upper.asciiUpper = key.upper := by
    rw [Text.upper_of_ascii hAscii, Text.asciiUpper_asciiUpper]
  have hKey' := hKey.upper hAscii
  have hn := Heading.lt_length_of_levelOf_pos hHeading
  obtain ⟨found, hFound⟩ := Drawer.exists_below? hWord d.lines
  obtain ⟨d', hEdit, hUnbroken, -, hUpdate⟩ := exists_update hFound
    (Document.unbroken_lines hReturn) hKey'.unbroken_key
    (hValue.of_subset fun c => Text.mem_of_mem_trim) (hIds ids.issued)
  obtain ⟨drawer, m, indent, hWritten⟩ :=
    hUpdate.exists_written hKey' (Text.trim_trim value) hUpper hn hLimit hWord
  refine ⟨_, _, d', setEdits_of_below? hFound key value ids, hEdit,
    fun key' hSame => hWritten.get?_eq ?_, fun ids' => ⟨_, hWritten.setEdits_eq ids', ?_⟩⟩
  · rw [Text.sameLetters_iff] at hSame ⊢
    rw [hSame, hUpper, Text.upper_of_ascii hAscii]
  · exact edit?_spanOf_self hUnbroken hWritten.entry.lt_length

/-- Below a planning line and in front of a drawer that is not closed. -/
theorem lookup_after_set_unclosed :
    let d := Document.ofText "* A\nDEADLINE: <d>\n:PROPERTIES:\n:Effort: 2h\n* B".toList
    let names (i : Nat) : IdSupply := ⟨fun _ => "x".toList, i⟩
    ∃ edits ids d', setEdits {} d.lines 0 "effort".toList " 1h".toList (names 0) =
        .ok (edits, ids) ∧
      d.edit? edits = some d' ∧ get? {} d'.lines 0 "Effort".toList = .ok (some "1h".toList) ∧
      ∃ edits', setEdits {} d'.lines 0 "effort".toList " 1h".toList (names 1) =
          .ok (edits', names 1) ∧
        d'.edit? edits' = some d' := by
  intro d names
  have hName : Text.Unbroken "x".toList := ⟨by decide, by decide⟩
  have hTrim : Text.trim " 1h".toList = "1h".toList := by decide
  have hKey : Statable "effort".toList " 1h".toList :=
    ⟨by decide, List.all_eq_true.mp (by decide), fun _ => by decide⟩
  have hAscii : ∀ c ∈ "effort".toList, c.toNat < 128 := by
    have hAll : "effort".toList.all (fun c => decide (c.toNat < 128)) = true := by decide
    exact fun c hc => of_decide_eq_true (List.all_eq_true.mp hAll c hc)
  obtain ⟨edits, ids, d', hSet, hEdit, hGet, hAgain⟩ := lookup_after_set {} (d := d) (n := 0)
    (names 0) (by decide) (by decide) (by decide) (by decide) (fun _ => hName) hKey hAscii
    ⟨by decide, by decide⟩
  exact ⟨edits, ids, d', hSet, hEdit, hTrim ▸ hGet "Effort".toList (by decide), hAgain (names 1)⟩

end Outliner.Property
