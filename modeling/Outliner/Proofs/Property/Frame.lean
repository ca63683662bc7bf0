import Outliner.Proofs.Property.Entries
import Outliner.Proofs.Section

/-!
# Outliner — what setting a property leaves alone

When a property is set, one line gets another text or some lines are put in, and all lines below
them move. The drawers of the other headings are searched for again then, from other places and up
to other bounds. But such a search ends at the next heading. So it is a search in the sections above
the heading, or in those from a later heading on, and these are whole in both buffers. In the drawer
that was written to, an entry has come or gone, but none for another key.

* `Splice` — lines of a buffer that make place for others.
* `Splice.moved` — where the lines that stay are afterwards.

Main results:

* `get?_section` — the properties of a heading are found in whole sections alone.
* `get?_splice` — a change below one heading leaves those of the others as they are.
* `Update.get?_other` — in the drawer that is written to, other keys are looked up as before.
* `set_keeps_rest` — a property is set, and all the rest stays.
-/

namespace Outliner

variable {config : Config} {lines lines' pre sec post : Lines} {k n m bound : Nat}
  {found : Option Drawer} {key key' value id : Text}

/-! ## Drawers of whole sections -/

/-- Sections are whole up to a bound too: what is cut off comes after them. -/
theorem WholeSections.take (h : WholeSections pre sec post) (hBound : 0 < bound) :
    WholeSections pre (sec.take bound) (post.take (bound - sec.length)) := by
  refine ⟨h.opens.imp_right fun hOpens => ?_, ?_⟩
  · rwa [Lines.lineAt_take hBound]
  · rcases Nat.eq_zero_or_pos (bound - sec.length) with hNone | hSome
    · rw [hNone]
      exact Or.inl List.take_zero
    · refine h.closes.imp (fun hNil => ?_) fun hCloses => ?_
      · rw [hNil, List.take_nil]
      · rwa [Lines.lineAt_take hSome]

namespace Drawer

/-- The lines that are searched for the drawer of a heading are lines of its sections. -/
theorem searched_section (h : WholeSections pre sec post) (hk : k < sec.length)
    (hBound : k < bound) :
    (((pre ++ sec ++ post).take (pre.length + bound)).drop (k + pre.length + 1)).takeWhile
        Heading.isBody =
      ((sec.take bound).drop (k + 1)).takeWhile Heading.isBody := by
  have hTake : (pre ++ sec ++ post).take (pre.length + bound) =
      pre ++ sec.take bound ++ post.take (bound - sec.length) := by
    rw [List.append_assoc, List.take_length_add_append, List.take_append, List.append_assoc]
  have hStart : k + 1 ≤ (sec.take bound).length := by
    rw [List.length_take]
    omega
  rw [hTake, Nat.add_right_comm, Lines.takeWhile_isBody_section (h.take (by omega)) hStart]

/-- The drawer below a line is found in its sections alone, wherever they are. -/
theorem before?_section (h : WholeSections pre sec post) (hk : k < sec.length)
    (hBound : k < bound) :
    before? (pre.length + bound) (pre ++ sec ++ post) (k + pre.length) =
      (before? bound sec k).map (shiftBy pre.length) := by
  rw [before?, before?, searched_section h hk hBound]
  cases hFound : (((sec.take bound).drop (k + 1)).takeWhile Heading.isBody).findIdx? isStart with
  | none => rfl
  | some i =>
    -- The opening marker is in the sections, so the search for the closing one starts there too.
    have hStart : k + 1 + i + 1 ≤ sec.length := by
      have hLess := (List.findIdx?_eq_some_iff_findIdx_eq.mp hFound).1
      have hPrefix := (List.takeWhile_prefix Heading.isBody
        (l := (sec.take bound).drop (k + 1))).length_le
      rw [List.length_drop, List.length_take] at hPrefix
      omega
    have hClosing := closing?_section h hStart
    rw [show k + 1 + i + 1 + pre.length = k + pre.length + 1 + i + 1 by omega] at hClosing
    simp only [Option.bind_eq_bind, Option.bind_some, hClosing]
    cases closing? sec (k + 1 + i + 1) with
    | none => rfl
    | some stop =>
      show some (Drawer.mk (k + pre.length + 1 + i) (stop + pre.length)) = _
      rw [show k + pre.length + 1 + i = k + 1 + i + pre.length by omega]
      rfl

/-- The bound moves with the heading, so it has to fit where the sections are. -/
theorem below?_section (h : WholeSections pre sec post) (hk : k < sec.length)
    (hWord : k + pre.length + 1 + config.drawerScanLimit.toNat < UInt64.size)
    (hFound : below? config sec k = .ok found) :
    below? config (pre ++ sec ++ post) (k + pre.length) =
      .ok (found.map (shiftBy pre.length)) := by
  obtain ⟨-, hBefore⟩ := below?_eq_ok_iff.mp hFound
  have hBound : k + pre.length + 1 + config.drawerScanLimit.toNat =
      pre.length + (k + 1 + config.drawerScanLimit.toNat) := by
    omega
  refine below?_eq_ok_iff.mpr ⟨hWord, ?_⟩
  rw [hBound, before?_section h hk (by omega), hBefore]

end Drawer

namespace Property

/-- **The properties of a heading are found in its sections alone,** wherever they are. -/
theorem get?_section (h : WholeSections pre sec post) (hk : k < sec.length)
    (hWord : k + pre.length + 1 + config.drawerScanLimit.toNat < UInt64.size) (key : Text) :
    get? config (pre ++ sec ++ post) (k + pre.length) key = get? config sec k key := by
  have hWord' : k + 1 + config.drawerScanLimit.toNat < UInt64.size := by omega
  obtain ⟨found, hFound⟩ := Drawer.exists_below? hWord' sec
  rw [get?_eq hFound, get?_eq (Drawer.below?_section h hk hWord hFound)]
  cases found with
  | none => rfl
  | some drawer =>
    obtain ⟨-, -, hClosing⟩ := Drawer.below?_eq_some_iff.mp hFound
    have hStop := hClosing.lt_length
    have hEntries : Drawer.entries (pre ++ sec ++ post) (drawer.shiftBy pre.length) =
        drawer.entries sec := by
      refine Drawer.entries_congr (Nat.le_of_lt hStop) ?_ fun j _ hj =>
        Lines.lineAt_section pre post (Nat.lt_trans hj hStop)
      simp only [List.length_append]
      omega
    rw [Option.map_some, Option.bind_some, Option.bind_some, hEntries]

/-- Where the bound fits there is an answer. -/
theorem exists_get? (hWord : n + 1 + config.drawerScanLimit.toNat < UInt64.size) (lines : Lines)
    (key : Text) : ∃ value, get? config lines n key = .ok value := by
  obtain ⟨found, hFound⟩ := Drawer.exists_below? hWord lines
  exact ⟨_, get?_of_below? hFound key⟩

/-- What comes from the next heading on does not matter. -/
theorem get?_append_left (hm : m < pre.length) (hHeading : 0 < Heading.levelOf (post.lineAt 0))
    (hWord : m + 1 + config.drawerScanLimit.toNat < UInt64.size) (key : Text) :
    get? config (pre ++ post) m key = get? config pre m key := by
  have hSections : WholeSections [] pre post := ⟨Or.inl rfl, Or.inr hHeading⟩
  exact get?_section hSections hm hWord key

/-- Nor does what comes before the heading itself. -/
theorem get?_append_right (hHeading : 0 < Heading.levelOf (post.lineAt 0))
    (hWord : pre.length + 1 + config.drawerScanLimit.toNat < UInt64.size) (key : Text) :
    get? config (pre ++ post) pre.length key = get? config post 0 key := by
  have hSections : WholeSections pre post [] := ⟨Or.inr hHeading, Or.inl rfl⟩
  have hFirst := Heading.lt_length_of_levelOf_pos hHeading
  have hFound := get?_section hSections hFirst (by rwa [Nat.zero_add]) key
  rwa [List.append_nil, Nat.zero_add] at hFound

end Property

/-! ## Lines in the place of others -/

/-- Lines of a buffer that make place for others: so many of them are gone from a line on. -/
structure Splice where
  line : Nat
  gone : Nat
  new : Lines

namespace Splice

variable {s : Splice}

/-- The buffer after the others have been put in their place. -/
def apply (s : Splice) (lines : Lines) : Lines :=
  lines.take s.line ++ s.new ++ lines.drop (s.line + s.gone)

/-- Where a line that stays is afterwards. -/
def moved (s : Splice) (m : Nat) : Nat :=
  if m < s.line then m else m - s.gone + s.new.length

/-- The place is in the body of the heading on line `n`. -/
structure Below (s : Splice) (lines : Lines) (n : Nat) : Prop where
  lt_line : n < s.line
  le_length : s.line + s.gone ≤ lines.length
  body : ∀ k, n < k → k < s.line + s.gone → Heading.levelOf (lines.lineAt k) = 0

/-- The lines up to one that stays, and those from there on, before and after. -/
theorem apply_eq_of_lt (hm : m ≤ s.line) (lines : Lines) :
    s.apply lines = lines.take m ++ ((lines.take s.line).drop m ++ s.new ++
      lines.drop (s.line + s.gone)) := by
  have hTake : lines.take m = (lines.take s.line).take m := by
    rw [List.take_take, Nat.min_eq_left hm]
  rw [apply, hTake, ← List.append_assoc, ← List.append_assoc, List.take_append_drop]

theorem apply_eq_of_le (hm : s.line + s.gone ≤ m) (lines : Lines) :
    s.apply lines = lines.take s.line ++ s.new ++
      (lines.drop (s.line + s.gone)).take (m - (s.line + s.gone)) ++ lines.drop m := by
  have hDrop : lines.drop m =
      (lines.drop (s.line + s.gone)).drop (m - (s.line + s.gone)) := by
    rw [List.drop_drop, Nat.add_sub_cancel' hm]
  rw [apply, hDrop, List.append_assoc _ (List.take _ _), List.take_append_drop]

/-- The lines in front of one that stays, below the place. -/
theorem length_front (hLength : s.line + s.gone ≤ lines.length) (hm : s.line + s.gone ≤ m)
    (hm' : m ≤ lines.length) :
    (lines.take s.line ++ s.new ++
      (lines.drop (s.line + s.gone)).take (m - (s.line + s.gone))).length =
        m - s.gone + s.new.length := by
  simp only [List.length_append, List.length_take, List.length_drop]
  omega

/-- A line that stays is the same line. -/
theorem lineAt_apply (hLength : s.line + s.gone ≤ lines.length) (hm : m < lines.length)
    (hStays : m < s.line ∨ s.line + s.gone ≤ m) :
    Lines.lineAt (s.apply lines) (s.moved m) = lines.lineAt m := by
  rcases hStays with hAbove | hBelow
  · have hHere : m < (lines.take (m + 1)).length := by
      rw [List.length_take]
      omega
    rw [moved, if_pos hAbove, apply_eq_of_lt hAbove, Lines.lineAt_append_left hHere,
      Lines.lineAt_take (Nat.lt_succ_self m)]
  · have hFront := length_front hLength hBelow (Nat.le_of_lt hm)
    rw [moved, if_neg (by omega), apply_eq_of_le hBelow, ← hFront]
    exact (Lines.lineAt_append_right 0).trans (Lines.lineAt_drop lines m 0)

end Splice

namespace Property

variable {s : Splice}

/-- **A change below one heading leaves the properties of the others as they are.** -/
theorem get?_splice (h : s.Below lines n) (hHeading : 0 < Heading.levelOf (lines.lineAt n))
    (hOther : 0 < Heading.levelOf (lines.lineAt m)) (hne : m ≠ n)
    (hWord : lines.length + s.new.length + 1 + config.drawerScanLimit.toNat < UInt64.size)
    (key : Text) :
    get? config (s.apply lines) (s.moved m) key = get? config lines m key := by
  have hm := Heading.lt_length_of_levelOf_pos hOther
  have hLine := h.lt_line
  have hLength := h.le_length
  rcases Nat.lt_or_gt_of_ne hne with hAbove | hBelow
  · -- Both buffers have the same lines above the heading, and the same heading.
    have hTake : m < (lines.take n).length := by
      rw [List.length_take]
      omega
    have hOld : 0 < Heading.levelOf (Lines.lineAt (lines.drop n) 0) := by
      rwa [Lines.lineAt_drop]
    -- The place of the change is further down, so the heading is there after it too.
    have hNew : 0 < Heading.levelOf (Lines.lineAt ((lines.take s.line).drop n ++ s.new ++
        lines.drop (s.line + s.gone)) 0) := by
      have hFirst : 0 < ((lines.take s.line).drop n).length := by
        rw [List.length_drop, List.length_take]
        omega
      rwa [List.append_assoc, Lines.lineAt_append_left hFirst, Lines.lineAt_drop, Nat.add_zero,
        Lines.lineAt_take hLine]
    have hWord' : m + 1 + config.drawerScanLimit.toNat < UInt64.size := by omega
    rw [Splice.moved, if_pos (Nat.lt_trans hAbove hLine),
      Splice.apply_eq_of_lt (Nat.le_of_lt hLine), get?_append_left hTake hNew hWord',
      ← get?_append_left hTake hOld hWord', List.take_append_drop]
  · -- From the next heading on nothing has changed, and all these lines have moved together.
    have hPast : s.line + s.gone ≤ m := by
      by_contra hShort
      have hBody := h.body m hBelow (Nat.lt_of_not_le hShort)
      omega
    have hFront := Splice.length_front hLength hPast (Nat.le_of_lt hm)
    have hBefore : (lines.take m).length = m := List.length_take_of_le (Nat.le_of_lt hm)
    have hHead : 0 < Heading.levelOf (Lines.lineAt (lines.drop m) 0) := by
      rwa [Lines.lineAt_drop]
    have hOld : get? config (lines.take m ++ lines.drop m) (lines.take m).length key =
        get? config (lines.drop m) 0 key := get?_append_right hHead (by rw [hBefore]; omega) key
    rw [hBefore, List.take_append_drop] at hOld
    rw [Splice.moved, if_neg (by omega), Splice.apply_eq_of_le hPast, ← hFront,
      get?_append_right hHead (by rw [hFront]; omega), hOld]

/-! ## The property that is set -/

/-- In each of the three ways some lines below the heading make place for others: for a whole new
drawer at most, and what they are put in the place of is the entry for the key. -/
theorem Update.exists_splice (hn : n < lines.length)
    (h : Update config lines n key value id lines') :
    ∃ s : Splice, lines' = s.apply lines ∧ s.Below lines n ∧ s.new.length ≤ 4 ∧
      (s.gone = 0 ∨ s.gone = 1 ∧ s.new.length = 1 ∧ ∃ drawer old,
        Drawer.below? config lines n = .ok (some drawer) ∧
          drawer.find? lines key = some (s.line, old)) := by
  cases h with
  | @replaced drawer m old hDrawer hEntry =>
    -- To give a line another text is to put a line in its place.
    have hm := hEntry.lt_length
    have hStop := hEntry.lt_stop
    obtain ⟨-, hOpening, -⟩ := Drawer.below?_eq_some_iff.mp hDrawer
    refine ⟨⟨m, 1, [render ⟨old.indent, key, value⟩]⟩, ?_, ⟨?_, hm, fun k hnk hk => ?_⟩, by simp,
      Or.inr ⟨rfl, rfl, drawer, old, hDrawer, Drawer.find?_eq_some_iff.mpr hEntry⟩⟩
    · show lines.set m _ = lines.take m ++ [_] ++ lines.drop (m + 1)
      rw [List.set_eq_take_append_cons_drop, if_pos hm, List.append_assoc]
      rfl
    · exact Nat.lt_trans hOpening.le hEntry.start_lt
    · have hkm : k < m + 1 := hk
      exact Drawer.levelOf_eq_zero_of_below? hDrawer hnk (by omega)
  | @appended drawer hDrawer hNone =>
    obtain ⟨-, hOpening, hClosing⟩ := Drawer.below?_eq_some_iff.mp hDrawer
    refine ⟨⟨drawer.stop, 0, [render ⟨entryIndent lines drawer, key, value⟩]⟩, rfl,
      ⟨?_, Nat.le_of_lt hClosing.lt_length, fun k hnk hk => ?_⟩, by simp, Or.inl rfl⟩
    · exact Nat.lt_trans hOpening.le hClosing.le
    · exact Drawer.levelOf_eq_zero_of_below? hDrawer hnk (Nat.le_of_lt hk)
  | created hNone =>
    obtain ⟨hLow, -, hLength, hBefore⟩ := newDrawerLine_spec hn
    refine ⟨⟨newDrawerLine lines n, 0, newDrawer key value id⟩, rfl,
      ⟨hLow, hLength, fun k hnk hk => (hBefore k hnk hk).2⟩, ?_, Or.inl rfl⟩
    show (newDrawer key value id).length ≤ 4
    rw [newDrawer]
    split <;> simp

/-- **Other keys are looked up as before,** except for the `ID` that a new drawer opens with. -/
theorem Update.get?_other (hKey : Statable key value) (hValue : value.trim = value)
    (hUpper : key.asciiUpper = key) (hn : n < lines.length)
    (hLimit : 2 ≤ config.drawerScanLimit.toNat)
    (hWord : n + 1 + config.drawerScanLimit.toNat < UInt64.size)
    (h : Update config lines n key value id lines') (hOther : key'.sameLetters key = false)
    (hId : Drawer.below? config lines n = .ok none → key'.sameLetters idKey = false) :
    get? config lines' n key' = get? config lines n key' := by
  obtain ⟨found, hFound⟩ := Drawer.exists_below? hWord lines
  cases found with
  | some drawer =>
    obtain ⟨drawer', indent, hDrawer', hUpsert⟩ :=
      exists_upsert hFound (fun hNil => (hKey.not_marker hNil).2) h
    -- The one entry that is new is one for the key.
    rw [parse?_render hKey] at hUpsert
    have hNew : ∀ p ∈ [Property.mk indent key value.trim], p.key = key := fun p hp => by
      rw [List.mem_singleton.mp hp]
    rw [get?_eq hFound, get?_eq hDrawer', Option.bind_some, Option.bind_some,
      hUpsert.find?_other hNew hOther]
  | none =>
    -- There was nothing to look up, and now there is the property, with an `ID` maybe.
    have hNothing : get? config lines n key' = .ok none := get?_eq hFound key'
    have hCreated : lines' = lines.take (newDrawerLine lines n) ++ newDrawer key value id ++
        lines.drop (newDrawerLine lines n) := by
      cases h with
      | created => rfl
      | replaced hDrawer | appended hDrawer =>
        have hBoth := Except.ok.inj (hFound.symm.trans hDrawer)
        contradiction
    obtain ⟨drawer', _, hWritten, hEntries⟩ :=
      written_created hKey hValue hUpper hn hLimit hWord hCreated
    have hFind : drawer'.find? lines' key' = none := by
      refine Drawer.find?_eq_none_iff.mpr fun k hk hks q hq => ?_
      obtain ⟨p, hp, hKeys⟩ := hEntries k hk hks
      obtain rfl : p = q := Option.some.inj (hp.symm.trans hq)
      rw [Text.sameLetters_comm]
      rcases hKeys with hSame | hSame <;> rw [hSame]
      · exact hOther
      · exact hId hFound
    rw [hNothing, get?_of_below? hWritten.below, Option.bind_some, hFind]
    rfl

/-- **A property is set, and all the rest stays.** In a document without carriage returns, let the
search for a drawer reach at least two lines below the heading, and let an entry line be able to
state the ASCII key and the value. Then the property can be set, and lines are put in for it, in the
place of one line at most, the entry that was there for the key; all others are kept in their order.
The other headings, on the lines that they have moved to, have the properties that they had; and so
has the heading itself, except for the key, in any case of its letters, and for the `ID` that comes
with a new drawer. -/
theorem set_keeps_rest (config : Config) {d : Document} {n : Nat} {key value : Text}
    (ids : IdSupply) (hReturn : ∀ l ∈ d.lines, '\r' ∉ l)
    (hHeading : 0 < Heading.levelOf (d.lines.lineAt n))
    (hLimit : 2 ≤ config.drawerScanLimit.toNat)
    (hWord : d.lines.length + 5 + config.drawerScanLimit.toNat < UInt64.size)
    (hIds : ∀ i, (ids.name i).Unbroken) (hKey : Statable key value)
    (hAscii : ∀ c ∈ key, c.toNat < 128) (hValue : value.Unbroken) :
    ∃ edits ids' d', ∃ s : Splice, setEdits config d.lines n key value ids = .ok (edits, ids') ∧
      d.edit? edits = some d' ∧ d'.lineEnd = d.lineEnd ∧ d'.lines = s.apply d.lines ∧ n < s.line ∧
      s.line + s.gone ≤ d.lines.length ∧
      (s.gone = 0 ∨ s.gone = 1 ∧ s.new.length = 1 ∧ ∃ drawer old,
        Drawer.below? config d.lines n = .ok (some drawer) ∧
          drawer.find? d.lines key = some (s.line, old)) ∧
      (∀ m, m ≠ n → 0 < Heading.levelOf (d.lines.lineAt m) →
        d'.lines.lineAt (s.moved m) = d.lines.lineAt m ∧
          ∀ key', ∃ found, get? config d.lines m key' = .ok found ∧
            get? config d'.lines (s.moved m) key' = .ok found) ∧
      ∀ key', key'.sameLetters key = false →
        (Drawer.below? config d.lines n = .ok none → key'.sameLetters idKey = false) →
        ∃ found, get? config d.lines n key' = .ok found ∧
          get? config d'.lines n key' = .ok found := by
  have hn := Heading.lt_length_of_levelOf_pos hHeading
  have hSame : key.sameLetters key.upper = true := by
    rw [Text.sameLetters_iff, Text.upper_of_ascii hAscii, Text.asciiUpper_asciiUpper]
  have hUpper : key.upper.asciiUpper = key.upper := by
    rw [Text.upper_of_ascii hAscii, Text.asciiUpper_asciiUpper]
  have hWord' : n + 1 + config.drawerScanLimit.toNat < UInt64.size := by omega
  have hKey' := hKey.upper hAscii
  obtain ⟨found, hFound⟩ := Drawer.exists_below? hWord' d.lines
  obtain ⟨d', hEdit, -, hEnd, hUpdate⟩ := exists_update hFound
    (Document.unbroken_lines hReturn) hKey'.unbroken_key
    (hValue.of_subset fun c => Text.mem_of_mem_trim) (hIds ids.issued)
  obtain ⟨s, hApply, hBelow, hFour, hGone⟩ := hUpdate.exists_splice hn
  refine ⟨_, _, d', s, setEdits_of_below? hFound key value ids, hEdit, hEnd, hApply,
    hBelow.lt_line, hBelow.le_length, ?_, fun m hne hOther => ?_, fun key' hOther hId => ?_⟩
  · -- The search for the key as it was given finds the same line.
    simpa only [Drawer.find?_congr hSame] using hGone
  · have hm := Heading.lt_length_of_levelOf_pos hOther
    rw [hApply]
    refine ⟨Splice.lineAt_apply hBelow.le_length hm ?_, fun key' => ?_⟩
    · -- The body of a heading has no other heading in it.
      by_contra hStays
      have hBody := hBelow.body m (by have := hBelow.lt_line; omega) (by omega)
      omega
    · rw [get?_splice hBelow hHeading hOther hne (by omega)]
      have hWord' : m + 1 + config.drawerScanLimit.toNat < UInt64.size := by omega
      obtain ⟨found, hGet⟩ := exists_get? hWord' d.lines key'
      exact ⟨found, hGet, hGet⟩
  · rw [Text.sameLetters_iff] at hSame
    have hOther' : key'.sameLetters key.upper = false := by rwa [Text.sameLetters, ← hSame]
    rw [hUpdate.get?_other hKey' (Text.trim_trim value) hUpper hn hLimit hWord' hOther' hId]
    obtain ⟨found, hGet⟩ := exists_get? hWord' d.lines key'
    exact ⟨found, hGet, hGet⟩

/-- A property that the next heading has too: that one keeps its own, one line further below. -/
theorem set_keeps_rest_next_heading :
    let d := Document.ofText
      "* A\n:PROPERTIES:\n:Effort: 2h\n:END:\n* B\n:PROPERTIES:\n:K: v\n:END:".toList
    let names : IdSupply := ⟨fun _ => "x".toList, 0⟩
    ∃ edits ids d', ∃ s : Splice, setEdits {} d.lines 0 "K".toList "w".toList names =
        .ok (edits, ids) ∧
      d.edit? edits = some d' ∧ d'.lines.lineAt (s.moved 4) = "* B".toList ∧
      get? {} d'.lines (s.moved 4) "k".toList = .ok (some "v".toList) ∧
      get? {} d'.lines 0 "effort".toList = .ok (some "2h".toList) := by
  intro d names
  have hName : Text.Unbroken "x".toList := ⟨by decide, by decide⟩
  have hKey : Statable "K".toList "w".toList :=
    ⟨by decide, List.all_eq_true.mp (by decide), fun _ => by decide⟩
  have hAscii : ∀ c ∈ "K".toList, c.toNat < 128 := by
    intro c hc
    rw [List.mem_singleton.mp hc]
    decide
  obtain ⟨edits, ids, d', s, hSet, hEdit, -, -, -, -, -, hOthers, hSelf⟩ := set_keeps_rest {}
    (d := d) (n := 0) names (by decide) (by decide) (by decide) (by decide) (fun _ => hName) hKey
    hAscii ⟨by decide, by decide⟩
  have hDrawer : Drawer.below? {} d.lines 0 ≠ .ok none := by decide
  have hNext : get? {} d.lines 4 "k".toList = .ok (some "v".toList) := by decide
  have hEffort : get? {} d.lines 0 "effort".toList = .ok (some "2h".toList) := by decide
  obtain ⟨hLine, hGet⟩ := hOthers 4 (by decide) (by decide)
  obtain ⟨found, hOld, hNew⟩ := hGet "k".toList
  obtain ⟨found', hOld', hNew'⟩ := hSelf "effort".toList (by decide)
    fun hNone => absurd hNone hDrawer
  refine ⟨edits, ids, d', s, hSet, hEdit, hLine.trans (by decide), ?_, ?_⟩
  · rw [hNew, ← hOld, hNext]
  · rw [hNew', ← hOld', hEffort]

end Property

end Outliner
