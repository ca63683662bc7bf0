import Mathlib.Data.List.Induction
import Mathlib.Data.List.TakeWhile
import Outliner.ListItem.Edits
import Outliner.Proofs.Heading

/-!
# Outliner — what commands do to list items

Facts about item lines, extents and runs, as far as every command on an item relies on them: the
columns of a marker and of a checkbox are columns of the line, extents end on lines that exist, and
a run is numbered on the way down, one edit a line.

* `scan?_eq_some` — what an item line is made of.
* `extentEnd_eq_or_lt`, `extentEnd_lt` — an item ends on its own line or below, on one that exists.
* `pairwise_run` — a run goes down the lines.
* `inPlace_numberEdits`, `inPlace_shiftEdits`, `onLine_toggleEdit?` — edits in place.
* `unbroken_render` — the line of an item is unbroken when its content is.
-/

namespace Outliner

/-! ## Markers -/

namespace Bullet

/-- The character after a number is one of the two that are read. -/
def Standard : Bullet → Prop
  | ordered _ delimiter => delimiter = '.' ∨ delimiter = ')'
  | _ => True

/-- What a number that opens a text is made of. -/
theorem takeNumber?_eq_some {t after : Text} {b : Bullet} (h : takeNumber? t = some (b, after)) :
    ∃ number delimiter, b = ordered number delimiter ∧ (delimiter = '.' ∨ delimiter = ')') ∧
      t = t.takeWhile Char.isDigit ++ delimiter :: after ∧ t.takeWhile Char.isDigit ≠ [] ∧
      Text.word? (t.takeWhile Char.isDigit) = some number := by
  simp only [takeNumber?] at h
  split at h
  · next delimiter after' hDrop =>
    split at h
    · next hMarker =>
      obtain ⟨number, hNumber, hEq⟩ := Option.map_eq_some_iff.mp h
      injection hEq with hb ha
      subst hb ha
      have hSplit := List.takeWhile_append_dropWhile (p := Char.isDigit) (l := t)
      rw [hDrop] at hSplit
      exact ⟨number, delimiter, rfl, hMarker.2, hSplit.symm, hMarker.1, hNumber⟩
    · contradiction
  · contradiction

/-- A run of digits stands for a number with no more digits. -/
theorem length_toDigits_ofDigitChars_le {digits : Text} (hNonempty : digits ≠ [])
    (hDigits : ∀ c ∈ digits, c.isDigit = true) :
    (Nat.toDigits 10 (Nat.ofDigitChars 10 digits 0)).length ≤ digits.length := by
  -- The last digit is the one that both ways of counting take off, so it is taken off first.
  induction digits using List.reverseRec with
  | nil => contradiction
  | append_singleton digits c ih =>
    have hDigit : c.toNat - '0'.toNat < 10 := by
      have hc := hDigits c (by simp)
      simp only [Char.isDigit, Bool.and_eq_true, decide_eq_true_eq] at hc
      have : c.toNat ≤ 57 := hc.2
      exact Nat.lt_succ_of_le (Nat.sub_le_sub_right this 48)
    rw [Nat.ofDigitChars_append, Nat.ofDigitChars_cons, Nat.ofDigitChars_nil, List.length_append,
      List.length_singleton]
    by_cases hZero : Nat.ofDigitChars 10 digits 0 = 0
    · rw [hZero, Nat.mul_zero, Nat.zero_add, Nat.toDigits_of_lt_base hDigit]
      exact Nat.le_add_left ..
    · have hDigitsNe : digits ≠ [] := by
        rintro rfl
        exact hZero rfl
      rw [← Nat.toDigits_append_toDigits (by decide) (Nat.pos_of_ne_zero hZero) hDigit,
        List.length_append, Nat.toDigits_of_lt_base hDigit]
      exact Nat.succ_le_succ (ih hDigitsNe fun d hd => hDigits d (by simp [hd]))

/-- A number in writing is at most as long as the digits that it was read from. -/
theorem length_ofNat_le_of_word? {digits : Text} {number : UInt64} (hNonempty : digits ≠ [])
    (hDigits : ∀ c ∈ digits, c.isDigit = true) (h : Text.word? digits = some number) :
    (Text.ofNat number.toNat).length ≤ digits.length := by
  simp only [Text.word?, Option.ite_none_right_eq_some, Option.some.injEq] at h
  obtain ⟨hSize, rfl⟩ := h
  rw [UInt64.toNat_ofNat_of_lt' hSize, Text.ofNat]
  exact length_toDigits_ofDigitChars_le hNonempty hDigits

/-- A delimiter ends a run of digits. -/
theorem takeWhile_isDigit_append {digits : Text} {delimiter : Char}
    (hDigits : ∀ c ∈ digits, c.isDigit = true) (hDelimiter : delimiter = '.' ∨ delimiter = ')')
    (t : Text) :
    (digits ++ delimiter :: t).takeWhile Char.isDigit = digits ∧
      (digits ++ delimiter :: t).dropWhile Char.isDigit = delimiter :: t := by
  have hNot : delimiter.isDigit = false := by
    rcases hDelimiter with rfl | rfl <;> decide
  constructor
  · simp [List.takeWhile_append_of_pos hDigits, hNot]
  · simp [List.dropWhile_append_of_pos hDigits, hNot]

/-- Digits and a delimiter are read as a numbered marker, whatever follows. -/
theorem take?_digits {digits : Text} {number : UInt64} {delimiter : Char}
    (hNonempty : digits ≠ []) (hDigits : ∀ c ∈ digits, c.isDigit = true)
    (hDelimiter : delimiter = '.' ∨ delimiter = ')') (hWord : Text.word? digits = some number)
    (t : Text) : take? (digits ++ delimiter :: t) = some (ordered number delimiter, t) := by
  obtain ⟨hTake, hDrop⟩ := takeWhile_isDigit_append hDigits hDelimiter t
  have hNumber : takeNumber? (digits ++ delimiter :: t) = some (ordered number delimiter, t) := by
    simp only [takeNumber?, hTake, hDrop]
    simp [hNonempty, hDelimiter, hWord]
  -- A digit opens the text, so no other marker does.
  obtain ⟨c, rest, rfl⟩ := List.exists_cons_of_ne_nil hNonempty
  have hc := hDigits c (List.mem_cons_self ..)
  rw [← hNumber, List.cons_append, take?.eq_def]
  split
  · next h =>
    injection h with h
    rw [h] at hc
    contradiction
  · next h =>
    injection h with h
    rw [h] at hc
    contradiction
  · next h =>
    injection h with h
    rw [h] at hc
    contradiction
  · rfl

/-- A marker is one of three characters, or a number. -/
theorem take?_eq_some {t after : Text} {b : Bullet} (h : take? t = some (b, after)) :
    (∃ c, t = c :: after ∧ c.isDigit = false ∧ b.render = [c] ∧ b.isOrdered = false ∧
      b.Standard ∧ ∀ x, take? (c :: x) = some (b, x)) ∨
      takeNumber? t = some (b, after) := by
  rw [take?.eq_def] at h
  split at h
  · injection h with h
    injection h with hb ha
    subst hb ha
    exact Or.inl ⟨'-', rfl, rfl, rfl, rfl, trivial, fun _ => rfl⟩
  · injection h with h
    injection h with hb ha
    subst hb ha
    exact Or.inl ⟨'+', rfl, rfl, rfl, rfl, trivial, fun _ => rfl⟩
  · injection h with h
    injection h with hb ha
    subst hb ha
    exact Or.inl ⟨'*', rfl, rfl, rfl, rfl, trivial, fun _ => rfl⟩
  · exact Or.inr h

/-- The marker stands in front of what it leaves, is at least as long as in writing, and is read the
same in front of any text. -/
theorem exists_marker_of_take? {t after : Text} {b : Bullet} (h : take? t = some (b, after)) :
    ∃ marker, t = marker ++ after ∧ b.render.length ≤ marker.length ∧
      (t.takeWhile Char.isDigit).length ≤ marker.length ∧
      ∀ x, take? (marker ++ x) = some (b, x) := by
  -- One character is its own writing; a number may have been read with leading zeros.
  rcases take?_eq_some h with ⟨c, rfl, hDigit, hRender, -, -, hAny⟩ | hNumber
  · exact ⟨[c], rfl, by simp [hRender], by simp [hDigit], hAny⟩
  · obtain ⟨number, delimiter, rfl, hDelimiter, hEq, hDigits, hWord⟩ :=
      takeNumber?_eq_some hNumber
    have hAll : ∀ c ∈ t.takeWhile Char.isDigit, c.isDigit = true :=
      fun c hc => List.mem_takeWhile_imp hc
    refine ⟨t.takeWhile Char.isDigit ++ [delimiter], by simpa using hEq, ?_, by simp, fun x => ?_⟩
    · have := length_ofNat_le_of_word? hDigits hAll hWord
      simpa [render] using this
    · rw [List.append_assoc, List.singleton_append]
      exact take?_digits hDigits hAll hDelimiter hWord x

theorem standard_of_take? {t after : Text} {b : Bullet} (h : take? t = some (b, after)) :
    b.Standard := by
  rcases take?_eq_some h with ⟨c, -, -, -, -, hStandard, -⟩ | hNumber
  · exact hStandard
  · obtain ⟨number, delimiter, rfl, hDelimiter, -⟩ := takeNumber?_eq_some hNumber
    exact hDelimiter

/-- Digits open the text of a numbered marker. -/
theorem digits_ne_nil_of_take? {t after : Text} {b : Bullet} (h : take? t = some (b, after))
    (hOrdered : b.isOrdered = true) : t.takeWhile Char.isDigit ≠ [] := by
  rcases take?_eq_some h with ⟨c, -, -, -, hPlain, -⟩ | hNumber
  · rw [hPlain] at hOrdered
    contradiction
  · obtain ⟨number, delimiter, rfl, -, -, hDigits, -⟩ := takeNumber?_eq_some hNumber
    exact hDigits

theorem Standard.next {b : Bullet} (h : b.Standard) : b.next.Standard := by
  cases b <;> exact h

theorem Standard.withNumber {b : Bullet} (h : b.Standard) (number : UInt64) :
    (b.withNumber number).Standard := by
  cases b <;> exact h

theorem unbroken_ofNat (n : Nat) : (Text.ofNat n).Unbroken := by
  have hDigit : ∀ c ∈ Text.ofNat n, c.isDigit = true := fun c hc =>
    Nat.isDigit_of_mem_toDigits (by decide) (by decide) hc
  exact ⟨fun h => absurd (hDigit _ h) (by decide), fun h => absurd (hDigit _ h) (by decide)⟩

theorem Standard.unbroken_render {b : Bullet} (h : b.Standard) : b.render.Unbroken := by
  cases b with
  | dash => simp [render]
  | plus => simp [render]
  | star => simp [render]
  | ordered number delimiter =>
    rcases h with rfl | rfl <;> simp [render, unbroken_ofNat]

end Bullet

/-! ## Item lines -/

/-- A checkbox stands in front of what it leaves, with its bracket first. -/
theorem Checkbox.exists_box_of_take (t : Text) :
    ∃ box, t = box ++ (take t).2 ∧
      ((take t).1.isSome = true → ∃ mark gap, box = '[' :: mark :: ']' :: gap) := by
  rw [take.eq_def]
  split
  · next mark after =>
    split
    · split
      · refine ⟨'[' :: mark :: ']' :: after.take (Text.indent after), ?_, fun _ => ⟨_, _, rfl⟩⟩
        simp only [List.cons_append, Text.dropIndent_eq_drop, List.take_append_drop]
      · exact ⟨[], rfl, fun h => by simp at h⟩
    · exact ⟨[], rfl, fun h => by simp at h⟩
  · exact ⟨[], rfl, fun h => by simp at h⟩

namespace ListItem

variable {config : Config} {lines : Lines} {n m : Nat} {line rest : Text} {item : ListItem}

theorem exists_scan?_of_parse? (hp : parse? line = some item) :
    ∃ rest, scan? line = some (item, rest) := by
  obtain ⟨⟨item', rest⟩, hScan, hItem⟩ := Option.map_eq_some_iff.mp hp
  have hItem : item' = item := hItem
  exact ⟨rest, by rw [hScan, hItem]⟩

/-- What an item line is read from. -/
theorem scan?_eq_some (h : scan? line = some (item, rest)) :
    item.indent = line.indent ∧
      ∃ after, Bullet.take? line.dropIndent = some (item.bullet, after) ∧
        Checkbox.take (Text.dropIndent after) = (item.checkbox, rest) := by
  simp only [scan?, Option.bind_eq_bind] at h
  obtain ⟨⟨bullet, after⟩, hBullet, h⟩ := Option.bind_eq_some_iff.mp h
  split at h
  · contradiction
  · injection h with h
    injection h with hItem hRest
    subst hItem hRest
    exact ⟨rfl, after, hBullet, rfl⟩

/-- An item line: the indentation, the marker, a gap, the checkbox if there is one, and the rest. -/
theorem exists_parts_of_scan? (h : scan? line = some (item, rest)) :
    ∃ marker gap box, line = line.take item.indent ++ (marker ++ (gap ++ (box ++ rest))) ∧
      (line.take item.indent).length = item.indent ∧
      item.bullet.render.length ≤ marker.length ∧
      ((line.drop item.indent).takeWhile Char.isDigit).length ≤ marker.length ∧
      (item.checkbox.isSome = true → ∃ mark gap', box = '[' :: mark :: ']' :: gap') := by
  obtain ⟨hIndent, after, hBullet, hBox⟩ := scan?_eq_some h
  obtain ⟨marker, hMarker, hRender, hDigits, -⟩ := Bullet.exists_marker_of_take? hBullet
  obtain ⟨box, hEq, hBracket⟩ := Checkbox.exists_box_of_take (Text.dropIndent after)
  rw [hBox] at hEq hBracket
  rw [Text.dropIndent_eq_drop, ← hIndent] at hMarker hDigits
  refine ⟨marker, after.take after.indent, box, ?_, ?_, hRender, hDigits, hBracket⟩
  · rw [← hEq, Text.dropIndent_eq_drop, List.take_append_drop, ← hMarker, List.take_append_drop]
  · rw [List.length_take, Nat.min_eq_left (hIndent ▸ Text.indent_le_length line)]

/-- The digits of a marker stand in front of the content. -/
theorem digits_le_contentColumn {column : Nat} (hp : parse? line = some item)
    (hc : contentColumn? line = some column) :
    item.indent + ((line.drop item.indent).takeWhile Char.isDigit).length ≤ column ∧
      column ≤ line.length := by
  obtain ⟨rest, hScan⟩ := exists_scan?_of_parse? hp
  rw [contentColumn?, hScan] at hc
  injection hc with hc
  obtain ⟨marker, gap, box, hLine, hTake, -, hDigits, -⟩ := exists_parts_of_scan? hScan
  have hLength := congrArg List.length hLine
  simp only [List.length_append, hTake] at hLength
  have hc : line.length - rest.length = column := hc
  omega

theorem exists_contentColumn (hp : parse? line = some item) :
    ∃ column, contentColumn? line = some column := by
  obtain ⟨rest, hScan⟩ := exists_scan?_of_parse? hp
  exact ⟨_, by rw [contentColumn?, hScan]; rfl⟩

theorem lt_length_of_parse? (hp : parse? (lines.lineAt n) = some item) : n < lines.length := by
  apply Lines.lt_length_of_lineAt_ne_nil
  intro hNil
  have hNone : parse? [] = none := by decide
  rw [hNil, hNone] at hp
  contradiction

theorem standard_of_parse? (hp : parse? line = some item) : item.bullet.Standard := by
  obtain ⟨rest, hScan⟩ := exists_scan?_of_parse? hp
  obtain ⟨-, after, hBullet, -⟩ := scan?_eq_some hScan
  exact Bullet.standard_of_take? hBullet

/-- The line of an item with a standard marker and unbroken content is unbroken. -/
theorem unbroken_render (hBullet : item.bullet.Standard) (hContent : item.content.Unbroken) :
    item.render.Unbroken := by
  have hBox : ∀ c : Checkbox, c.render.Unbroken := by
    intro c
    cases c <;> simp [Checkbox.render, Checkbox.mark]
  simp only [render, Text.unbroken_append_iff]
  refine ⟨⟨⟨⟨Text.unbroken_spaces _, hBullet.unbroken_render⟩, by simp⟩, ?_⟩, hContent⟩
  split
  · simp [hBox]
  · exact Text.unbroken_nil

/-! ## Extents and runs -/

/-- The search for the end of an item ends on the line it started from, or on one that it met. -/
theorem follow_eq_or_mem (indent last : Nat) (walk : List (Text × Nat)) :
    (follow indent last walk).1 = last ∨ ∃ l, (l, (follow indent last walk).1) ∈ walk := by
  -- On the walk: `last` is the line it started from, or the last one that it has met and owns.
  induction walk generalizing last with
  | nil => exact Or.inl rfl
  | cons x rest ih =>
    obtain ⟨line, n⟩ := x
    rw [follow]
    split
    · -- A blank line is passed over.
      rcases ih last with h | ⟨l, h⟩
      · exact Or.inl h
      · exact Or.inr ⟨l, List.mem_cons_of_mem _ h⟩
    · split
      · exact Or.inl rfl
      · split
        · exact Or.inl rfl
        · -- The item owns the line.
          rcases ih n with h | ⟨l, h⟩
          · rw [h]
            exact Or.inr ⟨line, List.mem_cons_self ..⟩
          · exact Or.inr ⟨l, List.mem_cons_of_mem _ h⟩

/-- An item ends on its own line, or on one below it that exists. -/
theorem extentEnd_eq_or_lt (lines : Lines) (n indent : Nat) :
    extentEnd lines n indent = n ∨
      n < extentEnd lines n indent ∧ extentEnd lines n indent < lines.length := by
  rcases follow_eq_or_mem indent n (lines.onward (n + 1)) with h | ⟨l, h⟩
  · exact Or.inl h
  · obtain ⟨hLow, hHigh, -⟩ := Lines.mk_mem_onward_iff.mp h
    exact Or.inr ⟨hLow, hHigh⟩

theorem extentEnd_lt (hn : n < lines.length) (indent : Nat) :
    extentEnd lines n indent < lines.length := by
  rcases extentEnd_eq_or_lt lines n indent with h | h
  · rw [h]
    exact hn
  · exact h.2

/-- A walk picks its members from the lines it meets, in their order. -/
theorem walk_sublist (limit indent blanks : Nat) (xs : List (Text × Nat)) :
    (walk limit indent blanks xs).1.Sublist (xs.map Prod.snd) := by
  induction xs generalizing blanks with
  | nil => exact .slnil
  | cons x rest ih =>
    obtain ⟨line, n⟩ := x
    rw [walk]
    -- A blank line, a member, a line that a member owns, or the end of the run.
    split
    · split
      · exact List.nil_sublist _
      · exact (ih (blanks + 1)).cons n
    · exact (ih 0).cons_cons n
    · exact (ih 0).cons n
    · exact List.nil_sublist _

/-- A run goes down the lines. -/
theorem pairwise_run (config : Config) (lines : Lines) (n indent : Nat) :
    (run config lines n indent).Pairwise (· < ·) := by
  have hDown : ∀ first, ((walkDown config.blankRunLimit.toNat indent lines first).1).Sublist
      ((lines.onward (first + 1)).map Prod.snd) := fun first => walk_sublist _ _ _ _
  -- Wherever the walk upward has found the first member, all others are found on the way down.
  rw [run]
  refine List.pairwise_cons.mpr ⟨?_, ?_⟩
  · intro m hm
    obtain ⟨⟨l, m⟩, hMem, rfl⟩ := List.mem_map.mp ((hDown _).subset hm)
    exact (Lines.mk_mem_onward_iff.mp hMem).1
  · exact (List.pairwise_map.mpr (Lines.pairwise_onward lines _)).sublist (hDown _)

/-! ## Numbers -/

/-- Giving an item a number replaces the digits of its marker. -/
theorem numberEdit?_eq_some {number : Nat} {e : Edit} (h : numberEdit? lines n number = some e) :
    ∃ item, parse? (lines.lineAt n) = some item ∧
      0 < (((lines.lineAt n).drop item.indent).takeWhile Char.isDigit).length ∧
      e = ⟨.onLine n item.indent
        (item.indent + (((lines.lineAt n).drop item.indent).takeWhile Char.isDigit).length),
        Text.ofNat number⟩ := by
  obtain ⟨item, hp, h⟩ := Option.bind_eq_some_iff.mp h
  obtain ⟨old, hOld, h⟩ := Option.bind_eq_some_iff.mp h
  split at h
  · contradiction
  · injection h with h
    refine ⟨item, hp, ?_, h.symm⟩
    have hOrdered : item.bullet.isOrdered = true := by
      cases hb : item.bullet <;> simp_all [Bullet.number?, Bullet.isOrdered]
    obtain ⟨rest, hScan⟩ := exists_scan?_of_parse? hp
    obtain ⟨hIndent, after, hBullet, -⟩ := scan?_eq_some hScan
    rw [hIndent, ← Text.dropIndent_eq_drop]
    exact List.length_pos_iff.mpr (Bullet.digits_ne_nil_of_take? hBullet hOrdered)

/-- The edit that numbers an item stays on its line. -/
theorem onLine_numberEdit? {number : Nat} {e : Edit} (h : numberEdit? lines n number = some e) :
    e.OnLine lines ∧ e.span.start.line = n := by
  obtain ⟨item, hp, -, rfl⟩ := numberEdit?_eq_some h
  obtain ⟨column, hc⟩ := exists_contentColumn hp
  have := digits_le_contentColumn hp hc
  exact ⟨Edit.onLine_mk (lt_length_of_parse? hp) (Nat.le_add_right _ _) (by omega) _, rfl⟩

/-- Lines on the way down are numbered in place. -/
theorem inPlace_numberEdits {members : List Nat} (hMembers : members.Pairwise (· < ·))
    (first : Nat) : Batch.InPlace lines (numberEdits lines members first) := by
  apply Batch.inPlace_filterMap Prod.fst
  · rw [← List.pairwise_map (f := Prod.fst) (R := (· < ·)), List.zipIdx_map_fst]
    exact hMembers
  · rintro ⟨m, number⟩ - e he
    exact onLine_numberEdit? he

theorem exists_of_mem_numberEdits {members : List Nat} {first : Nat} {e : Edit}
    (h : e ∈ numberEdits lines members first) :
    ∃ m ∈ members, ∃ number, numberEdit? lines m number = some e := by
  obtain ⟨⟨m, number⟩, hMem, he⟩ := List.mem_filterMap.mp h
  exact ⟨m, List.fst_mem_of_mem_zipIdx hMem, number, he⟩

/-- Renumbering a run is done in place. -/
theorem inPlace_renumber (config : Config) (lines : Lines) (n : Nat) :
    Batch.InPlace lines (renumber config lines n) := by
  rw [renumber]
  split
  · split
    · exact inPlace_numberEdits (pairwise_run _ _ _ _) 1
    · exact ⟨by simp, .nil⟩
  · exact ⟨by simp, .nil⟩

/-- Renumbering a run gives numbers, one at a time. -/
theorem exists_of_mem_renumber {e : Edit} (h : e ∈ renumber config lines n) :
    ∃ m k, numberEdit? lines m k = some e := by
  rw [renumber] at h
  split at h
  · split at h
    · obtain ⟨m, -, k, he⟩ := exists_of_mem_numberEdits h
      exact ⟨m, k, he⟩
    · simp at h
  · simp at h

/-- Renumbering a run around a new item is done in place, one number at a time. -/
theorem inPlace_renumberAround? {before number : Nat} {edits : List Edit}
    (h : renumberAround? config lines n before = some (number, edits)) :
    Batch.InPlace lines edits ∧ ∀ e ∈ edits, ∃ m k, numberEdit? lines m k = some e := by
  obtain ⟨item, -, h⟩ := Option.bind_eq_some_iff.mp h
  split at h
  · injection h with h
    injection h with _ hEdits
    subst hEdits
    have hRun := pairwise_run config lines n item.indent
    have hAbove : Batch.InPlace lines (numberEdits lines _ 1) :=
      inPlace_numberEdits (hRun.filter (· < before)) 1
    have hBelow : ∀ k, Batch.InPlace lines (numberEdits lines _ k) := fun k =>
      inPlace_numberEdits (hRun.filter (before ≤ ·)) k
    refine ⟨⟨?_, ?_⟩, ?_⟩
    · intro e he
      rcases List.mem_append.mp he with he | he
      · exact hAbove.onLine e he
      · exact (hBelow _).onLine e he
    · refine List.pairwise_append.mpr ⟨hAbove.increasing, (hBelow _).increasing, ?_⟩
      -- The members in front of the new item are above it, the others are not.
      intro e he f hf
      obtain ⟨i, hi, _, he⟩ := exists_of_mem_numberEdits he
      obtain ⟨j, hj, _, hf⟩ := exists_of_mem_numberEdits hf
      have hi := (List.mem_filter.mp hi).2
      have hj := (List.mem_filter.mp hj).2
      rw [(onLine_numberEdit? he).2, (onLine_numberEdit? hf).2]
      simp only [decide_eq_true_eq] at hi hj
      omega
    · intro e he
      rcases List.mem_append.mp he with he | he
      · obtain ⟨i, -, k, he⟩ := exists_of_mem_numberEdits he
        exact ⟨i, k, he⟩
      · obtain ⟨j, -, k, he⟩ := exists_of_mem_numberEdits he
        exact ⟨j, k, he⟩
  · contradiction

/-! ## Moving an item and its checkbox -/

/-- Moving an item changes the indentation of lines that it owns. -/
theorem inPlace_shiftEdits (config : Config) (lines : Lines) (n : Nat) (shift : Shift) :
    Batch.InPlace lines (shiftEdits config lines n shift) := by
  rw [shiftEdits]
  split
  · exact ⟨by simp, .nil⟩
  · dsimp only
    split
    · exact ⟨by simp, .nil⟩
    · -- Edits that would change nothing are left out, and the others keep their order.
      refine Batch.InPlace.of_sublist ?_ List.filter_sublist
      rw [← List.filterMap_eq_map]
      apply Batch.inPlace_filterMap Prod.snd
      · exact (Lines.pairwise_onward lines n).sublist
          (List.filter_sublist.trans (List.take_sublist _ _))
      · rintro ⟨l, m⟩ hx e he
        obtain ⟨-, hm, rfl⟩ :=
          Lines.mk_mem_onward_iff.mp (List.mem_of_mem_take (List.mem_filter.mp hx).1)
        injection he with he
        subst he
        cases shift with
        | outward =>
          have hWidth := Nat.le_trans (Nat.min_le_right config.indentWidth.toNat _)
            (Text.indent_le_length (lines.lineAt m))
          exact ⟨Edit.onLine_mk hm (Nat.zero_le _) hWidth _, rfl⟩
        | inward => exact ⟨Edit.onLine_mk hm (Nat.le_refl _) (Nat.zero_le _) _, rfl⟩

/-- Moving an item writes nothing but spaces. -/
theorem unbroken_shiftEdits (config : Config) (lines : Lines) (n : Nat) (shift : Shift) :
    Batch.Unbroken (shiftEdits config lines n shift) := by
  rw [shiftEdits]
  split
  · simp [Batch.Unbroken]
  · dsimp only
    split
    · simp [Batch.Unbroken]
    · intro e he
      obtain ⟨⟨l, m⟩, -, rfl⟩ := List.mem_map.mp (List.mem_filter.mp he).1
      cases shift with
      | outward => exact Text.unbroken_nil
      | inward => exact Text.unbroken_spaces _

/-- Toggling a checkbox replaces the character in the box. -/
theorem onLine_toggleEdit? {e : Edit} (h : toggleEdit? lines n = some e) :
    e.OnLine lines ∧ e.text.Unbroken := by
  obtain ⟨item, hp, h⟩ := Option.bind_eq_some_iff.mp h
  obtain ⟨state, hState, h⟩ := Option.bind_eq_some_iff.mp h
  obtain ⟨gap, hGap, h⟩ := Option.bind_eq_some_iff.mp h
  injection h with h
  subst h
  obtain ⟨rest, hScan⟩ := exists_scan?_of_parse? hp
  obtain ⟨marker, space, box, hLine, hTake, hRender, -, hBox⟩ := exists_parts_of_scan? hScan
  obtain ⟨mark, gap', rfl⟩ := hBox (by rw [hState]; rfl)
  -- The bracket of the box stands behind the indentation, the marker and the gap.
  have hBracket : (lines.lineAt n)[item.indent + marker.length + space.length]? = some '[' := by
    rw [hLine, List.getElem?_append_right (by omega), hTake,
      List.getElem?_append_right (by omega), List.getElem?_append_right (by omega),
      show item.indent + marker.length + space.length - item.indent - marker.length -
        space.length = 0 by omega]
    rfl
  -- The first bracket is that of the box, or one further to the left.
  have hFirst : gap ≤ item.indent + marker.length + space.length -
      (item.indent + item.bullet.render.length) := by
    obtain ⟨hLt, _, hBefore⟩ := List.findIdx?_eq_some_iff_getElem.mp hGap
    by_contra hLate
    apply hBefore _ (Nat.lt_of_not_le hLate)
    rw [beq_iff_eq]
    apply Option.some.inj
    rw [← List.getElem?_eq_getElem, List.getElem?_drop, Nat.add_sub_cancel' (by omega), hBracket]
  have hLength := congrArg List.length hLine
  simp only [List.length_append, hTake, List.length_cons] at hLength
  refine ⟨Edit.onLine_mk (lt_length_of_parse? hp) (Nat.le_succ _) (by omega) _, ?_⟩
  cases state <;> simp [Checkbox.toggled, Checkbox.mark]

end ListItem

end Outliner
