import Outliner.Proofs.Property.Update

/-!
# Outliner — the entries of a drawer

To look up a key and to list all keys is to read the same thing: the entries of a drawer, from top
to bottom. Where they stand does not matter. So what is said of a drawer after a property has been
set is said of a list: one entry has made place for another, or there is one more at the end.

* `Drawer.entries` — the entries of a drawer.
* `Upsert` — the entries before and after a property is set.

Main results:

* `Drawer.map_find?` — a key is looked up among the entries.
* `exists_upsert` — what setting a property does to the entries of a drawer.
* `Upsert.find?_other`, `Upsert.countP_add` — what becomes of the other entries.
-/

namespace Outliner

variable {config : Config} {lines lines' : Lines} {n m : Nat} {d : Drawer} {found : Option Drawer}
  {key key' value id : Text} {p : Property}

/-! ## Entries as a list -/

namespace Drawer

/-- The entries between the markers, from top to bottom. -/
def entries (lines : Lines) (d : Drawer) : List Property :=
  (d.interior lines).filterMap fun (line, _) => Property.parse? line

/-- The lines between the markers, by their numbers. -/
theorem interior_eq_map (h : d.stop ≤ lines.length) :
    d.interior lines =
      (List.range' (d.start + 1) (d.stop - (d.start + 1))).map fun k => (lines.lineAt k, k) := by
  rw [interior, Lines.take_numbered]
  apply List.ext_getElem
  · simp only [List.length_drop, List.length_zipIdx, List.length_take, List.length_map,
      List.length_range']
    omega
  · intro i hi hi'
    have hLine : d.start + 1 + i < lines.length := by
      simp only [List.length_drop, List.length_zipIdx, List.length_take] at hi
      omega
    simp [Lines.lineAt_of_lt hLine]

theorem entries_eq_filterMap (h : d.stop ≤ lines.length) :
    d.entries lines = (List.range' (d.start + 1) (d.stop - (d.start + 1))).filterMap
      fun k => Property.parse? (lines.lineAt k) := by
  rw [entries, interior_eq_map h, List.filterMap_map]
  rfl

theorem exists_of_mem_entries (h : d.stop ≤ lines.length) (hp : p ∈ d.entries lines) :
    ∃ k, d.start < k ∧ k < d.stop ∧ Property.parse? (lines.lineAt k) = some p := by
  rw [entries_eq_filterMap h] at hp
  obtain ⟨k, hk, hParse⟩ := List.mem_filterMap.mp hp
  obtain ⟨hLow, hHigh⟩ := List.mem_range'_1.mp hk
  exact ⟨k, by omega, by omega, hParse⟩

/-- The entries are those of the lines, wherever these stand. -/
theorem entries_congr {o : Nat} (h : d.stop ≤ lines.length) (h' : d.stop + o ≤ lines'.length)
    (hLine : ∀ k, d.start < k → k < d.stop → lines'.lineAt (k + o) = lines.lineAt k) :
    entries lines' ⟨d.start + o, d.stop + o⟩ = d.entries lines := by
  -- As many lines between the markers, each so many further below.
  have hRange : List.range' (d.start + o + 1) (d.stop + o - (d.start + o + 1)) =
      (List.range' (d.start + 1) (d.stop - (d.start + 1))).map (o + ·) := by
    rw [List.map_add_range']
    congr 1 <;> omega
  rw [entries_eq_filterMap h', entries_eq_filterMap h, hRange, List.filterMap_map]
  apply List.filterMap_congr
  intro k hk
  obtain ⟨hLow, hHigh⟩ := List.mem_range'_1.mp hk
  show Property.parse? (lines'.lineAt (o + k)) = Property.parse? (lines.lineAt k)
  rw [Nat.add_comm, hLine k (by omega) (by omega)]

/-- The entries above a line, that of the line, and those below it. -/
theorem entries_split (hStart : d.start < m) (hStop : m < d.stop) (h : d.stop ≤ lines.length) :
    d.entries lines = entries lines ⟨d.start, m⟩ ++
      ((Property.parse? (lines.lineAt m)).toList ++ entries lines ⟨m, d.stop⟩) := by
  have hRange : List.range' (d.start + 1) (d.stop - (d.start + 1)) =
      List.range' (d.start + 1) (m - (d.start + 1)) ++
        m :: List.range' (m + 1) (d.stop - (m + 1)) := by
    rw [← List.range'_succ, show d.stop - (d.start + 1) =
      (m - (d.start + 1)) + (d.stop - (m + 1) + 1) by omega, ← List.range'_append,
      show d.start + 1 + 1 * (m - (d.start + 1)) = m by omega]
  have hAbove : (⟨d.start, m⟩ : Drawer).stop ≤ lines.length := by
    show m ≤ lines.length
    omega
  rw [entries_eq_filterMap h, hRange, List.filterMap_append, entries_eq_filterMap hAbove,
    entries_eq_filterMap (d := ⟨m, d.stop⟩) h, List.filterMap_cons]
  cases Property.parse? (lines.lineAt m) <;> rfl

/-- The entries after a line between the markers has been given another text. -/
theorem entries_set (hStart : d.start < m) (hStop : m < d.stop) (h : d.stop ≤ lines.length)
    (new : Text) :
    d.entries (lines.set m new) = entries lines ⟨d.start, m⟩ ++
      ((Property.parse? new).toList ++ entries lines ⟨m, d.stop⟩) := by
  have hm : m < lines.length := Nat.lt_of_lt_of_le hStop h
  have hLength : (lines.set m new).length = lines.length := List.length_set
  -- Above the line and below it nothing has changed.
  have hAbove : entries (lines.set m new) ⟨d.start, m⟩ = entries lines ⟨d.start, m⟩ :=
    entries_congr (o := 0) (d := ⟨d.start, m⟩) (Nat.le_of_lt hm) (hLength ▸ Nat.le_of_lt hm)
      fun k _ hk => Lines.lineAt_set_of_ne (Nat.ne_of_gt hk) new
  have hBelow : entries (lines.set m new) ⟨m, d.stop⟩ = entries lines ⟨m, d.stop⟩ :=
    entries_congr (o := 0) (d := ⟨m, d.stop⟩) h (hLength ▸ h)
      fun k hk _ => Lines.lineAt_set_of_ne (Nat.ne_of_lt hk) new
  rw [entries_split hStart hStop (hLength ▸ h), Lines.lineAt_set_self hm, hAbove, hBelow]

/-- The entries after a line has been put in as the last one. -/
theorem entries_putIn (hStart : d.start < d.stop) (h : d.stop ≤ lines.length) (new : Text) :
    entries (lines.take d.stop ++ [new] ++ lines.drop d.stop) ⟨d.start, d.stop + 1⟩ =
      d.entries lines ++ (Property.parse? new).toList := by
  obtain ⟨lines', hResult⟩ : ∃ lines' : Lines, lines.take d.stop ++ [new] ++ lines.drop d.stop =
    lines' := ⟨_, rfl⟩
  have hLength : d.stop + 1 ≤ lines'.length := by
    simp only [← hResult, List.length_append, List.length_take, List.length_drop,
      List.length_singleton]
    omega
  -- The old entries stand where they stood, and there are none below the new one.
  have hAbove : entries lines' ⟨d.start, d.stop⟩ = d.entries lines :=
    entries_congr (o := 0) h (Nat.le_of_succ_le hLength) fun k _ hk => by
      rw [← hResult]
      exact Lines.lineAt_putIn_of_lt h hk [new]
  have hBelow : entries lines' ⟨d.stop, d.stop + 1⟩ = [] := by
    rw [entries_eq_filterMap hLength]
    simp
  have hNew : lines'.lineAt d.stop = new := by
    rw [← hResult, Lines.lineAt_putIn h]
  rw [hResult, entries_split (d := ⟨d.start, d.stop + 1⟩) hStart (Nat.lt_succ_self d.stop) hLength,
    hAbove, hNew, hBelow, List.append_nil]

/-- **A key is looked up among the entries.** -/
theorem map_find? (lines : Lines) (d : Drawer) (key : Text) :
    (d.find? lines key).map (·.2) = (d.entries lines).find? fun p => p.key.sameLetters key := by
  rw [find?, entries]
  -- On the lines between the markers: each is an entry for the key, another one, or none.
  induction d.interior lines with
  | nil => rfl
  | cons x rest ih =>
    obtain ⟨line, k⟩ := x
    cases hParse : Property.parse? line with
    | none => simpa [List.findSome?_cons, List.filterMap_cons, hParse] using ih
    | some p =>
      by_cases hSame : p.key.sameLetters key = true
      · simp [hParse, hSame]
      · simpa [List.findSome?_cons, List.filterMap_cons, hParse, hSame] using ih

theorem isSome_find? (lines : Lines) (d : Drawer) (key : Text) :
    (d.find? lines key).isSome = (d.entries lines).any fun p => p.key.sameLetters key := by
  rw [← Option.isSome_map (f := Prod.snd), map_find?, List.isSome_find?]

end Drawer

namespace Property

theorem get?_eq (h : Drawer.below? config lines n = .ok found) (key : Text) :
    get? config lines n key = .ok (found.bind fun drawer =>
      ((drawer.entries lines).find? fun p => p.key.sameLetters key).map Property.value) := by
  simp only [get?_of_below? h, ← Drawer.map_find?, Option.map_map]
  rfl

/-! ## One entry set -/

/-- The entries of a drawer before and after a property is set: the first one for the key makes
place for what is new; if there is none, that comes last. -/
inductive Upsert (key : Text) (new : List Property) : List Property → List Property → Prop where
  | replaced {before after : List Property} {old : Property}
      (hOld : old.key.sameLetters key = true)
      (hBefore : ∀ p ∈ before, p.key.sameLetters key = false) :
      Upsert key new (before ++ old :: after) (before ++ (new ++ after))
  | appended {all : List Property} (hNone : ∀ p ∈ all, p.key.sameLetters key = false) :
      Upsert key new all (all ++ new)

variable {new all all' : List Property}

/-- Other keys are looked up as before. -/
theorem Upsert.find?_other (h : Upsert key new all all') (hNew : ∀ p ∈ new, p.key = key)
    (hOther : key'.sameLetters key = false) :
    (all'.find? fun p => p.key.sameLetters key') = all.find? fun p => p.key.sameLetters key' := by
  -- No entry is found for both keys: their letters would be the same.
  have hApart : ∀ p : Property, p.key.sameLetters key = true → p.key.sameLetters key' = false := by
    intro p hSame
    rw [← Bool.not_eq_true] at hOther ⊢
    intro hSame'
    apply hOther
    rw [Text.sameLetters_iff] at hSame hSame' ⊢
    rw [← hSame', hSame]
  have hNewApart : (new.find? fun p => p.key.sameLetters key') = none := by
    rw [List.find?_eq_none]
    intro p hp
    rw [Bool.not_eq_true, hNew p hp, Text.sameLetters_comm, hOther]
  cases h with
  | replaced hOld hBefore =>
    rw [List.find?_append, List.find?_append, List.find?_append, hNewApart,
      List.find?_cons_of_neg (by simp [hApart _ hOld])]
    rfl
  | appended hNone => rw [List.find?_append, hNewApart, Option.or_none]

/-- The key itself is looked up in what is new. -/
theorem Upsert.find?_self (h : Upsert key [p] all all') (hp : p.key = key)
    (hKey : key'.sameLetters key = true) :
    (all'.find? fun q => q.key.sameLetters key') = some p := by
  have hSame : ∀ q : Property, q.key.sameLetters key' = q.key.sameLetters key := fun q => by
    rw [Text.sameLetters, Text.sameLetters, Text.sameLetters_iff.mp hKey]
  have hFound : p.key.sameLetters key = true := by
    rw [hp]
    exact Text.sameLetters_iff.mpr rfl
  simp only [hSame]
  -- Nothing in front of the new entry is one for the key.
  cases h with
  | @replaced before after old hOld hBefore =>
    have hNone : (before.find? fun q => q.key.sameLetters key) = none :=
      List.find?_eq_none.mpr fun q hq => by simp [hBefore q hq]
    rw [List.find?_append, hNone]
    exact List.find?_cons_of_pos (p := fun q : Property => q.key.sameLetters key) hFound
  | appended hNone =>
    have hNone : (all.find? fun q => q.key.sameLetters key) = none :=
      List.find?_eq_none.mpr fun q hq => by simp [hNone q hq]
    rw [List.find?_append, hNone]
    exact List.find?_cons_of_pos (p := fun q : Property => q.key.sameLetters key) hFound

/-- How many entries there are of a kind to which all entries for the key belong. -/
theorem Upsert.countP_add {kind : Property → Bool} (h : Upsert key new all all')
    (hKind : ∀ p, p.key.sameLetters key = true → kind p = true) :
    all'.countP kind + (if (all.any fun p => p.key.sameLetters key) then 1 else 0) =
      all.countP kind + new.countP kind := by
  cases h with
  | replaced hOld hBefore =>
    rw [if_pos (by simp [hOld])]
    simp only [List.countP_append, List.countP_cons, hKind _ hOld, if_true]
    omega
  | appended hNone =>
    have hAny : ¬(all.any fun p => p.key.sameLetters key) = true := by
      rw [List.any_eq_true]
      rintro ⟨p, hp, hSame⟩
      rw [hNone p hp] at hSame
      contradiction
    rw [if_neg hAny, List.countP_append, Nat.add_zero]

/-- **What setting a property does to the entries of a drawer.** What is new is the entry that the
written line states, if it states one. -/
theorem exists_upsert (hDrawer : Drawer.below? config lines n = .ok (some d))
    (hEnd : value.trim = [] → key.sameLetters "END".toList = false)
    (h : Update config lines n key value id lines') :
    ∃ d' indent, Drawer.below? config lines' n = .ok (some d') ∧
      Upsert key (parse? (render ⟨indent, key, value⟩)).toList (d.entries lines)
        (d'.entries lines') := by
  obtain ⟨-, -, hClosing⟩ := Drawer.below?_eq_some_iff.mp hDrawer
  have hStop := Nat.le_of_lt hClosing.lt_length
  cases h with
  | @replaced drawer m old hDrawer' hEntry =>
    obtain rfl : d = drawer := Option.some.inj (Except.ok.inj (hDrawer.symm.trans hDrawer'))
    have hLow := hEntry.start_lt
    have hHigh := hEntry.lt_stop
    -- The markers stay, and so do the entries above the line and below it.
    refine ⟨d, old.indent, Drawer.below?_set hDrawer hLow (isEnd_render hEnd old.indent)
      (levelOf_render _) hHigh, ?_⟩
    rw [Drawer.entries_set hLow hHigh hStop, Drawer.entries_split hLow hHigh hStop, hEntry.parse]
    refine .replaced hEntry.same fun p hp => ?_
    obtain ⟨k, hk, hkm, hParse⟩ :=
      Drawer.exists_of_mem_entries (d := ⟨d.start, m⟩) (Nat.le_of_lt hEntry.lt_length) hp
    exact hEntry.first k hk hkm p hParse
  | @appended drawer hDrawer' hNone =>
    obtain rfl : d = drawer := Option.some.inj (Except.ok.inj (hDrawer.symm.trans hDrawer'))
    -- The closing marker makes room for the line.
    refine ⟨_, entryIndent lines d, Drawer.below?_putIn hDrawer
      (isEnd_render hEnd (entryIndent lines d)) (levelOf_render _), ?_⟩
    rw [Drawer.entries_putIn hClosing.le hStop]
    refine .appended fun p hp => ?_
    obtain ⟨k, hk, hks, hParse⟩ := Drawer.exists_of_mem_entries hStop hp
    exact Drawer.find?_eq_none_iff.mp hNone k hk hks p hParse
  | created hNone =>
    have hBoth := Except.ok.inj (hDrawer.symm.trans hNone)
    contradiction

end Property

end Outliner
