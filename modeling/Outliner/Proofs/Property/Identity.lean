import Outliner.Proofs.Property.Entries
import Outliner.Proofs.Text.Uppercase

/-!
# Outliner — when two keys are the same

A key is written in full upper case, and so it is listed. But it is looked up with no regard to the
case of its ASCII letters only. For a key of ASCII letters that is one and the same. For another one
it is not: what is written is not found under the key that it was written for; and an entry with the
key in small letters is not found to be replaced, so that two entries are listed under one key.

* `Drawer.listed` — how many entries of a drawer are listed under a key.

Main results:

* `Drawer.mem_keys_properties_iff` — a key is in the listing when an entry is listed under it.
* `toList_parse?_written` — the line that is written is an entry, with one exception: the word of an
  opening marker, which can come from letters that are not those of the word.
* `set_agrees_iff` — what is found and what is listed after a property has been set.
-/

namespace Outliner

variable {config : Config} {lines : Lines} {n indent : Nat} {c : Char} {t key value : Text}
  {d : Drawer} {all all' : List Property}

/-! ## The word of a closing marker -/

namespace Text

/-- A character that is no ASCII letter has none of the letters of the word alone for its upper-case
form. -/
theorem exists_mem_upperChar_notMem_end (hc : 0x80 ≤ c.toNat) :
    ∃ x ∈ upperChar c, x ∉ "END".toList := by
  have hForms : upperExpansions.all
      (fun e => e.2.any fun n => Char.ofNat n ∉ "END".toList) = true := by
    decide
  have hRuns : bits runCapitals &&& bits ("END".toList.map Char.toNat) = 0 := by decide +kernel
  rcases upperChar_eq_or hc with hForm | ⟨e, he, hForm⟩ | ⟨n, hn, hForm⟩
  · refine ⟨c, by rw [hForm]; exact List.mem_cons_self .., fun hEnd => ?_⟩
    have hAscii : "END".toList.all (fun x => decide (x.toNat < 0x80)) = true := by decide
    have := of_decide_eq_true (List.all_eq_true.mp hAscii c hEnd)
    omega
  · obtain ⟨n, hn, hOther⟩ := List.any_eq_true.mp (List.all_eq_true.mp hForms e he)
    exact ⟨Char.ofNat n, by rw [hForm]; exact List.mem_map.mpr ⟨n, hn, rfl⟩, by simpa using hOther⟩
  · refine ⟨Char.ofNat n, by rw [hForm]; exact List.mem_cons_self .., fun hEnd => ?_⟩
    apply notMem_of_bits hRuns hn
    have hNumber := List.mem_map_of_mem (f := Char.toNat) hEnd
    rw [toNat_ofNat_of_mem_capitals (List.mem_append_right _ hn)] at hNumber
    exact hNumber

/-- Only what has the letters of the word, in either case, becomes the word. -/
theorem sameLetters_end_of_upper (h : t.upper = "END".toList) :
    t.sameLetters "END".toList = true := by
  have hAscii : ∀ c ∈ t, c.toNat < 0x80 := by
    intro c hc
    by_contra hWide
    obtain ⟨x, hx, hOther⟩ := exists_mem_upperChar_notMem_end (Nat.le_of_not_lt hWide)
    exact hOther (h ▸ List.mem_flatMap.mpr ⟨c, hc, hx⟩)
  rw [sameLetters_iff, ← upper_of_ascii hAscii, h]
  decide

end Text

/-! ## Keys in upper case -/

namespace Property

/-- In upper case a key is one still. -/
theorem isKeyChar_of_mem_upper (h : ∀ c ∈ key, isKeyChar c = true) :
    ∀ c ∈ key.upper, isKeyChar c = true := by
  intro x hx
  obtain ⟨c, hc, hForm⟩ := List.mem_flatMap.mp hx
  have hKeyChar := h c hc
  simp only [isKeyChar, Bool.and_eq_true, Bool.not_eq_true', bne_iff_ne] at hKeyChar ⊢
  exact ⟨Text.isBlank_of_mem_upperChar hForm hKeyChar.1,
    Text.ne_colon_of_mem_upperChar hForm hKeyChar.2⟩

/-- With no value it does not come to be the word of a closing marker. -/
theorem Statable.upper_not_end (h : Statable key value) (hNil : value.trim = []) :
    key.upper.sameLetters "END".toList = false := by
  rw [← Bool.not_eq_true]
  intro hEnd
  rw [Text.sameLetters_iff, Text.asciiUpper_upper] at hEnd
  have hWord := Text.sameLetters_end_of_upper (hEnd.trans (by decide))
  rw [(h.not_marker hNil).2] at hWord
  contradiction

/-- But it may come to be that of an opening one: there is a letter that is no ASCII letter and has
one for its upper-case form. -/
theorem Statable.upper_statable (h : Statable key value)
    (hMarker : ¬(value.trim = [] ∧ key.upper = "PROPERTIES".toList)) :
    Statable key.upper value.trim := by
  refine ⟨Text.upper_ne_nil h.key_ne_nil, isKeyChar_of_mem_upper h.isKeyChar, fun hNil => ?_⟩
  rw [Text.trim_trim] at hNil
  refine ⟨?_, h.upper_not_end hNil⟩
  rw [← Bool.not_eq_true]
  intro hStart
  rw [Text.sameLetters_iff, Text.asciiUpper_upper] at hStart
  exact hMarker ⟨hNil, hStart.trans (by decide)⟩

/-- **The line that is written** states the property, unless it is an opening marker. -/
theorem toList_parse?_written (h : Statable key value) (indent : Nat) :
    (parse? (render ⟨indent, key.upper, value.trim⟩)).toList =
      if value.trim = [] ∧ key.upper = "PROPERTIES".toList then []
      else [⟨indent, key.upper, value.trim⟩] := by
  split
  · next hMarker =>
    obtain ⟨hNil, hWord⟩ := hMarker
    have hStart : Drawer.isStart (render ⟨indent, key.upper, value.trim⟩) = true := by
      apply isStart_render_of_sameLetters
      · rw [Text.trim_trim, hNil]
      · rw [hWord]
        decide
    rw [parse?, if_pos (Or.inl hStart)]
    rfl
  · next hMarker =>
    rw [parse?_render (h.upper_statable hMarker), Text.trim_trim]
    rfl

end Property

/-! ## What is found and what is listed -/

namespace Drawer

/-- The number of entries that are listed under a key. -/
def listed (lines : Lines) (d : Drawer) (key : Text) : Nat :=
  (d.entries lines).countP fun p => p.key.upper == key

/-- The listing is made entry by entry. -/
theorem properties_eq_foldl (lines : Lines) (d : Drawer) :
    d.properties lines =
      (d.entries lines).foldl (fun found p => record p.key.upper p.value found) [] := by
  rw [properties, entries, List.foldl_filterMap]
  congr 1
  funext found x
  obtain ⟨line, n⟩ := x
  dsimp only
  cases Property.parse? line <;> rfl

theorem mem_keys_record_iff {found : List (Text × Text)} :
    key ∈ (record t value found).map Prod.fst ↔ key = t ∨ key ∈ found.map Prod.fst := by
  induction found with
  | nil => simp [record]
  | cons x rest ih =>
    obtain ⟨k, v⟩ := x
    rw [record]
    split
    · next hSame => simp [hSame]
    · rw [List.map_cons, List.mem_cons, ih, List.map_cons, List.mem_cons, or_left_comm]

/-- **A key is in the listing** when there is an entry that is listed under it. -/
theorem mem_keys_properties_iff :
    key ∈ (d.properties lines).map Prod.fst ↔ 0 < d.listed lines key := by
  -- On the entries; what the listing has already it keeps.
  have hFold : ∀ (all : List Property) (found : List (Text × Text)),
      key ∈ (all.foldl (fun found p => record p.key.upper p.value found) found).map Prod.fst ↔
        key ∈ found.map Prod.fst ∨ ∃ p ∈ all, p.key.upper = key := by
    intro all
    induction all with
    | nil => simp
    | cons p all ih =>
      intro found
      rw [List.foldl_cons, ih, mem_keys_record_iff, List.exists_mem_cons_iff, @eq_comm _ key,
        or_assoc, or_left_comm]
  rw [properties_eq_foldl, hFold, listed, List.countP_pos_iff]
  simp

/-- What is found for a key in upper case is listed under it. -/
theorem listed_pos_of_find? (hUpper : key.upper = key)
    (h : (d.find? lines key).isSome = true) : 0 < d.listed lines key := by
  rw [isSome_find?, List.any_eq_true] at h
  obtain ⟨p, hp, hSame⟩ := h
  refine List.countP_pos_iff.mpr ⟨p, hp, ?_⟩
  rw [beq_iff_eq, Text.upper_eq_of_sameLetters hSame, hUpper]

end Drawer

namespace Property

/-- Where a drawer is there, no name is asked for, and none is taken. -/
theorem editsAt_some_congr (lines : Lines) (n : Nat) (d : Drawer) (key value : Text)
    (ids ids' : IdSupply) :
    editsAt lines n (some d) key value ids =
      ((editsAt lines n (some d) key value ids').1, ids) := by
  simp only [editsAt]
  cases d.find? lines key.upper <;> rfl

/-- The key is looked up: what is found for it is what has been written, if the two ways to put it
in upper case agree. -/
theorem Upsert.find?_key (hKey : Statable key value)
    (h : Upsert key.upper (parse? (render ⟨indent, key.upper, value.trim⟩)).toList all all') :
    (all'.find? fun p => p.key.sameLetters key).map Property.value =
      if key.upper = key.asciiUpper then some value.trim
      else (all.find? fun p => p.key.sameLetters key).map Property.value := by
  rw [toList_parse?_written hKey] at h
  split
  · next hSame =>
    have hFound : key.sameLetters key.upper = true := by
      rw [Text.sameLetters_iff, Text.asciiUpper_upper, hSame]
    -- A key that is the word of the marker now was that before.
    have hMarker : ¬(value.trim = [] ∧ key.upper = "PROPERTIES".toList) := by
      rintro ⟨hNil, hWord⟩
      have hOther := (hKey.not_marker hNil).1
      rw [hWord] at hFound
      rw [hFound] at hOther
      contradiction
    rw [if_neg hMarker] at h
    rw [h.find?_self rfl hFound]
    rfl
  · next hApart =>
    have hOther : key.sameLetters key.upper = false := by
      rw [← Bool.not_eq_true, Text.sameLetters_iff, Text.asciiUpper_upper]
      exact fun hSame => hApart hSame.symm
    rw [h.find?_other ?_ hOther]
    intro p hp
    split at hp
    · contradiction
    · rw [List.mem_singleton.mp hp]

/-- The entries are listed: one has come, unless it has come in the place of another or is none. -/
theorem Upsert.countP_key (hKey : Statable key value)
    (h : Upsert key.upper (parse? (render ⟨indent, key.upper, value.trim⟩)).toList all all') :
    all'.countP (fun p => p.key.upper == key.upper) +
        (if (all.any fun p => p.key.sameLetters key.upper) then 1 else 0) =
      all.countP (fun p => p.key.upper == key.upper) +
        (if value.trim = [] ∧ key.upper = "PROPERTIES".toList then 0 else 1) := by
  have hKind : ∀ p : Property, p.key.sameLetters key.upper = true →
      (p.key.upper == key.upper) = true := fun p hp => by
    rw [beq_iff_eq, Text.upper_eq_of_sameLetters hp, Text.upper_upper]
  rw [h.countP_add hKind, toList_parse?_written hKey]
  split
  · rfl
  · rw [List.countP_singleton, Text.upper_upper, beq_self_eq_true, if_pos rfl]

/-- **What is found and what is listed** after a property has been set in a drawer. The key is found
with the new value if its upper case is that of its ASCII letters alone, and otherwise with what it
had before. Under its upper case there is one entry more, unless another one has made place for it
or an opening marker has been written. So there is one, or as many as before, exactly if one of them
was found or there was none. -/
theorem set_agrees_iff (config : Config) {d : Document} {n : Nat} {key value : Text}
    {drawer : Drawer} (ids : IdSupply) (hReturn : ∀ l ∈ d.lines, '\r' ∉ l)
    (hDrawer : Drawer.below? config d.lines n = .ok (some drawer)) (hKey : Statable key value)
    (hValue : value.Unbroken) :
    ∃ edits d' drawer', setEdits config d.lines n key value ids = .ok (edits, ids) ∧
      d.edit? edits = some d' ∧ Drawer.below? config d'.lines n = .ok (some drawer') ∧
      get? config d'.lines n key =
        (if key.upper = key.asciiUpper then .ok (some value.trim)
          else get? config d.lines n key) ∧
      drawer'.listed d'.lines key.upper +
          (if (drawer.find? d.lines key.upper).isSome then 1 else 0) =
        drawer.listed d.lines key.upper +
          (if value.trim = [] ∧ key.upper = "PROPERTIES".toList then 0 else 1) ∧
      (¬(value.trim = [] ∧ key.upper = "PROPERTIES".toList) →
        (drawer'.listed d'.lines key.upper = max 1 (drawer.listed d.lines key.upper) ↔
          (drawer.find? d.lines key.upper).isSome ∨ drawer.listed d.lines key.upper = 0)) := by
  obtain ⟨nameless, hNameless⟩ : ∃ ids : IdSupply, ids.fresh.Unbroken :=
    ⟨⟨fun _ => [], 0⟩, Text.unbroken_nil⟩
  obtain ⟨d', hEdit, -, -, hUpdate⟩ := exists_update hDrawer (Document.unbroken_lines hReturn)
    (unbroken_of_isKeyChar (isKeyChar_of_mem_upper hKey.isKeyChar))
    (hValue.of_subset fun c => Text.mem_of_mem_trim) hNameless
  have hSet := setEdits_of_below? hDrawer key value ids
  rw [editsAt_some_congr d.lines n drawer key value ids nameless] at hSet
  obtain ⟨drawer', indent, hDrawer', hUpsert⟩ := exists_upsert hDrawer
    (fun hNil => hKey.upper_not_end (by rwa [Text.trim_trim] at hNil)) hUpdate
  have hCount := hUpsert.countP_key hKey
  rw [← Drawer.isSome_find?, ← Drawer.listed, ← Drawer.listed] at hCount
  refine ⟨_, d', drawer', hSet, hEdit, hDrawer', ?_, hCount, fun hMarker => ?_⟩
  · rw [get?_eq hDrawer, get?_eq hDrawer', Option.bind_some, Option.bind_some,
      hUpsert.find?_key hKey, apply_ite Except.ok]
  · rw [if_neg hMarker] at hCount
    cases hFind : (drawer.find? d.lines key.upper).isSome with
    | true =>
      have hPos := Drawer.listed_pos_of_find? (Text.upper_upper key) hFind
      rw [hFind, if_pos rfl] at hCount
      have hSame : drawer'.listed d'.lines key.upper = drawer.listed d.lines key.upper :=
        Nat.add_right_cancel hCount
      simp [hSame, hPos, Nat.succ_le_iff]
    | false =>
      simp only [hFind, Bool.false_eq_true, if_false, Nat.add_zero] at hCount
      simp only [hCount, Bool.false_eq_true, false_or]
      omega

/-- A word with a sharp s, which has two letters for its upper case: its entry is found afterwards
with what it had, and was not found to be replaced. -/
theorem set_agrees_iff_sharp_s :
    let d := Document.ofText "* H\n:PROPERTIES:\n:straße: 1\n:END:".toList
    let names : IdSupply := ⟨fun _ => "x".toList, 0⟩
    ∃ edits d' drawer', setEdits {} d.lines 0 "straße".toList "2".toList names =
        .ok (edits, names) ∧
      d.edit? edits = some d' ∧ Drawer.below? {} d'.lines 0 = .ok (some drawer') ∧
      get? {} d'.lines 0 "straße".toList = .ok (some "1".toList) ∧
      drawer'.listed d'.lines "STRASSE".toList = 2 := by
  intro d names
  have hKey : Statable "straße".toList "2".toList :=
    ⟨by decide, List.all_eq_true.mp (by decide), fun hNil => absurd hNil (by decide)⟩
  have hDrawer : Drawer.below? {} d.lines 0 = .ok (some ⟨1, 3⟩) := by decide
  have hUpper : Text.upper "straße".toList = "STRASSE".toList := by decide
  have hAscii : Text.upper "straße".toList ≠ Text.asciiUpper "straße".toList := by decide
  have hOld : get? {} d.lines 0 "straße".toList = .ok (some "1".toList) := by decide
  have hNone : Drawer.find? d.lines ⟨1, 3⟩ "STRASSE".toList = none := by decide
  have hOne : Drawer.listed d.lines ⟨1, 3⟩ "STRASSE".toList = 1 := by decide
  have hMarker : ¬(Text.trim "2".toList = [] ∧ "STRASSE".toList = "PROPERTIES".toList) := by decide
  obtain ⟨edits, d', drawer', hSet, hEdit, hDrawer', hGet, hListed, -⟩ := set_agrees_iff {}
    (d := d) (n := 0) names (by decide) hDrawer hKey ⟨by decide, by decide⟩
  rw [if_neg hAscii, hOld] at hGet
  rw [hUpper, hNone, hOne, if_neg hMarker] at hListed
  exact ⟨edits, d', drawer', hSet, hEdit, hDrawer', hGet, hListed⟩

/-- A letter that is no ASCII letter is enough for what is set not to be found. An entry that was
there before stays beside the new one, and is found in its place. -/
theorem lost_behind_capital :
    ((setEdits {} ["* H".toList, ":PROPERTIES:".toList, ":END:".toList] 0 "é".toList "1".toList
        ⟨fun _ => [], 0⟩).map fun (edits, _) =>
          ((Document.ofText "* H\n:PROPERTIES:\n:END:".toList).edit? edits).map Document.lines) =
        .ok (some ["* H".toList, ":PROPERTIES:".toList, ":É: 1".toList, ":END:".toList]) ∧
      get? {} ["* H".toList, ":PROPERTIES:".toList, ":É: 1".toList, ":END:".toList] 0 "é".toList =
        .ok none ∧
      ((setEdits {} ["* H".toList, ":PROPERTIES:".toList, ":é: 0".toList, ":END:".toList] 0
        "é".toList "1".toList ⟨fun _ => [], 0⟩).map fun (edits, _) =>
          ((Document.ofText "* H\n:PROPERTIES:\n:é: 0\n:END:".toList).edit? edits).map
            Document.lines) =
        .ok (some ["* H".toList, ":PROPERTIES:".toList, ":é: 0".toList, ":É: 1".toList,
          ":END:".toList]) ∧
      get? {} ["* H".toList, ":PROPERTIES:".toList, ":é: 0".toList, ":É: 1".toList,
        ":END:".toList] 0 "é".toList = .ok (some "0".toList) ∧
      Drawer.listed ["* H".toList, ":PROPERTIES:".toList, ":é: 0".toList, ":END:".toList] ⟨1, 3⟩
        "É".toList = 1 ∧
      Drawer.listed ["* H".toList, ":PROPERTIES:".toList, ":é: 0".toList, ":É: 1".toList,
        ":END:".toList] ⟨1, 4⟩ "É".toList = 2 := by
  decide +kernel

end Property

end Outliner
