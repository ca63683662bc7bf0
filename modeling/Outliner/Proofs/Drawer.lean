import Outliner.Proofs.Lines
import Outliner.Proofs.Property

/-!
# Outliner — finding drawers and their entries

A drawer is found by two searches, one for each marker, that go down line by line and end at a
heading. An entry of a drawer is found by a third one. What each of them finds is said here without
the search, by the line that is found and by what the lines before it are not. Then a change of the
lines can be followed without going through the searches again. That a drawer is found, or found
missing, also says that the bound on the first search has a number that fits in a machine word.

* `Lines.FirstBody` — the first line of a kind, with no heading up to it.
* `Drawer.FirstEntry` — the first entry of a drawer for a key.

Main results:

* `Drawer.before?_eq_some_iff`, `Drawer.closing?_eq_some_iff` — the two markers.
* `Drawer.below?_eq_ok_iff`, `Drawer.below?_eq_some_iff` — the drawer of a heading, where there is
  an answer.
* `Drawer.below?_set`, `Drawer.below?_putIn` — changes between them that they are found after.
* `Drawer.find?_eq_some_iff`, `Drawer.find?_eq_none_iff` — the entry for a key.
-/

namespace Outliner

variable {config : Config} {lines lines' : Lines} {n m bound : Nat} {f : Text → Bool} {d : Drawer}
  {found : Option Drawer} {key key' : Text} {p : Property}

/-! ## Markers -/

namespace Lines

/-- From line `n` on, line `m` is the first one of the given kind, and no heading comes up to it. -/
structure FirstBody (f : Text → Bool) (lines : Lines) (n m : Nat) : Prop where
  le : n ≤ m
  lt_length : m < lines.length
  kind : f (lines.lineAt m) = true
  first : ∀ k, n ≤ k → k < m → f (lines.lineAt k) = false
  body : ∀ k, n ≤ k → k ≤ m → Heading.levelOf (lines.lineAt k) = 0

theorem FirstBody.unique {m' : Nat} (h : FirstBody f lines n m) (h' : FirstBody f lines n m') :
    m = m' := by
  rcases Nat.lt_trichotomy m m' with hLt | hEq | hLt
  · exact absurd h.kind (by simp [h'.first m h.le hLt])
  · exact hEq
  · exact absurd h'.kind (by simp [h.first m' h'.le hLt])

/-- A line before the one that is found may be another, as long as it is neither of the kind nor a
heading. -/
theorem FirstBody.of_lines (h : FirstBody f lines n m) (hLength : m < lines'.length)
    (hLine : ∀ k, n ≤ k → k ≤ m → lines'.lineAt k = lines.lineAt k ∨
      k < m ∧ f (lines'.lineAt k) = false ∧ Heading.levelOf (lines'.lineAt k) = 0) :
    FirstBody f lines' n m where
  le := h.le
  lt_length := hLength
  kind := by
    rcases hLine m h.le (Nat.le_refl m) with hSame | ⟨hLt, -⟩
    · rw [hSame, h.kind]
    · omega
  first k hnk hkm := by
    rcases hLine k hnk (Nat.le_of_lt hkm) with hSame | ⟨-, hOther, -⟩
    · rw [hSame, h.first k hnk hkm]
    · exact hOther
  body k hnk hkm := by
    rcases hLine k hnk hkm with hSame | ⟨-, -, hBody⟩
    · rw [hSame, h.body k hnk hkm]
    · exact hBody

/-- Only the lines up to the one that is found matter. -/
theorem FirstBody.congr (h : FirstBody f lines n m) (hLength : m < lines'.length)
    (hLine : ∀ k, n ≤ k → k ≤ m → lines'.lineAt k = lines.lineAt k) : FirstBody f lines' n m :=
  h.of_lines hLength fun k hnk hkm => Or.inl (hLine k hnk hkm)

theorem firstBody_self (hn : n < lines.length) (hKind : f (lines.lineAt n) = true)
    (hBody : Heading.levelOf (lines.lineAt n) = 0) : FirstBody f lines n n where
  le := Nat.le_refl n
  lt_length := hn
  kind := hKind
  first k hnk hkn := by omega
  body k hnk hkn := by rw [Nat.le_antisymm hkn hnk, hBody]

/-- The search may start further up, if it meets nothing there. -/
theorem FirstBody.of_le {i : Nat} (h : FirstBody f lines n m) (hi : i ≤ n)
    (hNone : ∀ k, i ≤ k → k < n →
      f (lines.lineAt k) = false ∧ Heading.levelOf (lines.lineAt k) = 0) :
    FirstBody f lines i m where
  le := Nat.le_trans hi h.le
  lt_length := h.lt_length
  kind := h.kind
  first k hik hkm := by
    rcases Nat.lt_or_ge k n with hkn | hnk
    · exact (hNone k hik hkn).1
    · exact h.first k hnk hkm
  body k hik hkm := by
    rcases Nat.lt_or_ge k n with hkn | hnk
    · exact (hNone k hik hkn).2
    · exact h.body k hnk hkm

/-- The search goes on below a line that is neither of the kind nor a heading. -/
theorem firstBody_iff_of_ne (hKind : f (lines.lineAt n) = false)
    (hBody : Heading.levelOf (lines.lineAt n) = 0) :
    FirstBody f lines n m ↔ FirstBody f lines (n + 1) m := by
  constructor
  · intro h
    have hne : n ≠ m := by
      rintro rfl
      rw [h.kind] at hKind
      contradiction
    have hnm := h.le
    exact ⟨by omega, h.lt_length, h.kind, fun k hnk => h.first k (by omega),
      fun k hnk => h.body k (by omega)⟩
  · intro h
    refine h.of_le (Nat.le_succ n) fun k hnk hkn => ?_
    obtain rfl : k = n := Nat.le_antisymm (Nat.le_of_lt_succ hkn) hnk
    exact ⟨hKind, hBody⟩

/-- What a search among the lines up to the next heading finds. -/
theorem findIdx?_takeWhile_isBody (f : Text → Bool) (lines : Lines) (n m : Nat) :
    (((lines.drop n).takeWhile Heading.isBody).findIdx? f).map (n + ·) = some m ↔
      FirstBody f lines n m := by
  -- On the number of lines from `n` on.
  induction hRest : lines.length - n generalizing n with
  | zero =>
    have hNone : lines.drop n = [] := List.drop_eq_nil_of_le (by omega)
    rw [hNone]
    constructor
    · intro h
      contradiction
    · intro h
      have := h.le
      have := h.lt_length
      omega
  | succ rest ih =>
    have hn : n < lines.length := by omega
    rw [List.drop_eq_getElem_cons hn, ← lineAt_of_lt hn]
    by_cases hBody : Heading.levelOf (lines.lineAt n) = 0
    · rw [List.takeWhile_cons_of_pos (by simp [Heading.isBody, hBody]), List.findIdx?_cons]
      cases hKind : f (lines.lineAt n) with
      | true =>
        have hSelf := firstBody_self hn hKind hBody
        rw [if_pos rfl]
        constructor
        · intro h
          obtain rfl : n + 0 = m := Option.some.inj h
          exact hSelf
        · intro h
          rw [hSelf.unique h]
          rfl
      | false =>
        rw [if_neg (by simp), firstBody_iff_of_ne hKind hBody, ← ih (n + 1) (by omega),
          Option.map_map]
        have hNext : (n + ·) ∘ (· + 1) = ((n + 1) + ·) := by
          funext i
          show n + (i + 1) = n + 1 + i
          omega
        rw [hNext]
    · -- The search ends at a heading.
      rw [List.takeWhile_cons_of_neg (by simpa [Heading.isBody] using hBody)]
      constructor
      · intro h
        contradiction
      · intro h
        exact absurd (h.body n (Nat.le_refl n) h.le) hBody

/-- A search that leaves out the lines from a bound on. -/
theorem firstBody_take_iff :
    FirstBody f (lines.take bound) n m ↔ m < bound ∧ FirstBody f lines n m := by
  constructor
  · intro h
    have hm := h.lt_length
    rw [List.length_take] at hm
    have hBound : m < bound := by omega
    exact ⟨hBound, h.congr (by omega) fun k _ hkm => (lineAt_take (by omega)).symm⟩
  · rintro ⟨hBound, h⟩
    have hm := h.lt_length
    exact h.congr (by rw [List.length_take]; omega) fun k _ hkm => lineAt_take (by omega)

end Lines

namespace Drawer

theorem closing?_eq_some_iff :
    closing? lines n = some m ↔ Lines.FirstBody isEnd lines n m :=
  Lines.findIdx?_takeWhile_isBody isEnd lines n m

/-- **A drawer below a line** goes from the first opening marker below it to the first closing
marker below that one; both come before the next heading, and the first in front of the bound. -/
theorem before?_eq_some_iff :
    before? bound lines n = some d ↔
      d.start < bound ∧ Lines.FirstBody isStart lines (n + 1) d.start ∧
        Lines.FirstBody isEnd lines (d.start + 1) d.stop := by
  have hStart : ∀ s, (((((lines.take bound).drop (n + 1)).takeWhile
      Heading.isBody).findIdx? isStart).map (n + 1 + ·) = some s) ↔
        s < bound ∧ Lines.FirstBody isStart lines (n + 1) s := fun s => by
    rw [Lines.findIdx?_takeWhile_isBody, Lines.firstBody_take_iff]
  rw [← and_assoc, ← hStart, ← closing?_eq_some_iff, before?]
  obtain ⟨s, e⟩ := d
  cases hFound : (((lines.take bound).drop (n + 1)).takeWhile Heading.isBody).findIdx? isStart with
  | none => simp
  | some i =>
    cases hClose : closing? lines (n + 1 + i + 1) with
    | none =>
      simp only [Option.bind_eq_bind, Option.bind_some, hClose, Option.bind_none, Option.map_some,
        Option.some.injEq, reduceCtorEq, false_iff, not_and]
      rintro rfl
      rw [hClose]
      simp
    | some stop =>
      simp only [Option.bind_eq_bind, Option.bind_some, hClose, Option.map_some, Option.some.injEq,
        Drawer.mk.injEq]
      constructor
      · rintro ⟨rfl, rfl⟩
        exact ⟨rfl, hClose⟩
      · rintro ⟨rfl, h⟩
        rw [hClose] at h
        exact ⟨rfl, Option.some.inj h⟩

/-- The bound fits in a machine word, and then the search is the one up to it. -/
theorem below?_of_fits (hWord : n + 1 + config.drawerScanLimit.toNat < UInt64.size) :
    below? config lines n = .ok (before? (n + 1 + config.drawerScanLimit.toNat) lines n) := by
  rw [below?, searchBound, if_pos hWord]
  rfl

theorem exists_below? (hWord : n + 1 + config.drawerScanLimit.toNat < UInt64.size)
    (lines : Lines) : ∃ found, below? config lines n = .ok found :=
  ⟨_, below?_of_fits hWord⟩

/-- Otherwise nothing is searched. -/
theorem below?_of_overflow (hOver : UInt64.size ≤ n + 1 + config.drawerScanLimit.toNat) :
    below? config lines n = .error .overflow := by
  rw [below?, searchBound, if_neg (Nat.not_lt.mpr hOver)]
  rfl

/-- An answer shows that the bound fits. -/
theorem below?_eq_ok_iff :
    below? config lines n = .ok found ↔
      n + 1 + config.drawerScanLimit.toNat < UInt64.size ∧
        before? (n + 1 + config.drawerScanLimit.toNat) lines n = found := by
  rcases Nat.lt_or_ge (n + 1 + config.drawerScanLimit.toNat) UInt64.size with hWord | hOver
  · rw [below?_of_fits hWord, Except.ok.injEq]
    exact (and_iff_right hWord).symm
  · rw [below?_of_overflow hOver]
    constructor
    · intro h
      contradiction
    · rintro ⟨hWord, -⟩
      omega

/-- **The drawer of a heading** is the one below it that starts within the lines of the setting. -/
theorem below?_eq_some_iff :
    below? config lines n = .ok (some d) ↔
      (n + 1 + config.drawerScanLimit.toNat < UInt64.size ∧
          d.start ≤ n + config.drawerScanLimit.toNat) ∧
        Lines.FirstBody isStart lines (n + 1) d.start ∧
          Lines.FirstBody isEnd lines (d.start + 1) d.stop := by
  have hLast : d.start < n + 1 + config.drawerScanLimit.toNat ↔
      d.start ≤ n + config.drawerScanLimit.toNat := by
    omega
  rw [below?_eq_ok_iff, before?_eq_some_iff, hLast, and_assoc]

/-- No heading comes before the end of the drawer. -/
theorem levelOf_eq_zero_of_below? {k : Nat} (hDrawer : below? config lines n = .ok (some d))
    (hnk : n < k) (hk : k ≤ d.stop) : Heading.levelOf (lines.lineAt k) = 0 := by
  obtain ⟨-, hOpening, hClosing⟩ := below?_eq_some_iff.mp hDrawer
  rcases Nat.lt_or_ge d.start k with hBelow | hAbove
  · exact hClosing.body k hBelow hk
  · exact hOpening.body k hnk hAbove

/-! ## Changes between the markers -/

/-- A line between the markers may have another text, if that is neither a closing marker nor a
heading. -/
theorem below?_set {new : Text} (hDrawer : below? config lines n = .ok (some d))
    (hStart : d.start < m) (hEnd : isEnd new = false) (hBody : Heading.levelOf new = 0)
    (hStop : m < d.stop) :
    below? config (lines.set m new) n = .ok (some d) := by
  obtain ⟨hBound, hOpening, hClosing⟩ := below?_eq_some_iff.mp hDrawer
  have hLength : (lines.set m new).length = lines.length := List.length_set
  have hm : m < lines.length := Nat.lt_trans hStop hClosing.lt_length
  refine below?_eq_some_iff.mpr ⟨hBound, ?_, ?_⟩
  · exact hOpening.congr (hLength ▸ hOpening.lt_length) fun k _ hk =>
      Lines.lineAt_set_of_ne (by omega) new
  · refine hClosing.of_lines (hLength ▸ hClosing.lt_length) fun k _ _ => ?_
    by_cases hk : m = k
    · rw [← hk, Lines.lineAt_set_self hm]
      exact Or.inr ⟨hStop, hEnd, hBody⟩
    · exact Or.inl (Lines.lineAt_set_of_ne hk new)

/-- Such a line may also be put in as the last one, and then the closing marker is one line further
below. -/
theorem below?_putIn {new : Text} (hDrawer : below? config lines n = .ok (some d))
    (hEnd : isEnd new = false) (hBody : Heading.levelOf new = 0) :
    below? config (lines.take d.stop ++ [new] ++ lines.drop d.stop) n =
      .ok (some ⟨d.start, d.stop + 1⟩) := by
  obtain ⟨hBound, hOpening, hClosing⟩ := below?_eq_some_iff.mp hDrawer
  have hLow := hClosing.le
  have hHigh := hClosing.lt_length
  have hPlace := Nat.le_of_lt hHigh
  obtain ⟨lines', hResult⟩ : ∃ lines' : Lines, lines.take d.stop ++ [new] ++ lines.drop d.stop =
    lines' := ⟨_, rfl⟩
  rw [hResult]
  have hLength : lines'.length = lines.length + 1 := by
    simp only [← hResult, List.length_append, List.length_take, List.length_drop,
      List.length_singleton]
    omega
  have hAbove : ∀ k, k < d.stop → lines'.lineAt k = lines.lineAt k := fun k hk => by
    rw [← hResult, Lines.lineAt_putIn_of_lt hPlace hk]
  have hNew : lines'.lineAt d.stop = new := by
    rw [← hResult, Lines.lineAt_putIn hPlace]
  have hBelow : lines'.lineAt (d.stop + 1) = lines.lineAt d.stop := by
    rw [← hResult]
    exact Lines.lineAt_putIn_add_length hPlace (Nat.le_refl _) [new]
  refine below?_eq_some_iff.mpr ⟨hBound, ?_, ?_⟩
  · have hShort : d.start < lines'.length := by omega
    exact hOpening.congr hShort fun k _ hk => hAbove k (Nat.lt_of_le_of_lt hk hLow)
  · have hMarker : Lines.FirstBody isEnd lines' (d.stop + 1) (d.stop + 1) := by
      apply Lines.firstBody_self (by omega)
      · rw [hBelow]
        exact hClosing.kind
      · rw [hBelow]
        exact hClosing.body _ hLow (Nat.le_refl _)
    refine hMarker.of_le (Nat.le_succ_of_le hLow) fun k hk hks => ?_
    rcases Nat.eq_or_lt_of_le (Nat.le_of_lt_succ hks) with rfl | hks
    · rw [hNew]
      exact ⟨hEnd, hBody⟩
    · rw [hAbove k hks]
      exact ⟨hClosing.first k hk hks, hClosing.body k hk (Nat.le_of_lt hks)⟩

/-! ## Entries -/

/-- The numbered lines between the markers. -/
theorem mk_mem_interior_iff {l : Text} :
    (l, m) ∈ d.interior lines ↔
      d.start < m ∧ m < d.stop ∧ m < lines.length ∧ l = lines.lineAt m := by
  rw [interior, List.drop_take, ← Lines.onward, Lines.mk_mem_take_onward_iff]
  constructor
  · rintro ⟨hStart, hStop, hLength, rfl⟩
    exact ⟨hStart, by omega, hLength, rfl⟩
  · rintro ⟨hStart, hStop, hLength, rfl⟩
    exact ⟨hStart, by omega, hLength, rfl⟩

theorem pairwise_interior (lines : Lines) (d : Drawer) :
    (d.interior lines).Pairwise fun x y => x.2 < y.2 := by
  rw [interior, List.drop_take, ← Lines.onward]
  exact (Lines.pairwise_onward lines _).sublist (List.take_sublist ..)

theorem findSome?_interior_eq_none_iff {β : Type} {g : Text × Nat → Option β} :
    (d.interior lines).findSome? g = none ↔
      ∀ k, d.start < k → k < d.stop → k < lines.length → g (lines.lineAt k, k) = none := by
  rw [List.findSome?_eq_none_iff]
  constructor
  · intro h k hStart hStop hLength
    exact h _ (mk_mem_interior_iff.mpr ⟨hStart, hStop, hLength, rfl⟩)
  · rintro h ⟨l, k⟩ hMem
    obtain ⟨hStart, hStop, hLength, rfl⟩ := mk_mem_interior_iff.mp hMem
    exact h k hStart hStop hLength

/-- What a search between the markers finds, it finds on the first line that has it. -/
theorem exists_of_findSome?_interior {β : Type} {g : Text × Nat → Option β} {b : β}
    (h : (d.interior lines).findSome? g = some b) :
    ∃ m, d.start < m ∧ m < d.stop ∧ m < lines.length ∧ g (lines.lineAt m, m) = some b ∧
      ∀ k, d.start < k → k < m → g (lines.lineAt k, k) = none := by
  obtain ⟨before, ⟨l, m⟩, after, hSplit, hFound, hBefore⟩ := List.findSome?_eq_some_iff.mp h
  have hMem : (l, m) ∈ d.interior lines := by
    rw [hSplit]
    exact List.mem_append_right _ (List.mem_cons_self ..)
  obtain ⟨hStart, hStop, hLength, rfl⟩ := mk_mem_interior_iff.mp hMem
  refine ⟨m, hStart, hStop, hLength, hFound, fun k hStart' hkm => ?_⟩
  -- A line above it comes before it in the search.
  have hMem' : (lines.lineAt k, k) ∈ before ++ (lines.lineAt m, m) :: after := by
    rw [← hSplit]
    exact mk_mem_interior_iff.mpr ⟨hStart', by omega, by omega, rfl⟩
  rcases List.mem_append.mp hMem' with hMem' | hMem'
  · exact hBefore _ hMem'
  · have hDown := pairwise_interior lines d
    rw [hSplit, List.pairwise_append] at hDown
    rcases List.mem_cons.mp hMem' with hSame | hMem'
    · injection hSame with _ hSame
      omega
    · have hBelow : m < k := (List.pairwise_cons.mp hDown.2.1).1 _ hMem'
      omega

/-- An entry line between the markers is the first one for the key. -/
structure FirstEntry (lines : Lines) (d : Drawer) (key : Text) (m : Nat) (p : Property) : Prop where
  start_lt : d.start < m
  lt_stop : m < d.stop
  parse : Property.parse? (lines.lineAt m) = some p
  same : p.key.sameLetters key = true
  first : ∀ k, d.start < k → k < m → ∀ q, Property.parse? (lines.lineAt k) = some q →
    q.key.sameLetters key = false

theorem FirstEntry.lt_length (h : FirstEntry lines d key m p) : m < lines.length := by
  apply Lines.lt_length_of_lineAt_ne_nil
  intro hNil
  have hParse := h.parse
  rw [hNil] at hParse
  contradiction

theorem FirstEntry.unique {m' : Nat} {p' : Property} (h : FirstEntry lines d key m p)
    (h' : FirstEntry lines d key m' p') : m = m' ∧ p = p' := by
  rcases Nat.lt_trichotomy m m' with hLt | rfl | hLt
  · exact absurd h.same (by simp [h'.first m h.start_lt hLt p h.parse])
  · exact ⟨rfl, Option.some.inj (h.parse.symm.trans h'.parse)⟩
  · exact absurd h'.same (by simp [h.first m' h'.start_lt hLt p' h'.parse])

/-- What the search for a key makes of a line. -/
private def matching? (key : Text) (x : Text × Nat) : Option (Nat × Property) :=
  match Property.parse? x.1 with
  | some p => if p.key.sameLetters key then some (x.2, p) else none
  | none => none

private theorem matching?_eq_some_iff {l : Text} {k : Nat} :
    matching? key (l, k) = some (m, p) ↔
      k = m ∧ Property.parse? l = some p ∧ p.key.sameLetters key = true := by
  rw [matching?]
  split
  · next q hq =>
    split
    · next hSame =>
      simp only [Option.some.injEq, Prod.mk.injEq, hq]
      constructor
      · rintro ⟨rfl, rfl⟩
        exact ⟨rfl, rfl, hSame⟩
      · rintro ⟨rfl, rfl, -⟩
        exact ⟨rfl, rfl⟩
    · next hSame =>
      simp only [reduceCtorEq, hq, Option.some.injEq, false_iff, not_and]
      rintro - rfl
      exact hSame
  · next hNone => simp [hNone]

private theorem matching?_eq_none_iff {l : Text} {k : Nat} :
    matching? key (l, k) = none ↔
      ∀ q, Property.parse? l = some q → q.key.sameLetters key = false := by
  rw [matching?]
  split
  · next q hq => simp [hq]
  · next hNone => simp [hNone]

theorem find?_eq_none_iff :
    d.find? lines key = none ↔
      ∀ k, d.start < k → k < d.stop → ∀ q, Property.parse? (lines.lineAt k) = some q →
        q.key.sameLetters key = false := by
  have hSearch : d.find? lines key = (d.interior lines).findSome? (matching? key) := rfl
  rw [hSearch, findSome?_interior_eq_none_iff]
  simp only [matching?_eq_none_iff]
  constructor
  · intro h k hStart hStop q hq
    refine h k hStart hStop (Lines.lt_length_of_lineAt_ne_nil ?_) q hq
    intro hNil
    rw [hNil] at hq
    contradiction
  · exact fun h k hStart hStop _ => h k hStart hStop

/-- **The entry for a key** is the first one. -/
theorem find?_eq_some_iff : d.find? lines key = some (m, p) ↔ FirstEntry lines d key m p := by
  have hSearch : d.find? lines key = (d.interior lines).findSome? (matching? key) := rfl
  have hFound : ∀ {m p}, d.find? lines key = some (m, p) → FirstEntry lines d key m p := by
    intro m p h
    rw [hSearch] at h
    obtain ⟨k, hStart, hStop, -, hMatch, hFirst⟩ := exists_of_findSome?_interior h
    obtain ⟨rfl, hParse, hSame⟩ := matching?_eq_some_iff.mp hMatch
    exact ⟨hStart, hStop, hParse, hSame, fun j hStart hjk =>
      matching?_eq_none_iff.mp (hFirst j hStart hjk)⟩
  refine ⟨hFound, fun h => ?_⟩
  -- The search does find something, and two entries cannot both be the first one.
  cases hSome : d.find? lines key with
  | none =>
    have hNone := find?_eq_none_iff.mp hSome m h.start_lt h.lt_stop p h.parse
    rw [h.same] at hNone
    contradiction
  | some x =>
    obtain ⟨rfl, rfl⟩ := (hFound hSome).unique h
    rfl

/-- The case of letters does not matter to the search. -/
theorem find?_congr (h : key.sameLetters key' = true) : d.find? lines key = d.find? lines key' := by
  have hSame : ∀ t : Text, t.sameLetters key = t.sameLetters key' := fun t => by
    rw [Text.sameLetters, Text.sameLetters, Text.sameLetters_iff.mp h]
  simp only [find?, hSame]

end Drawer

end Outliner
