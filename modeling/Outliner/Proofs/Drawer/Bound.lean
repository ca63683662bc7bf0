import Outliner.Proofs.Drawer

/-!
# Outliner — how far below a heading its drawer may start

A setting says among how many lines below a heading its drawer has to start. Any number that fits
in a machine word can be set, and the bound on the search is the sum of that number and the number
of the line below the heading, which has to fit in a machine word again. As long as it does, the
search is what the setting says. Where it does not, there is no search: the request is broken off,
even where a smaller number would have found a drawer.

* `Drawer.Stands` — the lines of a drawer below a heading, whatever the setting.

Main results:

* `below?_eq_some_iff_stands`, `below?_eq_none_iff_stands`, `below?_eq_error_iff` — when a drawer is
  found, when it is found missing, and when there is no answer.
* `below?_within_limit_iff` — when the search is what the setting says, and what becomes of a drawer
  with a larger number.
-/

namespace Outliner.Drawer

variable {config : Config} {lines : Lines} {n : Nat} {d : Drawer}

/-! ## The drawer below a line -/

/-- The first opening marker below line `n`, and the first closing marker below that one, with no
heading up to it. -/
structure Stands (lines : Lines) (n : Nat) (d : Drawer) : Prop where
  lt_start : n < d.start
  opening : isStart (lines.lineAt d.start) = true
  first_opening : ∀ m, n < m → m < d.start → isStart (lines.lineAt m) = false
  start_lt_stop : d.start < d.stop
  closing : isEnd (lines.lineAt d.stop) = true
  first_closing : ∀ m, d.start < m → m < d.stop → isEnd (lines.lineAt m) = false
  body : ∀ m, n < m → m ≤ d.stop → Heading.levelOf (lines.lineAt m) = 0

/-- Both markers are on lines that exist, as the empty line is neither. -/
theorem Stands.stop_lt_length (h : Stands lines n d) : d.stop < lines.length := by
  apply Lines.lt_length_of_lineAt_ne_nil
  intro hNil
  have hClosing := h.closing
  rw [hNil] at hClosing
  exact absurd hClosing (by decide)

/-- The two searches for the markers find this drawer. -/
theorem stands_iff_firstBody :
    Stands lines n d ↔
      Lines.FirstBody isStart lines (n + 1) d.start ∧
        Lines.FirstBody isEnd lines (d.start + 1) d.stop := by
  constructor
  · intro h
    have hStop := h.stop_lt_length
    have hStart := h.start_lt_stop
    refine ⟨⟨h.lt_start, by omega, h.opening, h.first_opening, fun m hLow hHigh => ?_⟩,
      ⟨hStart, hStop, h.closing, h.first_closing, fun m hLow hHigh => ?_⟩⟩
    · exact h.body m hLow (by omega)
    · have hStartLow := h.lt_start
      exact h.body m (by omega) hHigh
  · rintro ⟨hOpening, hClosing⟩
    refine ⟨hOpening.le, hOpening.kind, hOpening.first, hClosing.le, hClosing.kind, hClosing.first,
      fun m hLow hHigh => ?_⟩
    rcases Nat.lt_or_ge d.start m with hBelow | hAbove
    · exact hClosing.body m hBelow hHigh
    · exact hOpening.body m hLow hAbove

/-! ## The three outcomes of the search -/

/-- **A drawer is found** if the bound fits in a word, and the drawer starts within the number of
lines that is set. -/
theorem below?_eq_some_iff_stands :
    below? config lines n = .ok (some d) ↔
      n + 1 + config.drawerScanLimit.toNat < UInt64.size ∧ Stands lines n d ∧
        d.start ≤ n + config.drawerScanLimit.toNat := by
  rw [below?_eq_some_iff, ← stands_iff_firstBody, and_assoc, and_comm (b := Stands lines n d)]

/-- **It is found missing** if the bound fits, and no drawer starts within these lines. -/
theorem below?_eq_none_iff_stands :
    below? config lines n = .ok none ↔
      n + 1 + config.drawerScanLimit.toNat < UInt64.size ∧
        ∀ d, Stands lines n d → n + config.drawerScanLimit.toNat < d.start := by
  rw [below?_eq_ok_iff, Option.eq_none_iff_forall_ne_some]
  refine and_congr_right fun _ => forall_congr' fun d => ?_
  rw [Ne, before?_eq_some_iff, ← stands_iff_firstBody, and_comm, not_and]
  refine imp_congr_right fun _ => ?_
  omega

/-- **There is no answer** if the bound does not fit, whatever the lines. -/
theorem below?_eq_error_iff :
    below? config lines n = .error .overflow ↔
      UInt64.size ≤ n + 1 + config.drawerScanLimit.toNat := by
  refine ⟨fun h => ?_, below?_of_overflow⟩
  by_contra hWord
  rw [below?_of_fits (Nat.lt_of_not_le hWord)] at h
  contradiction

/-- **Within the limit.** The drawer that stands below line `n` is found exactly if it starts at
most as many lines below as the setting says, and if the line behind these has a number that fits in
a word. If that number fits and no drawer starts within these lines, it is found missing; and if the
number does not fit, the request is broken off. So what is found is what the setting says exactly if
the number fits, or if there is nothing to find. A larger setting finds the same drawer as long as
its own number fits, and breaks the request off when it does not. -/
theorem below?_within_limit_iff (config : Config) (lines : Lines) (n : Nat) :
    (∀ d, below? config lines n = .ok (some d) ↔
        n + 1 + config.drawerScanLimit.toNat < UInt64.size ∧ Stands lines n d ∧
          d.start ≤ n + config.drawerScanLimit.toNat) ∧
      (below? config lines n = .ok none ↔
        n + 1 + config.drawerScanLimit.toNat < UInt64.size ∧
          ∀ d, Stands lines n d → n + config.drawerScanLimit.toNat < d.start) ∧
      (below? config lines n = .error .overflow ↔
        UInt64.size ≤ n + 1 + config.drawerScanLimit.toNat) ∧
      ((∀ d, below? config lines n = .ok (some d) ↔
          Stands lines n d ∧ d.start ≤ n + config.drawerScanLimit.toNat) ↔
        n + 1 + config.drawerScanLimit.toNat < UInt64.size ∨
          ∀ d, Stands lines n d → n + config.drawerScanLimit.toNat < d.start) ∧
      ∀ d limit, below? config lines n = .ok (some d) → config.drawerScanLimit ≤ limit →
        below? { config with drawerScanLimit := limit } lines n =
          if n + 1 + limit.toNat < UInt64.size then .ok (some d) else .error .overflow := by
  refine ⟨fun d => below?_eq_some_iff_stands, below?_eq_none_iff_stands, below?_eq_error_iff,
    ⟨fun hSet => ?_, fun h d => ?_⟩, fun d limit hDrawer hLimit => ?_⟩
  · rcases Nat.lt_or_ge (n + 1 + config.drawerScanLimit.toNat) UInt64.size with hWord | hOver
    · exact Or.inl hWord
    · -- A drawer within the limit would have to be found, and there is no answer.
      refine Or.inr fun d hStands => Nat.lt_of_not_le fun hStart => ?_
      have hFound := (hSet d).mpr ⟨hStands, hStart⟩
      rw [below?_of_overflow hOver] at hFound
      contradiction
  · rw [below?_eq_some_iff_stands]
    constructor
    · rintro ⟨-, hStands, hStart⟩
      exact ⟨hStands, hStart⟩
    · rintro ⟨hStands, hStart⟩
      have hWord := h.resolve_right fun hNone => Nat.not_lt.mpr hStart (hNone d hStands)
      exact ⟨hWord, hStands, hStart⟩
  · obtain ⟨-, hStands, hStart⟩ := below?_eq_some_iff_stands.mp hDrawer
    have hLimit := UInt64.le_iff_toNat_le.mp hLimit
    split
    · next hWord =>
      refine below?_eq_some_iff_stands.mpr ⟨hWord, hStands, ?_⟩
      exact Nat.le_trans hStart (Nat.add_le_add_left hLimit n)
    · next hOver => exact below?_of_overflow (Nat.le_of_not_lt hOver)

/-- The last setting whose bound below the first line fits, and the next one, the largest. -/
theorem below?_within_limit_iff_largest :
    let lines : Lines := ["* H".toList, ":PROPERTIES:".toList, ":K: v".toList, ":END:".toList]
    below? {} lines 0 = .ok (some ⟨1, 3⟩) ∧
      below? { drawerScanLimit := 18446744073709551614 } lines 0 = .ok (some ⟨1, 3⟩) ∧
      below? { drawerScanLimit := 18446744073709551615 } lines 0 = .error .overflow := by
  intro lines
  have hDrawer : below? {} lines 0 = .ok (some ⟨1, 3⟩) := by decide
  have hLarger := (below?_within_limit_iff {} lines 0).2.2.2.2 ⟨1, 3⟩
  exact ⟨hDrawer, hLarger 18446744073709551614 hDrawer (by decide),
    hLarger 18446744073709551615 hDrawer (by decide)⟩

/-- The drawer right below the heading, which every setting but zero has among its lines, is not
found with the largest one: there is no answer. -/
theorem lost_at_largest_limit :
    let lines : Lines := ["* H".toList, ":PROPERTIES:".toList, ":K: v".toList, ":END:".toList]
    let config : Config := { drawerScanLimit := 18446744073709551615 }
    Stands lines 0 ⟨1, 3⟩ ∧ 1 ≤ 0 + config.drawerScanLimit.toNat ∧
      below? config lines 0 = .error .overflow ∧ below? {} lines 0 = .ok (some ⟨1, 3⟩) := by
  intro lines config
  have hDrawer : below? {} lines 0 = .ok (some ⟨1, 3⟩) := by decide
  exact ⟨(below?_eq_some_iff_stands.mp hDrawer).2.1, by decide, by decide, hDrawer⟩

end Outliner.Drawer
