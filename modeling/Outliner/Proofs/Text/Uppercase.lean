import Mathlib.Data.Nat.Bitwise
import Outliner.Proofs.Text

/-!
# Outliner — what the upper-case tables hold

The upper-case form of a text is in upper case itself: it has the same form again. This is a fact
about the two tables, since a character that stands in a form must not be one that has a form of its
own. The characters are a few thousand, too many to compare one by one; so both kinds are put into
sets, one bit for each character, and a single conjunction of bits shows that they are disjoint.

* `bits` — a set of numbers as one number.
* `cased`, `capitals` — the characters that the tables map, and those that they map to.

Main results:

* `upperChar_of_mem` — what stands in an upper-case form is its own.
* `upper_upper`, `asciiUpper_upper` — a text in upper case stays as it is.
* `upper_eq_of_sameLetters` — texts that differ in the case of ASCII letters have one form.
* `isBlank_of_mem_upperChar` — no form has white space in it that was not there before.
-/

namespace Outliner.Text

variable {c x : Char} {n : Nat} {ns ms : List Nat} {s t : Text}

/-! ## Sets as bits -/

/-- The set of the listed numbers: the bits with these numbers are on. -/
def bits (ns : List Nat) : Nat :=
  ns.foldr (fun n set => 2 ^ n ||| set) 0

theorem testBit_bits (ns : List Nat) (n : Nat) : (bits ns).testBit n = decide (n ∈ ns) := by
  induction ns with
  | nil => simp [bits]
  | cons m ns ih =>
    rw [bits, List.foldr_cons, Nat.testBit_or, Nat.testBit_two_pow, ← bits, ih]
    by_cases hm : n = m
    · simp [hm]
    · simp [hm, Ne.symm hm]

/-- Lists have nothing in common when their sets have no bit in common. -/
theorem notMem_of_bits (h : bits ns &&& bits ms = 0) (hn : n ∈ ns) : n ∉ ms := by
  intro hm
  have hBit : (bits ns &&& bits ms).testBit n = true := by
    rw [Nat.testBit_and, testBit_bits, testBit_bits, decide_eq_true hn, decide_eq_true hm]
    rfl
  rw [h, Nat.zero_testBit] at hBit
  contradiction

/-! ## The characters of the tables -/

/-- The characters of a run. -/
def CaseRun.members (r : CaseRun) : List Nat :=
  (List.range ((r.last - r.first) / r.step + 1)).map fun i => r.first + i * r.step

/-- The characters that have a form of their own in the tables. -/
def cased : List Nat :=
  upperExpansions.map (·.1) ++ upperRuns.flatMap CaseRun.members

/-- The characters of the forms of the runs. -/
def runCapitals : List Nat :=
  upperRuns.flatMap fun r => r.members.map fun n : Nat => (n + r.offset).toNat

/-- The characters of the forms in both tables. -/
def capitals : List Nat :=
  upperExpansions.flatMap (·.2) ++ runCapitals

/-- The white space and the colon, in numbers. -/
def separators : List Nat :=
  [0x3A, 9, 10, 11, 12, 13, 0x20, 0x85, 0xA0, 0x1680] ++ List.range' 0x2000 11 ++
    [0x2028, 0x2029, 0x202F, 0x205F, 0x3000]

/-- **No form holds a character that has a form of its own,** nor a small ASCII letter, white space
or a colon. -/
theorem bits_capitals :
    bits capitals &&& bits (cased ++ List.range' 97 26 ++ separators) = 0 := by
  decide +kernel

/-- What stands in the tables for a character is one. -/
theorem isValidChar_of_mem_capitals (h : n ∈ capitals) : n.isValidChar := by
  have hAll : capitals.all (fun n => decide (n.isValidChar)) = true := by decide +kernel
  exact of_decide_eq_true (List.all_eq_true.mp hAll n h)

theorem CaseRun.mem_members {r : CaseRun} (h : r.contains n = true) : n ∈ r.members := by
  simp only [CaseRun.contains, Bool.and_eq_true, decide_eq_true_eq, beq_iff_eq] at h
  obtain ⟨⟨hFirst, hLast⟩, hStep⟩ := h
  refine List.mem_map.mpr ⟨(n - r.first) / r.step, ?_, ?_⟩
  · -- It is so many steps away from the first one.
    rw [List.mem_range, Nat.lt_succ_iff]
    exact Nat.div_le_div_right (Nat.sub_le_sub_right hLast _)
  · have hExact := Nat.div_add_mod (n - r.first) r.step
    rw [hStep, Nat.add_zero, Nat.mul_comm] at hExact
    omega

/-! ## The forms of characters -/

theorem toUpper_of_le (h : 0x80 ≤ c.toNat) : c.toUpper = c := by
  rcases toUpper_eq_or c with hSame | ⟨-, hHigh, -⟩
  · exact hSame
  · omega

/-- A character that is not ASCII is its own form, or has one in either table. -/
theorem upperChar_eq_or (h : 0x80 ≤ c.toNat) :
    upperChar c = [c] ∨ (∃ e ∈ upperExpansions, upperChar c = e.2.map Char.ofNat) ∨
      ∃ n ∈ runCapitals, upperChar c = [Char.ofNat n] := by
  rw [upperChar, if_neg (Nat.not_lt.mpr h)]
  split
  · next form hForm =>
    obtain ⟨before, after, hSplit, -⟩ := List.lookup_eq_some_iff.mp hForm
    refine Or.inr (Or.inl ⟨(c.toNat, form), ?_, rfl⟩)
    rw [hSplit]
    exact List.mem_append_right _ (List.mem_cons_self ..)
  · split
    · next run hRun =>
      have hContains : run.contains c.toNat = true :=
        List.find?_some (p := fun run : CaseRun => run.contains c.toNat) hRun
      have hMember := CaseRun.mem_members hContains
      refine Or.inr (Or.inr ⟨_, ?_, rfl⟩)
      exact List.mem_flatMap.mpr
        ⟨run, List.mem_of_find?_eq_some hRun, List.mem_map.mpr ⟨_, hMember, rfl⟩⟩
    · exact Or.inl rfl

theorem toNat_ofNat_of_mem_capitals (h : n ∈ capitals) : (Char.ofNat n).toNat = n := by
  rw [Char.ofNat, dif_pos (isValidChar_of_mem_capitals h)]
  rfl

/-- What stands in a form of a character that is not ASCII is the character, or comes from a
table. -/
theorem eq_or_mem_capitals (h : 0x80 ≤ c.toNat) (hx : x ∈ upperChar c) :
    x = c ∧ upperChar c = [c] ∨ x.toNat ∈ capitals := by
  rcases upperChar_eq_or h with hSelf | ⟨e, he, hForm⟩ | ⟨n, hn, hForm⟩
  · rw [hSelf] at hx
    exact Or.inl ⟨List.mem_singleton.mp hx, hSelf⟩
  · rw [hForm] at hx
    obtain ⟨n, hn, rfl⟩ := List.mem_map.mp hx
    have hCapital : n ∈ capitals :=
      List.mem_append_left _ (List.mem_flatMap.mpr ⟨e, he, hn⟩)
    rw [toNat_ofNat_of_mem_capitals hCapital]
    exact Or.inr hCapital
  · rw [hForm] at hx
    have hCapital : n ∈ capitals := List.mem_append_right _ hn
    rw [List.mem_singleton.mp hx, toNat_ofNat_of_mem_capitals hCapital]
    exact Or.inr hCapital

/-- A character of the forms is its own form. -/
theorem upperChar_of_mem_capitals (h : x.toNat ∈ capitals) : upperChar x = [x] := by
  -- It has no form of its own in either table, and is no small ASCII letter.
  have hNot := notMem_of_bits bits_capitals h
  simp only [cased, List.mem_append, not_or] at hNot
  obtain ⟨⟨⟨hExpansion, hRun⟩, hSmall⟩, -⟩ := hNot
  rw [upperChar]
  split
  · rcases toUpper_eq_or x with hSame | ⟨hLow, hHigh, -⟩
    · rw [hSame]
    · exact absurd (List.mem_range'_1.mpr ⟨hLow, by omega⟩) hSmall
  · have hLookup : upperExpansions.lookup x.toNat = none := by
      rw [List.lookup_eq_none_iff]
      intro e he
      rw [bne_iff_ne]
      intro hSame
      exact hExpansion (List.mem_map.mpr ⟨e, he, hSame.symm⟩)
    have hFind : upperRuns.find? (·.contains x.toNat) = none := by
      rw [List.find?_eq_none]
      intro run hMem hContains
      exact hRun (List.mem_flatMap.mpr ⟨run, hMem, CaseRun.mem_members hContains⟩)
    rw [hLookup, hFind]

/-- **What stands in an upper-case form is its own.** -/
theorem upperChar_of_mem (hx : x ∈ upperChar c) : upperChar x = [x] := by
  rcases Nat.lt_or_ge c.toNat 0x80 with hAscii | hWide
  · rw [upperChar_of_ascii hAscii, List.mem_singleton] at hx
    have hAscii' : x.toNat < 0x80 := by
      rcases toUpper_eq_or c with hSame | ⟨-, -, hUpper⟩
      · rw [hx, hSame]
        exact hAscii
      · rw [hx, hUpper]
        omega
    rw [upperChar_of_ascii hAscii', hx, toUpper_toUpper]
  · rcases eq_or_mem_capitals hWide hx with ⟨rfl, hSelf⟩ | hCapital
    · exact hSelf
    · exact upperChar_of_mem_capitals hCapital

theorem upperChar_ne_nil (c : Char) : upperChar c ≠ [] := by
  have hForms : ∀ e ∈ upperExpansions, e.2 ≠ [] := by decide
  rcases Nat.lt_or_ge c.toNat 0x80 with hAscii | hWide
  · simp [upperChar_of_ascii hAscii]
  · rcases upperChar_eq_or hWide with hForm | ⟨e, he, hForm⟩ | ⟨n, -, hForm⟩ <;> rw [hForm]
    · simp
    · exact fun hNil => hForms e he (List.map_eq_nil_iff.mp hNil)
    · simp

theorem mem_separators_of_isBlank (h : isBlank c = true) : c.toNat ∈ separators := by
  simp only [isBlank, Bool.or_eq_true, Bool.and_eq_true, decide_eq_true_eq, beq_iff_eq] at h
  simp only [separators, List.mem_append, List.mem_cons, List.not_mem_nil, List.mem_range'_1]
  omega

/-- What separates is no part of a form. -/
theorem notMem_separators (hx : x.toNat ∈ capitals) : x.toNat ∉ separators := fun h =>
  notMem_of_bits bits_capitals hx (List.mem_append_right _ h)

/-- No form has white space in it that was not there before. -/
theorem isBlank_of_mem_upperChar (hx : x ∈ upperChar c) (hc : isBlank c = false) :
    isBlank x = false := by
  rcases Nat.lt_or_ge c.toNat 0x80 with hAscii | hWide
  · rw [upperChar_of_ascii hAscii, List.mem_singleton] at hx
    rw [hx, isBlank_toUpper, hc]
  · rcases eq_or_mem_capitals hWide hx with ⟨rfl, -⟩ | hCapital
    · exact hc
    · rw [← Bool.not_eq_true]
      exact fun hBlank => notMem_separators hCapital (mem_separators_of_isBlank hBlank)

/-- Nor a colon. -/
theorem ne_colon_of_mem_upperChar (hx : x ∈ upperChar c) (hc : c ≠ ':') : x ≠ ':' := by
  rcases Nat.lt_or_ge c.toNat 0x80 with hAscii | hWide
  · rw [upperChar_of_ascii hAscii, List.mem_singleton] at hx
    rw [hx]
    exact fun hColon => hc (eq_of_toUpper_eq hColon (by decide))
  · rcases eq_or_mem_capitals hWide hx with ⟨rfl, -⟩ | hCapital
    · exact hc
    · rintro rfl
      exact notMem_separators hCapital (by decide)

/-! ## The forms of texts -/

theorem upper_ne_nil (h : t ≠ []) : t.upper ≠ [] := by
  obtain ⟨c, s, rfl⟩ := List.exists_cons_of_ne_nil h
  rw [upper, List.flatMap_cons]
  exact fun hNil => upperChar_ne_nil c (List.append_eq_nil_iff.mp hNil).1

/-- **A text in upper case stays as it is.** -/
theorem upper_upper (t : Text) : t.upper.upper = t.upper := by
  have hOwn : ∀ x ∈ t.upper, upperChar x = [x] := by
    intro x hx
    obtain ⟨c, -, hc⟩ := List.mem_flatMap.mp hx
    exact upperChar_of_mem hc
  rw [upper, List.flatMap_congr hOwn, List.flatMap_singleton']

theorem toUpper_of_upperChar_eq (h : upperChar c = [c]) : c.toUpper = c := by
  rcases Nat.lt_or_ge c.toNat 0x80 with hAscii | hWide
  · rw [upperChar_of_ascii hAscii] at h
    exact (List.cons.inj h).1
  · exact toUpper_of_le hWide

theorem asciiUpper_upper (t : Text) : t.upper.asciiUpper = t.upper := by
  rw [asciiUpper]
  conv_rhs => rw [← List.map_id t.upper]
  refine List.map_congr_left fun x hx => ?_
  obtain ⟨c, -, hc⟩ := List.mem_flatMap.mp hx
  exact toUpper_of_upperChar_eq (upperChar_of_mem hc)

theorem upperChar_toUpper (c : Char) : upperChar c.toUpper = upperChar c := by
  rcases Nat.lt_or_ge c.toNat 0x80 with hAscii | hWide
  · have hMem : c.toUpper ∈ upperChar c := by
      rw [upperChar_of_ascii hAscii]
      exact List.mem_cons_self ..
    rw [upperChar_of_mem hMem, upperChar_of_ascii hAscii]
  · rw [toUpper_of_le hWide]

/-- Texts that differ in the case of ASCII letters have one upper-case form. -/
theorem upper_eq_of_sameLetters (h : s.sameLetters t = true) : s.upper = t.upper := by
  have hAscii : ∀ t : Text, t.asciiUpper.upper = t.upper := fun t => by
    rw [upper, asciiUpper, List.flatMap_map, upper]
    exact List.flatMap_congr fun c _ => upperChar_toUpper c
  rw [← hAscii s, sameLetters_iff.mp h, hAscii t]

end Outliner.Text
