import Mathlib.Data.List.DropRight
import Outliner.Text.Basic

/-!
# Outliner — white space and letter case

Lines are read with the white space at their ends cut off and without regard to the case of their
letters. This module says what is left of a text that is put together from known parts.

* `trim_blank_append`, `trim_append_blank`, `trimEnd_append` — white space in front of a text and
  behind it.
* `getElem?_trimEnd_iff` — what is not blank stays in its column.
* `Trimmed`, `trimmed_iff` — a text without white space at its ends.
* `toUpper_eq_or` — upper case changes small letters only, into capitals.
* `sameLetters_iff` — texts that differ in the case of ASCII letters at most.
* `upper_of_ascii` — on ASCII the full upper case is that of its letters.
-/

namespace Outliner.Text

variable {s t lead trail : Text} {c d : Char}

/-! ## Indentation -/

/-- Spaces and tabs in front of text that is not indented are its indentation. -/
theorem indent_append (hLead : ∀ c ∈ lead, isSpaceOrTab c = true) (ht : t.indent = 0) :
    indent (lead ++ t) = lead.length := by
  have hNone : t.takeWhile isSpaceOrTab = [] := List.eq_nil_of_length_eq_zero ht
  rw [indent, List.takeWhile_append_of_pos hLead, hNone, List.append_nil]

theorem dropIndent_append (hLead : ∀ c ∈ lead, isSpaceOrTab c = true) (ht : t.indent = 0) :
    dropIndent (lead ++ t) = t := by
  rw [dropIndent_eq_drop, indent_append hLead ht, List.drop_left]

theorem dropIndent_space_cons (ht : t.indent = 0) : dropIndent (' ' :: t) = t := by
  rw [← List.singleton_append]
  apply dropIndent_append _ ht
  intro c hc
  rw [List.mem_singleton.mp hc]
  decide

theorem indent_dropIndent (t : Text) : t.dropIndent.indent = 0 := by
  cases hRest : t.dropIndent with
  | nil => rfl
  | cons c rest =>
    have hHead := List.head?_dropWhile_not isSpaceOrTab t
    rw [← dropIndent, hRest] at hHead
    have hHead : isSpaceOrTab c = false := hHead
    rw [indent, List.takeWhile_cons_of_neg (by simp [hHead])]
    rfl

theorem take_indent_append_dropIndent (t : Text) : t.take t.indent ++ t.dropIndent = t := by
  rw [dropIndent_eq_drop, List.take_append_drop]

theorem isSpaceOrTab_of_mem_take_indent (h : c ∈ t.take t.indent) : isSpaceOrTab c = true := by
  have hTake : t.takeWhile isSpaceOrTab = t.take t.indent :=
    List.prefix_iff_eq_take.mp (List.takeWhile_prefix _)
  rw [← hTake] at h
  exact List.mem_takeWhile_imp h

/-- What opens a text decides whether it is indented. -/
theorem indent_eq_zero_iff : t.indent = 0 ↔ ∀ c, t.head? = some c → isSpaceOrTab c = false := by
  cases t with
  | nil => simp [indent]
  | cons c t =>
    by_cases hc : isSpaceOrTab c = true
    · simp [indent, hc]
    · simp [indent, hc]

theorem indent_eq_zero_of_prefix (h : s <+: t) (ht : t.indent = 0) : s.indent = 0 := by
  obtain ⟨rest, rfl⟩ := h
  rw [indent_eq_zero_iff] at ht ⊢
  intro c hc
  apply ht
  rw [List.head?_append, hc, Option.some_or]

theorem indent_append_eq_zero (hs : s ≠ []) (hIndent : s.indent = 0) (t : Text) :
    indent (s ++ t) = 0 := by
  rw [indent_eq_zero_iff] at hIndent ⊢
  intro c hc
  rw [List.head?_append_of_ne_nil _ hs] at hc
  exact hIndent c hc

/-- What is in a class without the space and the tab is neither of them. -/
theorem isSpaceOrTab_eq_false {f : Char → Bool} (hc : f c = true) (hSpace : f ' ' = false)
    (hTab : f '\t' = false) : isSpaceOrTab c = false := by
  by_contra hBlank
  rcases Bool.or_eq_true_iff.mp ((Bool.not_eq_false _).mp hBlank) with hBlank | hBlank
  · rw [beq_iff_eq.mp hBlank, hSpace] at hc
    contradiction
  · rw [beq_iff_eq.mp hBlank, hTab] at hc
    contradiction

theorem isSpaceOrTab_of_mem_spaces {n : Nat} (h : c ∈ spaces n) : isSpaceOrTab c = true := by
  rw [List.eq_of_mem_replicate h]
  decide

theorem isBlank_of_mem_spaces {n : Nat} (h : c ∈ spaces n) : isBlank c = true :=
  isBlank_of_isSpaceOrTab (isSpaceOrTab_of_mem_spaces h)

/-! ## White space at the ends -/

/-- White space in front of a text is cut off. -/
theorem trim_blank_append (hLead : ∀ c ∈ lead, isBlank c = true) (t : Text) :
    trim (lead ++ t) = trim t := by
  rw [trim, trimStart, List.dropWhile_append_of_pos hLead, trim, trimStart]

/-- A text that opens with something else is cut at its end only. -/
theorem trim_cons (h : isBlank c = false) (t : Text) : trim (c :: t) = trimEnd (c :: t) := by
  rw [trim, trimStart, List.dropWhile_cons_of_neg (by simp [h])]

/-- White space behind a text is cut off, together with what it has at its own end. -/
theorem trimEnd_append (s t : Text) :
    trimEnd (s ++ t) = if t.isBlankLine then trimEnd s else s ++ trimEnd t := by
  have hEmpty : (t.reverse.dropWhile isBlank).isEmpty = t.isBlankLine := by
    rw [Bool.eq_iff_iff, List.isEmpty_iff, List.dropWhile_eq_nil_iff, isBlankLine, List.all_eq_true]
    simp only [List.mem_reverse]
  rw [trimEnd, List.reverse_append, List.dropWhile_append, hEmpty]
  split
  · rfl
  · rw [List.reverse_append, List.reverse_reverse, trimEnd]

/-- White space behind a text is cut off. -/
theorem trim_append_blank (hTrail : ∀ c ∈ trail, isBlank c = true) (t : Text) :
    trim (t ++ trail) = trim t := by
  have hBlank : trail.isBlankLine = true := List.all_eq_true.mpr hTrail
  have hNone : trail.dropWhile isBlank = [] := List.dropWhile_eq_nil_iff.mpr hTrail
  rw [trim, trim, trimStart, trimStart, List.dropWhile_append]
  split
  · next hEmpty => rw [hNone, List.isEmpty_iff.mp hEmpty]
  · rw [trimEnd_append, if_pos hBlank]

theorem trimEnd_of_isBlankLine (h : t.isBlankLine = true) : t.trimEnd = [] := by
  apply List.rdropWhile_eq_nil_iff.mpr
  exact List.all_eq_true.mp h

theorem trimEnd_concat (h : isBlank c = false) (t : Text) : trimEnd (t ++ [c]) = t ++ [c] :=
  List.rdropWhile_concat_neg isBlank t c (by simp [h])

theorem trimEnd_cons (h : isBlank c = false) (t : Text) : trimEnd (c :: t) = c :: trimEnd t := by
  rw [← List.singleton_append, trimEnd_append]
  split
  · next hBlank =>
    rw [trimEnd_of_isBlankLine hBlank]
    exact trimEnd_concat h []
  · rfl

theorem trimEnd_prefix (t : Text) : t.trimEnd <+: t :=
  List.rdropWhile_prefix isBlank t

theorem trimEnd_trimEnd (t : Text) : t.trimEnd.trimEnd = t.trimEnd :=
  List.rdropWhile_idempotent isBlank t

theorem exists_eq_trimEnd_append (t : Text) :
    ∃ trail, t = t.trimEnd ++ trail ∧ ∀ c ∈ trail, isBlank c = true := by
  refine ⟨(t.reverse.takeWhile isBlank).reverse, ?_, fun c hc => ?_⟩
  · rw [trimEnd, ← List.reverse_append, List.takeWhile_append_dropWhile, List.reverse_reverse]
  · exact List.mem_takeWhile_imp (List.mem_reverse.mp hc)

/-- What is not blank stands in the same columns when the end of the text is cut. -/
theorem getElem?_trimEnd_iff {k : Nat} (hc : isBlank c = false) :
    t.trimEnd[k]? = some c ↔ t[k]? = some c := by
  obtain ⟨trail, hText, hTrail⟩ := exists_eq_trimEnd_append t
  conv_rhs => rw [hText]
  rcases Nat.lt_or_ge k t.trimEnd.length with hFront | hBehind
  · rw [List.getElem?_append_left hFront]
  · rw [List.getElem?_append_right hBehind, List.getElem?_eq_none hBehind]
    -- All that is cut is blank.
    constructor
    · intro h
      contradiction
    · intro h
      rw [hTrail c (List.mem_of_getElem? h)] at hc
      contradiction

/-- A text that is not blank is trimmed at its start and at its end independently. -/
theorem trimEnd_eq_append_trim (h : t.isBlankLine = false) :
    t.trimEnd = t.takeWhile isBlank ++ t.trim := by
  have hText : t.takeWhile isBlank ++ t.trimStart = t := List.takeWhile_append_dropWhile
  have hRest : t.trimStart.isBlankLine = false := by
    have hTwice : t.trimStart.trimStart = t.trimStart := List.dropWhile_idempotent ..
    rw [← Bool.not_eq_true, isBlankLine_iff_trim_eq_nil] at h ⊢
    rwa [trim, hTwice]
  conv_lhs => rw [← hText]
  rw [trimEnd_append, if_neg (by simp [hRest]), trim]

theorem isBlank_of_trimStart_eq_cons (h : t.trimStart = c :: s) : isBlank c = false := by
  have hHead := List.head?_dropWhile_not isBlank t
  rw [← trimStart, h] at hHead
  exact hHead

/-- What opens a text is left when its end is cut. -/
theorem head?_trim (t : Text) : t.trim.head? = t.trimStart.head? := by
  cases hStart : t.trimStart with
  | nil =>
    rw [trim, hStart]
    rfl
  | cons c s => rw [trim, hStart, trimEnd_cons (isBlank_of_trimStart_eq_cons hStart)]; rfl

theorem trim_trim (t : Text) : t.trim.trim = t.trim := by
  cases hStart : t.trimStart with
  | nil =>
    have hTrim : t.trim = [] := by
      rw [trim, hStart]
      rfl
    rw [hTrim]
    rfl
  | cons c s =>
    have hc := isBlank_of_trimStart_eq_cons hStart
    have hTrim : t.trim = c :: trimEnd s := by
      rw [trim, hStart, trimEnd_cons hc]
    rw [hTrim, trim_cons hc, trimEnd_cons hc, trimEnd_trimEnd]

/-- A text without white space is left as it is. -/
theorem trim_of_solid (h : ∀ c ∈ t, isBlank c = false) : t.trim = t := by
  have hStart : t.trimStart = t := by
    apply List.dropWhile_eq_self_iff.mpr
    intro hPos
    simp [h _ (List.getElem_mem hPos)]
  have hEnd : t.trimEnd = t := by
    apply List.rdropWhile_eq_self_iff.mpr
    intro hNonempty
    simp [h _ (List.getLast_mem hNonempty)]
  rw [trim, hStart, hEnd]

/-- No white space stands at either end. -/
structure Trimmed (t : Text) : Prop where
  head : ∀ c, t.head? = some c → isBlank c = false
  last : ∀ c, t.getLast? = some c → isBlank c = false

/-- What has no white space at its ends is left as it is, and nothing else is. -/
theorem trimmed_iff : t.Trimmed ↔ t.trim = t := by
  constructor
  · intro h
    cases t with
    | nil => rfl
    | cons c s =>
      have hEnd : trimEnd (c :: s) = c :: s := by
        apply List.rdropWhile_eq_self_iff.mpr
        intro hNonempty
        simp [h.last _ (List.getLast?_eq_some_getLast hNonempty)]
      rw [trim_cons (h.head c rfl), hEnd]
  · intro h
    refine ⟨fun c hc => ?_, fun c hc => ?_⟩
    · rw [← h, head?_trim] at hc
      obtain ⟨s, hStart⟩ := List.head?_eq_some_iff.mp hc
      exact isBlank_of_trimStart_eq_cons hStart
    · have hNonempty : t.trim ≠ [] := by
        rw [h]
        rintro rfl
        contradiction
      rw [← h, List.getLast?_eq_some_getLast hNonempty] at hc
      obtain rfl := Option.some.inj hc
      exact (Bool.not_eq_true _).mp (List.rdropWhile_last_not isBlank t.trimStart hNonempty)

theorem trimmed_trim (t : Text) : t.trim.Trimmed :=
  trimmed_iff.mpr (trim_trim t)

theorem mem_of_mem_trim (h : c ∈ t.trim) : c ∈ t := by
  have hStart : c ∈ t.trimStart := (List.rdropWhile_prefix isBlank _).subset h
  exact (List.dropWhile_sublist _).subset hStart

/-! ## Letter case -/

/-- Upper case changes small letters only, and into capitals. -/
theorem toUpper_eq_or (c : Char) :
    c.toUpper = c ∨ 97 ≤ c.toNat ∧ c.toNat ≤ 122 ∧ c.toUpper.toNat = c.toNat - 32 := by
  unfold Char.toUpper
  split
  · next hSmall =>
    have hLow : 97 ≤ c.toNat := hSmall.1
    have hHigh : c.toNat ≤ 122 := hSmall.2
    refine Or.inr ⟨hLow, hHigh, ?_⟩
    show (c.val + ('A'.val - 'a'.val)).toNat = c.toNat - 32
    rw [UInt32.toNat_add]
    show (c.toNat + 4294967264) % 2 ^ 32 = c.toNat - 32
    omega
  · exact Or.inl rfl

/-- What is no letter is no other character in upper case. -/
theorem eq_of_toUpper_eq (h : c.toUpper = d) (hd : d.toNat < 65 ∨ 90 < d.toNat) : c = d := by
  rcases toUpper_eq_or c with hSame | ⟨hLow, hHigh, hUpper⟩
  · rw [← h, hSame]
  · rw [h] at hUpper
    omega

theorem toUpper_toUpper (c : Char) : c.toUpper.toUpper = c.toUpper := by
  rcases toUpper_eq_or c with hSame | ⟨hLow, hHigh, hUpper⟩
  · rw [hSame, hSame]
  · rcases toUpper_eq_or c.toUpper with hSame | ⟨hLow', -, -⟩
    · exact hSame
    · omega

@[simp]
theorem isBlank_toUpper (c : Char) : isBlank c.toUpper = isBlank c := by
  rcases toUpper_eq_or c with hSame | ⟨hLow, hHigh, hUpper⟩
  · rw [hSame]
  · -- Neither a small letter nor a capital is white space.
    rw [Bool.eq_iff_iff]
    simp only [isBlank, hUpper, Bool.or_eq_true, Bool.and_eq_true, decide_eq_true_eq, beq_iff_eq]
    omega

theorem sameLetters_iff : s.sameLetters t = true ↔ s.asciiUpper = t.asciiUpper :=
  beq_iff_eq

theorem sameLetters_comm (s t : Text) : s.sameLetters t = t.sameLetters s := by
  rw [Bool.eq_iff_iff, sameLetters_iff, sameLetters_iff, eq_comm]

theorem asciiUpper_asciiUpper (t : Text) : t.asciiUpper.asciiUpper = t.asciiUpper := by
  rw [asciiUpper, asciiUpper, List.map_map]
  exact List.map_congr_left fun c _ => toUpper_toUpper c

/-- On ASCII the full upper case is that of the letters. -/
theorem upper_of_ascii (h : ∀ c ∈ t, c.toNat < 128) : t.upper = t.asciiUpper := by
  rw [upper, asciiUpper, ← List.flatMap_singleton' (t.map Char.toUpper), List.flatMap_map]
  exact List.flatMap_congr fun c hc => upperChar_of_ascii (h c hc)

end Outliner.Text
