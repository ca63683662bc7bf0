import Mathlib.Data.List.DropRight
import Outliner.Link
import Outliner.Proofs.Text
import Outliner.Proofs.Text.Cut

/-!
# Outliner — the links of a line

A link in brackets ends at the first brackets that can close it, so what it was read from is its
writing, and the writing is read in front of any text. A bare link ends where its last character
that is no sentence mark does. Each link is looked for behind the last one, so the links of a line
stand in it in order and apart from each other.

* `Link.Bracketed`, `Link.Bare` — the parts of a link, and its writing.
* `Link.Written` — the text is the writing of the link.
* `Link.Placed` — the link stands in a text with its own writing.

Main results:

* `takeBracketed?_render_append` — a link in brackets is read back from its writing.
* `exists_of_take?` — what opens with a link opens with its writing.
* `placed_of_mem_scan`, `pairwise_scan` — where the links of a text stand.
* `ofLine_in_place` — the links of a line, and the link over a column.
-/

namespace Outliner

namespace Link

variable {t line : Text} {r : Reading} {before : Option Char} {column skip : Nat} {l : Link}

/-! ## Links in brackets -/

/-- The parts of a link in brackets. Nothing in them closes it before its end. -/
structure Bracketed where
  target : Text
  description : Option Text
  target_not_blank : target.isBlankLine = false
  target_open : ']' ∉ target
  /-- A bracket at its end would be the first of a pair. -/
  description_open : ∀ d, description = some d → ¬[']', ']'] <:+: d ∧ d.getLast? ≠ some ']'

/-- The link in writing: `[[target]]` or `[[target][description]]`. -/
def Bracketed.render (b : Bracketed) : Text :=
  "[[".toList ++ b.target
    ++ (match b.description with
      | some d => "][".toList ++ d
      | none => [])
    ++ "]]".toList

/-- What is read from the writing. -/
def Bracketed.reading (b : Bracketed) : Reading :=
  ⟨.bracketed, b.target, b.description, b.render.length⟩

/-- The link, written from a column on. -/
def Bracketed.linkAt (b : Bracketed) (column : Nat) : Link where
  form := .bracketed
  target := .classify b.target
  rawTarget := Text.trim b.target
  description := b.description
  start := column
  stop := column + b.render.length

theorem Bracketed.length_render (b : Bracketed) :
    b.render.length = b.target.length + (b.description.elim 0 (·.length + 2)) + 4 := by
  obtain ⟨target, description, _, _, _⟩ := b
  cases description with
  | none => simp [render]
  | some d =>
    simp [render]
    omega

/-- A description is cut at the first pair of brackets: it holds none, and does not end in a
bracket, which would make a pair with the first of them. -/
theorem cutAt_closing_iff {rest d after : Text} :
    rest.cutAt [']', ']'] = some (d, after) ↔
      rest = d ++ [']', ']'] ++ after ∧ ¬[']', ']'] <:+: d ∧ d.getLast? ≠ some ']' := by
  have hSuffix : [']', ']'] <:+ d ++ [']'] ↔ d.getLast? = some ']' := by
    rw [List.getLast?_eq_some_iff]
    constructor
    · rintro ⟨front, hFront⟩
      have hConcat : front ++ [']'] ++ [']'] = d ++ [']'] := by
        rw [← hFront, List.append_assoc]
        rfl
      exact ⟨front, (List.append_cancel_right hConcat).symm⟩
    · rintro ⟨front, rfl⟩
      exact ⟨front, by simp⟩
  rw [Text.cutAt_eq_some_iff (List.cons_ne_nil _ _)]
  show _ ∧ ¬[']', ']'] <:+: d ++ [']'] ↔ _
  rw [List.infix_concat_iff, hSuffix, not_or, and_comm (a := ¬_)]

/-- What opens with a link in brackets opens with its writing. -/
theorem exists_of_takeBracketed? (h : takeBracketed? t = some r) :
    ∃ (b : Bracketed) (rest : Text), t = b.render ++ rest ∧ r = b.reading := by
  obtain ⟨inner, hInner, hRead⟩ := Option.bind_eq_some_iff.mp h
  obtain ⟨⟨target, behind⟩, hTarget, hBehind⟩ := Option.bind_eq_some_iff.mp hRead
  obtain rfl := Text.isPrefixOf?_eq_some_iff.mp hInner
  obtain ⟨rfl, hOpen⟩ := Text.cutAt_singleton_eq_some_iff.mp hTarget
  dsimp only at hBehind
  split at hBehind
  · contradiction
  next hBlank =>
  have hBlank : target.isBlankLine = false := by simpa using hBlank
  -- Behind the target the brackets are closed, or opened once more for the description.
  split at hBehind
  · next rest =>
    refine ⟨⟨target, none, hBlank, hOpen, by simp⟩, rest, by simp [Bracketed.render], ?_⟩
    rw [← Option.some.inj hBehind, Bracketed.reading, Bracketed.length_render]
    rfl
  · next rest =>
    obtain ⟨⟨d, after⟩, hCut, hFound⟩ := Option.bind_eq_some_iff.mp hBehind
    obtain ⟨rfl, hFree⟩ := cutAt_closing_iff.mp hCut
    refine ⟨⟨target, some d, hBlank, hOpen, ?_⟩, after, by simp [Bracketed.render], ?_⟩
    · rintro d' hd
      rwa [← Option.some.inj hd]
    · rw [← Option.some.inj hFound, Bracketed.reading, Bracketed.length_render]
      rfl
  · contradiction

/-- **A link in brackets is read back** with its parts, whatever is written behind it. -/
theorem takeBracketed?_render_append (b : Bracketed) (rest : Text) :
    takeBracketed? (b.render ++ rest) = some b.reading := by
  rw [Bracketed.reading, Bracketed.length_render]
  obtain ⟨target, description, hBlank, hOpen, hDescription⟩ := b
  have hTarget (behind : Text) :
      Text.cutAt (target ++ ']' :: behind) [']'] = some (target, behind) :=
    Text.cutAt_singleton_eq_some_iff.mpr ⟨rfl, hOpen⟩
  cases description with
  | none => simp [takeBracketed?, Bracketed.render, List.isPrefixOf?, hTarget, hBlank]
  | some d =>
    have hCut : Text.cutAt (d ++ ']' :: ']' :: rest) [']', ']'] = some (d, rest) :=
      cutAt_closing_iff.mpr ⟨by simp, hDescription d rfl⟩
    simp [takeBracketed?, Bracketed.render, List.isPrefixOf?, hTarget, hBlank, hCut]
    omega

/-! ## Bare links -/

/-- The parts of a bare link. It is solid to its end, which is no sentence mark. -/
structure Bare where
  scheme : Text
  form : LinkForm
  body : Text
  known : (scheme, form) ∈ bareSchemes
  body_ne_nil : body ≠ []
  solid : ∀ c ∈ scheme ++ body, Text.isBlank c = false
  ending : ∀ c, (scheme ++ body).getLast? = some c → isSentenceMark c = false

/-- A bare link is written as it is. -/
def Bare.render (b : Bare) : Text :=
  b.scheme ++ b.body

/-- What is read from the writing. -/
def Bare.reading (b : Bare) : Reading :=
  ⟨b.form, b.render, none, b.render.length⟩

/-- The link, written from a column on. -/
def Bare.linkAt (b : Bare) (column : Nat) : Link where
  form := b.form
  target := .classify b.render
  rawTarget := b.render
  description := none
  start := column
  stop := column + b.render.length

theorem isBlank_of_mem_scheme {p : Text × LinkForm} (hp : p ∈ bareSchemes) :
    ∀ c ∈ p.1, Text.isBlank c = false := by
  have hAll : (bareSchemes.all fun p => p.1.all (!Text.isBlank ·)) = true := by decide
  have hScheme := List.all_eq_true.mp (List.all_eq_true.mp hAll p hp)
  simpa using hScheme

/-- What opens with a bare link opens with its writing. -/
theorem exists_of_takeBare? (h : takeBare? t = some r) :
    ∃ (b : Bare) (rest : Text), t = b.render ++ rest ∧ r = b.reading := by
  obtain ⟨⟨scheme, form⟩, hFind, hRead⟩ := Option.bind_eq_some_iff.mp h
  have hKnown : (scheme, form) ∈ bareSchemes := List.mem_of_find?_eq_some hFind
  obtain ⟨behind, rfl⟩ : scheme <+: t := by simpa using List.find?_some hFind
  dsimp only at hRead
  rw [List.drop_left] at hRead
  split at hRead
  next hLong =>
    let body := behind.takeWhile isBareChar
    let target := (scheme ++ body).rdropWhile isSentenceMark
    have hLength : scheme.length < target.length := hLong.2
    have hTarget : target <+: scheme ++ body := List.rdropWhile_prefix ..
    -- The sentence marks that are cut off are not those of the scheme.
    obtain ⟨front, hFront⟩ : scheme <+: target :=
      List.prefix_of_prefix_length_le (List.prefix_append ..) hTarget hLength.le
    have hBody : front <+: body := by
      rwa [← hFront, List.prefix_append_right_inj] at hTarget
    obtain ⟨rest, hRest⟩ := hBody.trans (List.takeWhile_prefix isBareChar)
    have hSolid : ∀ c ∈ scheme ++ front, Text.isBlank c = false := by
      intro c hc
      rcases List.mem_append.mp hc with hc | hc
      · exact isBlank_of_mem_scheme hKnown c hc
      · have hBare := List.mem_takeWhile_imp (hBody.subset hc)
        simp only [isBareChar, Bool.and_eq_true, Bool.not_eq_true'] at hBare
        exact hBare.1.1.1
    refine ⟨⟨scheme, form, front, hKnown, ?_, hSolid, ?_⟩, rest, ?_, ?_⟩
    · rintro rfl
      rw [← hFront, List.append_nil] at hLength
      exact lt_irrefl _ hLength
    · intro c hc
      rw [hFront] at hc
      obtain ⟨hNonempty, rfl⟩ := List.mem_getLast?_eq_getLast hc
      simpa using List.rdropWhile_last_not isSentenceMark _ hNonempty
    · rw [Bare.render, List.append_assoc, hRest]
    · show r = ⟨form, scheme ++ front, none, (scheme ++ front).length⟩
      rw [hFront]
      exact (Option.some.inj hRead).symm
  next => contradiction

/-! ## The link that opens a text -/

/-- The link that a reading gives, written from a column on. -/
def Reading.linkAt (r : Reading) (column : Nat) : Link where
  form := r.form
  target := .classify r.target
  rawTarget := Text.trim r.target
  description := r.description
  start := column
  stop := column + r.width

/-- The text is the writing of the link. -/
inductive Written : Link → Text → Prop
  | bracketed (b : Bracketed) (column : Nat) : Written (b.linkAt column) b.render
  | bare (b : Bare) (column : Nat) : Written (b.linkAt column) b.render

/-- A link covers the columns of its writing. -/
theorem Written.stop_eq (h : Written l t) : l.stop = l.start + t.length := by
  cases h with
  | bracketed b column => rfl
  | bare b column => rfl

theorem Written.length_pos (h : Written l t) : 0 < t.length := by
  cases h with
  | bracketed b column =>
    rw [Bracketed.length_render]
    omega
  | bare b column =>
    rw [Bare.render, List.length_append]
    have hBody := List.length_pos_iff.mpr b.body_ne_nil
    omega

/-- **What opens with a link opens with the writing of that link**, at whichever column. -/
theorem exists_of_take? (h : take? before t = some r) :
    ∃ s rest, t = s ++ rest ∧ ∀ column, Written (r.linkAt column) s := by
  unfold take? at h
  split at h
  next hBracketed =>
    obtain ⟨b, rest, rfl, hReading⟩ := exists_of_takeBracketed? hBracketed
    obtain rfl := (Option.some.inj h).symm.trans hReading
    exact ⟨b.render, rest, rfl, fun column => .bracketed b column⟩
  next =>
    split at h
    · obtain ⟨b, rest, rfl, rfl⟩ := exists_of_takeBare? h
      have hTrim : b.render.trim = b.render := Text.trim_of_solid b.solid
      refine ⟨b.render, rest, rfl, fun column => ?_⟩
      have hLink : b.reading.linkAt column = b.linkAt column := by
        rw [Reading.linkAt, Bare.linkAt, Bare.reading, hTrim]
      rw [hLink]
      exact .bare b column
    · contradiction

/-! ## The links of a text -/

theorem scan_skip_cons (before : Option Char) (column skip : Nat) (c : Char) (t : Text) :
    scan before column (skip + 1) (c :: t) = scan (some c) (column + 1) skip t := rfl

theorem scan_of_take?_none {c : Char} (h : take? before (c :: t) = none) :
    scan before column 0 (c :: t) = scan (some c) (column + 1) 0 t := by
  rw [scan, h]

theorem scan_of_take?_some {c : Char} (h : take? before (c :: t) = some r) :
    scan before column 0 (c :: t) =
      r.linkAt column :: scan (some c) (column + 1) (r.width - 1) t := by
  rw [scan, h]
  rfl

/-- The link stands in a text, which is at this column, with its own writing. -/
def Placed (column : Nat) (t : Text) (l : Link) : Prop :=
  ∃ front s rest, t = front ++ s ++ rest ∧ l.start = column + front.length ∧ Written l s

theorem Placed.cons (h : Placed (column + 1) t l) (c : Char) : Placed column (c :: t) l := by
  obtain ⟨front, s, rest, rfl, hStart, hWritten⟩ := h
  refine ⟨c :: front, s, rest, rfl, ?_, hWritten⟩
  rw [hStart, List.length_cons]
  omega

theorem Placed.start_lt_stop (h : Placed column t l) : l.start < l.stop := by
  obtain ⟨front, s, rest, -, -, hWritten⟩ := h
  have hStop := hWritten.stop_eq
  have hPos := hWritten.length_pos
  omega

theorem Placed.stop_le (h : Placed 0 t l) : l.stop ≤ t.length := by
  obtain ⟨front, s, rest, rfl, hStart, hWritten⟩ := h
  have hStop := hWritten.stop_eq
  simp only [List.length_append]
  omega

theorem Placed.written (h : Placed 0 t l) :
    Written l ((t.drop l.start).take (l.stop - l.start)) := by
  obtain ⟨front, s, rest, rfl, hStart, hWritten⟩ := h
  have hFront : l.start = front.length := by omega
  have hLength : l.stop - l.start = s.length := by
    have hStop := hWritten.stop_eq
    omega
  rw [hLength, hFront, List.append_assoc, List.drop_left, List.take_left]
  exact hWritten

/-- Every link that is found stands in the text, behind the columns that are skipped. -/
theorem placed_of_mem_scan (h : l ∈ scan before column skip t) :
    Placed column t l ∧ column + skip ≤ l.start := by
  -- On the text: its first character is skipped, or passed over, or opens a link.
  induction t generalizing before column skip with
  | nil => simp [scan] at h
  | cons c t ih =>
    cases skip with
    | succ skip =>
      rw [scan_skip_cons] at h
      obtain ⟨hPlaced, hStart⟩ := ih h
      exact ⟨hPlaced.cons c, by omega⟩
    | zero =>
      cases hTake : take? before (c :: t) with
      | none =>
        rw [scan_of_take?_none hTake] at h
        obtain ⟨hPlaced, hStart⟩ := ih h
        exact ⟨hPlaced.cons c, by omega⟩
      | some r =>
        rw [scan_of_take?_some hTake] at h
        rcases List.mem_cons.mp h with rfl | h
        · obtain ⟨s, rest, hText, hWritten⟩ := exists_of_take? hTake
          exact ⟨⟨[], s, rest, hText, rfl, hWritten column⟩, le_rfl⟩
        · obtain ⟨hPlaced, hStart⟩ := ih h
          exact ⟨hPlaced.cons c, by omega⟩

/-- The links that are found stand in order and apart. -/
theorem pairwise_scan (before : Option Char) (column skip : Nat) (t : Text) :
    (scan before column skip t).Pairwise fun l m => l.stop ≤ m.start := by
  -- On the text, as above; the columns that are skipped keep the next link away from this one.
  induction t generalizing before column skip with
  | nil => exact List.Pairwise.nil
  | cons c t ih =>
    cases skip with
    | succ skip => exact ih ..
    | zero =>
      cases hTake : take? before (c :: t) with
      | none =>
        rw [scan_of_take?_none hTake]
        exact ih ..
      | some r =>
        rw [scan_of_take?_some hTake, List.pairwise_cons]
        refine ⟨fun m hm => ?_, ih ..⟩
        have hStart := (placed_of_mem_scan hm).2
        show column + r.width ≤ m.start
        omega

/-- Links that are apart do not cover the same column. -/
theorem find?_covering_iff {ls : List Link}
    (hApart : ls.Pairwise fun l m => l.stop ≤ m.start) :
    (ls.find? fun l => l.start ≤ column && column < l.stop) = some l ↔
      l ∈ ls ∧ l.start ≤ column ∧ column < l.stop := by
  induction ls with
  | nil => simp
  | cons m ls ih =>
    obtain ⟨hHead, hTail⟩ := List.pairwise_cons.mp hApart
    by_cases hCovers : m.start ≤ column ∧ column < m.stop
    · rw [List.find?_cons_of_pos (by simpa using hCovers), List.mem_cons]
      constructor
      · rintro hl
        obtain rfl := Option.some.inj hl
        exact ⟨Or.inl rfl, hCovers⟩
      · rintro ⟨rfl | hl, hStart, hStop⟩
        · rfl
        · -- A link further on starts where this one has ended.
          have hBehind := hHead l hl
          omega
    · rw [List.find?_cons_of_neg (by simpa using hCovers), ih hTail, List.mem_cons]
      constructor
      · rintro ⟨hl, hCovered⟩
        exact ⟨Or.inr hl, hCovered⟩
      · rintro ⟨rfl | hl, hCovered⟩
        · exact absurd hCovered hCovers
        · exact ⟨hl, hCovered⟩

/-- **The links of a line stand in it in order and apart**, each over its own writing, and the link
over a column is the only one that covers it. -/
theorem ofLine_in_place (line : Text) :
    ((ofLine line).Pairwise fun l m => l.stop ≤ m.start) ∧
      (∀ l ∈ ofLine line, l.start < l.stop ∧ l.stop ≤ line.length ∧
        Written l ((line.drop l.start).take (l.stop - l.start))) ∧
      ∀ column l, covering? line column = some l ↔
        l ∈ ofLine line ∧ l.start ≤ column ∧ column < l.stop := by
  have hApart := pairwise_scan none 0 0 line
  refine ⟨hApart, fun l hl => ?_, fun column l => find?_covering_iff hApart⟩
  have hPlaced := (placed_of_mem_scan hl).1
  exact ⟨hPlaced.start_lt_stop, hPlaced.stop_le, hPlaced.written⟩

/-- A bare address between words is found, and ends in front of the full stop. -/
example :
    ofLine "at https://x.org/a. Now".toList =
      [⟨.bareUrl, .url "https://x.org/a".toList, "https://x.org/a".toList, none, 3, 18⟩] := by
  decide

end Link

end Outliner
