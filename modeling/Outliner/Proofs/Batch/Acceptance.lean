import Outliner.Host
import Outliner.Proofs.Batch.ReadThrough

/-!
# Outliner — which batches land, and what they leave

A batch is taken as a whole or not at all. This module says which batches are taken, in terms of the
edits and of offsets into the lines joined by line feeds, and what document one of them leaves.

* `Edit.Clash` — two edits that cannot both be made.
* `Batch.Fits` — every line exists, no edit runs backwards, and no two edits clash.
* `Batch.patches` — the stretches of the edits, in the order of the batch.

Main results:

* `take_offset_joined` — an offset counts the lines above, with their line feeds, and the column.
* `Document.edit?_eq` — a batch lands if and only if it fits, and then leaves one reading of the
  joined text.
* `offer_editable` — the same of a host: a batch that does not fit leaves it as it is.
-/

namespace Outliner

/-! ## Offsets -/

namespace Lines

/-- The lines in writing, each with its line feed, are as long as their width. -/
theorem length_flatMap_eq_width (lines : Lines) :
    (lines.flatMap (· ++ ['\n'])).length = width lines := by
  induction lines with
  | nil => rfl
  | cons line rest ih =>
    rw [List.flatMap_cons, List.length_append, List.length_append, List.length_singleton, ih, width]

theorem joined_cons_cons (l l' : Text) (ls : Lines) :
    joined (l :: l' :: ls) = l ++ '\n' :: joined (l' :: ls) := by
  simp [joined, List.intercalate_cons_cons]

theorem offset_zero (l : Text) (ls : Lines) (c : Nat) :
    offset (l :: ls) ⟨0, c⟩ = min c l.length := by
  simp [offset, width, lineAt]

/-- An offset in another line counts the first one and its line feed. -/
theorem offset_succ (l : Text) (ls : Lines) (n c : Nat) :
    offset (l :: ls) ⟨n + 1, c⟩ = l.length + 1 + offset ls ⟨n, c⟩ := by
  simp [offset, width, lineAt]
  omega

/-- The text in front of a place: the lines above it, each with its line feed, and its own line up
to the column. -/
theorem take_offset_joined {lines : Lines} {p : Position} (h : p.line < lines.length) :
    lines.joined.take (lines.offset p) =
      (lines.take p.line).flatMap (· ++ ['\n']) ++ (lines.lineAt p.line).take p.column := by
  obtain ⟨n, c⟩ := p
  -- On the lines, with the place counted from the first of them.
  induction lines generalizing n with
  | nil => simp at h
  | cons l ls ih =>
    cases n with
    | zero =>
      have hTake : (joined (l :: ls)).take (min c l.length) = l.take c := by
        cases ls with
        | nil => simp [joined, ← List.take_eq_take_min]
        | cons l' ls =>
          rw [joined_cons_cons, List.take_append_of_le_length (Nat.min_le_right ..),
            ← List.take_eq_take_min]
      simpa [offset_zero, lineAt] using hTake
    | succ n =>
      have hn : n < ls.length := by simpa using h
      obtain ⟨l', ls', rfl⟩ : ∃ l' ls', ls = l' :: ls' :=
        List.exists_cons_of_length_pos (by omega)
      have hLine : lineAt (l :: l' :: ls') (n + 1) = lineAt (l' :: ls') n := by simp [lineAt]
      rw [offset_succ, joined_cons_cons, List.take_append, show l.length + 1 +
        offset (l' :: ls') ⟨n, c⟩ - l.length = offset (l' :: ls') ⟨n, c⟩ + 1 by omega,
        List.take_succ_cons, ih n hn, hLine, List.take_of_length_le (by omega)]
      simp

/-- The offset of a place on a line that exists is inside the joined text. -/
theorem offset_le_length_joined {lines : Lines} {p : Position} (h : p.line < lines.length) :
    lines.offset p ≤ lines.joined.length := by
  have hLen := congrArg List.length (take_offset_joined h)
  rw [List.length_take, List.length_append, length_flatMap_eq_width, List.length_take] at hLen
  have : lines.offset p =
    width (lines.take p.line) + min p.column (lines.lineAt p.line).length := rfl
  omega

end Lines

/-! ## Batches that fit -/

/-- A conflict of two stretches: two replacements overlap, or an insertion stands strictly inside a
replacement. -/
theorem Patch.conflicts_iff {p q : Patch} (hp : p.start ≤ p.stop) (hq : q.start ≤ q.stop) :
    p.conflicts q = true ↔
      (p.start < p.stop ∧ q.start < q.stop ∧ p.start < q.stop ∧ q.start < p.stop) ∨
        (p.start = p.stop ∧ q.start < p.start ∧ p.start < q.stop) ∨
        (q.start = q.stop ∧ p.start < q.start ∧ q.start < p.stop) := by
  unfold conflicts
  cases hpi : p.isInsertion <;> cases hqi : q.isInsertion <;>
    simp [isInsertion] at hpi hqi ⊢ <;> omega

/-- Two edits that cannot both be made: the stretches of two replacements overlap, or an insertion
stands strictly inside the stretch of a replacement. -/
def Edit.Clash (lines : Lines) (e f : Edit) : Prop :=
  let a := lines.offset e.span.start
  let b := lines.offset e.span.stop
  let c := lines.offset f.span.start
  let d := lines.offset f.span.stop
  (a < b ∧ c < d ∧ a < d ∧ c < b) ∨ (a = b ∧ c < a ∧ a < d) ∨ (c = d ∧ a < c ∧ c < b)

instance (lines : Lines) (e f : Edit) : Decidable (e.Clash lines f) :=
  inferInstanceAs (Decidable ((_ ∧ _ ∧ _ ∧ _) ∨ (_ ∧ _ ∧ _) ∨ (_ ∧ _ ∧ _)))

namespace Batch

/-- What a batch has to meet to land on a document of these lines. -/
structure Fits (lines : Lines) (edits : List Edit) : Prop where
  lines_exist : ∀ e ∈ edits, e.span.start.line < lines.length ∧ e.span.stop.line < lines.length
  forward : ∀ e ∈ edits, lines.offset e.span.start ≤ lines.offset e.span.stop
  apart : edits.Pairwise fun e f => ¬e.Clash lines f

instance (lines : Lines) (edits : List Edit) : Decidable (Fits lines edits) :=
  decidable_of_iff
    ((∀ e ∈ edits, e.span.start.line < lines.length ∧ e.span.stop.line < lines.length) ∧
      (∀ e ∈ edits, lines.offset e.span.start ≤ lines.offset e.span.stop) ∧
      edits.Pairwise fun e f => ¬e.Clash lines f)
    ⟨fun ⟨h₁, h₂, h₃⟩ => ⟨h₁, h₂, h₃⟩, fun ⟨h₁, h₂, h₃⟩ => ⟨h₁, h₂, h₃⟩⟩

/-- The stretch of an edit on lines that exist. -/
def patch (lines : Lines) (e : Edit) (order : Nat) : Patch :=
  ⟨lines.offset e.span.start, lines.offset e.span.stop, e.text, order⟩

/-- The stretches of the edits, in the order of the batch. -/
def patches (lines : Lines) (edits : List Edit) : List Patch :=
  edits.zipIdx.map fun (e, order) => patch lines e order

/-- An edit has a stretch when its lines exist and it does not run backwards. -/
theorem resolve?_eq_some_iff {lines : Lines} {e : Edit} {order : Nat} {p : Patch} :
    e.resolve? lines order = some p ↔
      ((e.span.start.line < lines.length ∧ e.span.stop.line < lines.length) ∧
        lines.offset e.span.start ≤ lines.offset e.span.stop) ∧ p = patch lines e order := by
  by_cases hStart : e.span.start.line < lines.length
  · by_cases hStop : e.span.stop.line < lines.length
    · by_cases hLe : lines.offset e.span.start ≤ lines.offset e.span.stop
      · simp [Edit.resolve?, Lines.offset?, patch, hStart, hStop, hLe, eq_comm]
      · simp [Edit.resolve?, Lines.offset?, hStart, hStop, hLe]
    · simp [Edit.resolve?, Lines.offset?, hStart, hStop]
  · simp [Edit.resolve?, Lines.offset?, hStart]

/-- A partial function has a value at every member of a list. -/
private theorem mapM_eq_some_iff {α β : Type} {f : α → Option β} {l : List α} {r : List β} :
    l.mapM f = some r ↔ l.map f = r.map some := by
  induction l generalizing r with
  | nil => cases r <;> simp
  | cons a l ih =>
    rw [List.mapM_cons]
    cases r with
    | nil => cases hf : f a <;> cases hl : l.mapM f <;> simp
    | cons b r =>
      rw [List.map_cons, List.map_cons, List.cons.injEq, ← ih]
      cases hf : f a <;> cases hl : l.mapM f <;> simp

/-- A batch has its stretches when every edit has one. -/
theorem resolveAll?_eq_some_iff {lines : Lines} {edits : List Edit} {ps : List Patch} :
    Edit.resolveAll? lines edits = some ps ↔
      ((∀ e ∈ edits, e.span.start.line < lines.length ∧ e.span.stop.line < lines.length) ∧
        ∀ e ∈ edits, lines.offset e.span.start ≤ lines.offset e.span.stop) ∧
        ps = patches lines edits := by
  rw [Edit.resolveAll?, mapM_eq_some_iff]
  constructor
  · intro h
    -- A batch that is resolved as a whole is resolved edit by edit.
    have hEach : ∀ x ∈ edits.zipIdx,
        ((x.1.span.start.line < lines.length ∧ x.1.span.stop.line < lines.length) ∧
          lines.offset x.1.span.start ≤ lines.offset x.1.span.stop) ∧
        x.1.resolve? lines x.2 = some (patch lines x.1 x.2) := by
      intro x hx
      have hMem : x.1.resolve? lines x.2 ∈ ps.map some := by
        rw [← h]
        exact List.mem_map_of_mem hx
      obtain ⟨p, -, hp⟩ := List.mem_map.mp hMem
      obtain ⟨hFits, rfl⟩ := resolve?_eq_some_iff.mp hp.symm
      exact ⟨hFits, hp.symm⟩
    have hMember : ∀ e ∈ edits, ∃ i, (e, i) ∈ edits.zipIdx := by
      intro e he
      obtain ⟨i, hi, rfl⟩ := List.mem_iff_getElem.mp he
      exact ⟨i, List.mk_mem_zipIdx_iff_getElem?.mpr (List.getElem?_eq_getElem hi)⟩
    refine ⟨⟨?_, ?_⟩, ?_⟩
    · intro e he
      obtain ⟨i, hi⟩ := hMember e he
      exact (hEach _ hi).1.1
    · intro e he
      obtain ⟨i, hi⟩ := hMember e he
      exact (hEach _ hi).1.2
    · apply List.map_injective_iff.mpr fun _ _ => Option.some.inj
      rw [← h, patches, List.map_map]
      exact List.map_congr_left fun x hx => (hEach x hx).2
  · rintro ⟨⟨hLines, hForward⟩, rfl⟩
    rw [patches, List.map_map]
    apply List.map_congr_left
    intro x hx
    have he : x.1 ∈ edits := List.fst_mem_of_mem_zipIdx hx
    exact resolve?_eq_some_iff.mpr ⟨⟨hLines _ he, hForward _ he⟩, rfl⟩

/-- The stretches are numbered as the edits stand in the batch. -/
theorem pairwise_order_patches (lines : Lines) (edits : List Edit) :
    (patches lines edits).Pairwise fun p q => p.order < q.order := by
  have h : (edits.zipIdx.map Prod.snd).Pairwise (· < ·) := by
    rw [List.zipIdx_map_snd]
    exact List.pairwise_lt_range'
  rw [patches, List.pairwise_map]
  exact List.pairwise_map.mp h

/-- The stretches are free of conflicts exactly when no two edits clash. -/
theorem pairwise_conflicts_patches_iff {lines : Lines} {edits : List Edit}
    (hForward : ∀ e ∈ edits, lines.offset e.span.start ≤ lines.offset e.span.stop) :
    ((patches lines edits).Pairwise fun p q => p.conflicts q = false) ↔
      edits.Pairwise fun e f => ¬e.Clash lines f := by
  -- The numbers of the edits take no part in a clash.
  have hFst : (edits.zipIdx.Pairwise fun x y => ¬x.1.Clash lines y.1) ↔
      edits.Pairwise fun e f => ¬e.Clash lines f := by
    rw [← List.pairwise_map (f := Prod.fst) (R := fun e f => ¬Edit.Clash lines e f),
      List.zipIdx_map_fst]
  rw [patches, List.pairwise_map, ← hFst]
  apply List.Pairwise.iff_of_mem
  intro x y hx hy
  have hConflicts := Patch.conflicts_iff (p := patch lines x.1 x.2) (q := patch lines y.1 y.2)
    (hForward _ (List.fst_mem_of_mem_zipIdx hx)) (hForward _ (List.fst_mem_of_mem_zipIdx hy))
  rw [← Bool.not_eq_true, hConflicts]
  rfl

/-- The stretches of a batch that fits lie forward and inside the joined text. -/
theorem inside_of_mem_patches {lines : Lines} {edits : List Edit} (h : Fits lines edits)
    {p : Patch} (hp : p ∈ patches lines edits) :
    p.start ≤ p.stop ∧ p.stop ≤ lines.joined.length := by
  obtain ⟨x, hx, rfl⟩ := List.mem_map.mp hp
  have he : x.1 ∈ edits := List.fst_mem_of_mem_zipIdx hx
  exact ⟨h.forward _ he, Lines.offset_le_length_joined (h.lines_exist _ he).2⟩

end Batch

/-! ## What a batch leaves -/

/-- The document that is read off the joined lines with the edits made. -/
def Batch.result (d : Document) (edits : List Edit) : Document :=
  .read d.lineEnd (Patch.readThrough (patches d.lines edits) d.lines.joined)

/-- A batch leaves the line end. -/
theorem Batch.lineEnd_result (d : Document) (edits : List Edit) :
    (result d edits).lineEnd = d.lineEnd :=
  rfl

/-- A batch lands exactly when it fits, and leaves one reading of the joined lines. -/
theorem Document.edit?_eq (d : Document) (edits : List Edit) :
    d.edit? edits = if Batch.Fits d.lines edits then some (Batch.result d edits) else none := by
  split
  · next h =>
    have hResolve := Batch.resolveAll?_eq_some_iff.mpr ⟨⟨h.lines_exist, h.forward⟩, rfl⟩
    have hApart := (Batch.pairwise_conflicts_patches_iff h.forward).mpr h.apart
    rw [edit?, hResolve, Option.bind_eq_bind, Option.bind_some, if_pos hApart,
      Patch.foldl_land_landing (Batch.pairwise_order_patches _ _)
        (fun p hp => Batch.inside_of_mem_patches h hp) hApart]
    rfl
  · next h =>
    -- Either an edit has no stretch, or two of the stretches are in conflict.
    rw [edit?]
    cases hResolve : Edit.resolveAll? d.lines edits with
    | none => rfl
    | some ps =>
      obtain ⟨⟨hLines, hForward⟩, rfl⟩ := Batch.resolveAll?_eq_some_iff.mp hResolve
      rw [Option.bind_eq_bind, Option.bind_some, if_neg]
      intro hApart
      exact h ⟨hLines, hForward, (Batch.pairwise_conflicts_patches_iff hForward).mp hApart⟩

/-- **Batches on a document.** A document takes a batch exactly when the batch fits its lines. Its
lines are then those of the joined text, read once with the edits made and cut at its line feeds,
and its line end stays. A batch that it does not take leaves it as it is. -/
theorem Host.offer_editable (d : Document) (edits : List Edit) :
    ((offer (.editable d) edits).1 = true ↔ Batch.Fits d.lines edits) ∧
      ((offer (.editable d) edits).1 = true →
        ∃ d', (offer (.editable d) edits).2 = .editable d' ∧
          d'.lines = ((Patch.readThrough (Batch.patches d.lines edits) d.lines.joined).splitOn
            '\n').map Text.dropReturn ∧
          d'.lineEnd = d.lineEnd) ∧
      ((offer (.editable d) edits).1 = false → (offer (.editable d) edits).2 = .editable d) := by
  by_cases h : Batch.Fits d.lines edits
  · have hOffer : offer (.editable d) edits = (true, .editable (Batch.result d edits)) := by
      simp [offer, edit?, Document.edit?_eq, h]
    rw [hOffer]
    exact ⟨by simp [h], fun _ => ⟨_, rfl, rfl, rfl⟩, by simp⟩
  · have hOffer : offer (.editable d) edits = (false, .editable d) := by
      simp [offer, edit?, Document.edit?_eq, h]
    rw [hOffer]
    exact ⟨by simp [h], by simp, fun _ => rfl⟩

end Outliner
