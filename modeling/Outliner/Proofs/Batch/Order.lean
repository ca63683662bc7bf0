import Outliner.Proofs.Batch.LineByLine

/-!
# Outliner — the order of a batch

The edits of a batch all speak of the text before it, so it should not matter which of them is named
first. It does in one place: texts inserted at the same offset stand there in the order of the batch.
The number that an edit has in its batch is otherwise used only to break ties while the edits land,
and between edits that do not clash there are no other ties to break.

So two batches of the same edits are taken or refused alike, and if they insert in the same order at
every offset, they leave the same document. An edit counts by what it resolves to: one between two
places past the end of a line is an insertion at its end.

* `Edit.insertsAt`, `Batch.insertionsAt` — the insertions at an offset, in the order of the batch.
* `Batch.stretches` — the stretches of the edits, without their numbers.

Main results:

* `Fits.perm` — whether a batch is taken is no matter of its order.
* `readThrough_stretches_perm` — what it leaves is one only among insertions at one offset.
* `offer_perm` — the same of a host.
-/

namespace Outliner

variable {lines : Lines} {edits edits' : List Edit}

/-- The edit takes nothing out, and what it puts in it puts at the offset. -/
def Edit.insertsAt (lines : Lines) (k : Nat) (e : Edit) : Bool :=
  lines.offset? e.span.start == some k && lines.offset? e.span.stop == some k

/-- Which of two edits comes first does not matter to their clash. -/
theorem Edit.Clash.symm {e f : Edit} (h : e.Clash lines f) : f.Clash lines e := by
  unfold Clash at *
  omega

namespace Batch

/-- The insertions at an offset, in the order of the batch. -/
def insertionsAt (lines : Lines) (k : Nat) (edits : List Edit) : List Edit :=
  edits.filter (·.insertsAt lines k)

/-! ## Whether a batch is taken -/

/-- A batch that fits does so in every order. -/
theorem Fits.perm (h : Fits lines edits) (hPerm : edits'.Perm edits) : Fits lines edits' where
  lines_exist e he := h.lines_exist e (hPerm.mem_iff.mp he)
  forward e he := h.forward e (hPerm.mem_iff.mp he)
  apart := by
    rw [hPerm.pairwise_iff fun hApart hClash => hApart hClash.symm]
    exact h.apart

/-! ## What a batch leaves -/

/-- The stretches of the edits, all with the same number. -/
def stretches (lines : Lines) (edits : List Edit) : List Patch :=
  edits.map (patch lines · 0)

theorem map_order_patches (lines : Lines) (edits : List Edit) :
    (patches lines edits).map (fun p => { p with order := 0 }) = stretches lines edits := by
  rw [patches, stretches, List.map_map]
  calc edits.zipIdx.map ((fun p => { p with order := 0 }) ∘ fun x => patch lines x.1 x.2)
      = (edits.zipIdx.map Prod.fst).map (patch lines · 0) := by rw [List.map_map]; rfl
    _ = edits.map (patch lines · 0) := by rw [List.zipIdx_map_fst]

theorem readThrough_patches (lines : Lines) (edits : List Edit) (text : Text) :
    Patch.readThrough (patches lines edits) text =
      Patch.readThrough (stretches lines edits) text := by
  rw [← map_order_patches]
  exact (Patch.readThrough_map_order _ _ _).symm

theorem pairwise_conflicts_stretches (h : Fits lines edits) :
    (stretches lines edits).Pairwise fun p q => p.conflicts q = false := by
  rw [← map_order_patches, List.pairwise_map]
  exact (pairwise_conflicts_patches_iff h.forward).mpr h.apart

/-- What is inserted at an offset are the texts of the insertions there. -/
theorem insertedAt_stretches (h : Fits lines edits) (k : Nat) :
    Patch.insertedAt (stretches lines edits) k =
      (insertionsAt lines k edits).flatMap (·.text) := by
  have hKind : ∀ e ∈ edits,
      ((patch lines e 0).isInsertion && (patch lines e 0).start == k) = e.insertsAt lines k := by
    intro e he
    obtain ⟨hStart, hStop⟩ := h.lines_exist e he
    -- All places of a batch that fits have an offset.
    rw [Edit.insertsAt, Lines.offset?, Lines.offset?, if_pos hStart, if_pos hStop]
    rw [Bool.eq_iff_iff]
    simp only [patch, Patch.isInsertion, Bool.and_eq_true, beq_iff_eq, Option.some.injEq]
    omega
  rw [Patch.insertedAt, stretches, List.filter_map, List.flatMap_map, insertionsAt,
    ← List.filter_congr hKind]
  rfl

/-- **A batch that fits** reads the same in every order that keeps the insertions at each offset in
theirs. -/
theorem readThrough_stretches_perm (h : Fits lines edits) (hPerm : edits'.Perm edits)
    (hInserted : ∀ k, insertionsAt lines k edits' = insertionsAt lines k edits) (text : Text) :
    Patch.readThrough (stretches lines edits') text =
      Patch.readThrough (stretches lines edits) text := by
  have hForward : ∀ p ∈ stretches lines edits, p.start ≤ p.stop := by
    intro p hp
    obtain ⟨e, he, rfl⟩ := List.mem_map.mp hp
    exact h.forward e he
  have hStretches : (stretches lines edits').Perm (stretches lines edits) := hPerm.map _
  refine Patch.readThrough_perm hStretches hForward (pairwise_conflicts_stretches h)
    (fun k => ?_) text
  rw [insertedAt_stretches (h.perm hPerm), insertedAt_stretches h, hInserted]

theorem result_perm (d : Document) (h : Fits d.lines edits) (hPerm : edits'.Perm edits)
    (hInserted : ∀ k, insertionsAt d.lines k edits' = insertionsAt d.lines k edits) :
    result d edits' = result d edits := by
  rw [result, result, readThrough_patches, readThrough_patches,
    readThrough_stretches_perm h hPerm hInserted]

end Batch

theorem Host.offer_eq (d : Document) (edits : List Edit) :
    offer (.editable d) edits =
      if Batch.Fits d.lines edits then (true, .editable (Batch.result d edits))
      else (false, .editable d) := by
  rw [offer, edit?, Document.edit?_eq]
  by_cases h : Batch.Fits d.lines edits
  · rw [if_pos h, if_pos h]
    rfl
  · rw [if_neg h, if_neg h]
    rfl

/-- **The order of a batch does not matter.** Two batches of the same edits are both taken by a
document or both refused. If at every offset the insertions are in the same order in both, they leave
the same document. -/
theorem Host.offer_perm (d : Document) (hPerm : edits'.Perm edits) :
    (offer (.editable d) edits').1 = (offer (.editable d) edits).1 ∧
      ((∀ k, Batch.insertionsAt d.lines k edits' = Batch.insertionsAt d.lines k edits) →
        offer (.editable d) edits' = offer (.editable d) edits) := by
  rw [offer_eq, offer_eq]
  by_cases h : Batch.Fits d.lines edits
  · rw [if_pos h, if_pos (h.perm hPerm)]
    refine ⟨rfl, fun hInserted => ?_⟩
    rw [Batch.result_perm d h hPerm hInserted]
  · -- No order of the edits would fit.
    have h' : ¬Batch.Fits d.lines edits' := fun h' => h (h'.perm hPerm.symm)
    rw [if_neg h, if_neg h']
    exact ⟨rfl, fun _ => rfl⟩

/-- Two insertions in front of a replacement, one of them between two places past the end of its
line, and a replacement elsewhere, which may come in any order but that of the insertions. -/
theorem Host.offer_perm_insertions_in_turn :
    let d := Document.ofText "ab\ncd".toList
    let first : Edit := .insert ⟨0, 2⟩ "x".toList
    let second : Edit := ⟨.onLine 0 5 7, "y".toList⟩
    let join : Edit := ⟨⟨⟨0, 2⟩, ⟨1, 1⟩⟩, "-".toList⟩
    let other : Edit := ⟨.onLine 0 0 1, []⟩
    [other, first, join, second].Perm [join, first, second, other] ∧
      offer (.editable d) [other, first, join, second] =
        (true, .editable (.ofText "bxy-d".toList)) := by
  intro d first second join other
  have hPerm : [other, first, join, second].Perm [join, first, second, other] := by decide
  have hInserted : ∀ k, Batch.insertionsAt d.lines k [other, first, join, second] =
      Batch.insertionsAt d.lines k [join, first, second, other] := by
    -- Both insertions are at offset 2, the others take something out.
    have hStart : d.lines.offset? ⟨0, 0⟩ = some 0 := by decide
    have hOne : d.lines.offset? ⟨0, 1⟩ = some 1 := by decide
    have hFirst : d.lines.offset? ⟨0, 2⟩ = some 2 := by decide
    have hJoin : d.lines.offset? ⟨1, 1⟩ = some 4 := by decide
    have hPast : d.lines.offset? ⟨0, 5⟩ = some 2 ∧ d.lines.offset? ⟨0, 7⟩ = some 2 := by decide
    intro k
    by_cases hk : k = 2
    · subst hk
      decide
    · have hNone : ∀ e ∈ [join, first, second, other], ¬e.insertsAt d.lines k = true := by
        simp [Edit.insertsAt, first, second, join, other, Edit.insert, Span.onLine, hStart, hOne,
          hFirst, hJoin, hPast, Ne.symm hk]
        omega
      rw [Batch.insertionsAt, Batch.insertionsAt, List.filter_eq_nil_iff.mpr hNone,
        List.filter_eq_nil_iff.mpr fun e he => hNone e (hPerm.mem_iff.mp he)]
  obtain ⟨-, hSame⟩ := offer_perm d hPerm
  exact ⟨hPerm, (hSame hInserted).trans (by decide)⟩

/-- The order among insertions at one offset is the order of their texts. -/
example :
    let d := Document.ofText "ab".toList
    let x : Edit := .insert ⟨0, 1⟩ "x".toList
    let y : Edit := .insert ⟨0, 1⟩ "y".toList
    Host.offer (.editable d) [x, y] = (true, .editable (.ofText "axyb".toList)) ∧
      Host.offer (.editable d) [y, x] = (true, .editable (.ofText "ayxb".toList)) := by
  decide

end Outliner
