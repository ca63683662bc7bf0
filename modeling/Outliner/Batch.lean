import Outliner.Document

/-!
# Outliner — batches of edits

A batch lands completely or not at all. Every edit is first resolved to a stretch of the text that
the lines make when joined by line feeds, so all of them speak of the text before the batch. The
edits then land back to front, each on the text that the ones before it have left: what lies to the
left of a landed edit is still as it was, so the offsets of the others stay valid.

* `Lines.offset?` — the offset of a place. Its line has to exist; a column past the end of the line
  counts as the end.
* `Edit.resolve?`, `Edit.resolveAll?` — the stretch of an edit, and those of a batch.
* `Patch.conflicts` — two stretches overlap, or one is an insertion strictly inside the other. Two
  insertions never conflict.
* `Patch.landing`, `Patch.land` — the order in which edits land, and what one of them does.
* `Document.edit?` — the document after a batch, or none when the batch is refused.
-/

namespace Outliner

/-! ## Stretches of the joined text -/

/-- The number of characters of the lines, each with a line feed. -/
def Lines.width : Lines → Nat
  | [] => 0
  | line :: rest => line.length + 1 + width rest

/-- The offset of a place in the joined text. -/
def Lines.offset (lines : Lines) (p : Position) : Nat :=
  width (lines.take p.line) + min p.column (lines.lineAt p.line).length

/-- The offset of a place in the joined text; none when its line does not exist. -/
def Lines.offset? (lines : Lines) (p : Position) : Option Nat :=
  if p.line < lines.length then some (lines.offset p) else none

/-- The lines as one text, with line feeds between them. -/
def Lines.joined (lines : Lines) : Text :=
  List.intercalate ['\n'] lines

/-- The replacement of the characters from offset `start` up to `stop` by the edit with the number
`order` of its batch. -/
structure Patch where
  start : Nat
  stop : Nat
  text : Text
  order : Nat
deriving DecidableEq, Repr

/-- The patch of an edit; none when an end is on no line or the ends are reversed. -/
def Edit.resolve? (lines : Lines) (e : Edit) (order : Nat) : Option Patch := do
  let start ← lines.offset? e.span.start
  let stop ← lines.offset? e.span.stop
  if start ≤ stop then some ⟨start, stop, e.text, order⟩ else none

/-- The patches of a batch; none when one of its edits has none. -/
def Edit.resolveAll? (lines : Lines) (edits : List Edit) : Option (List Patch) :=
  edits.zipIdx.mapM fun (e, order) => e.resolve? lines order

namespace Patch

/-- The patch takes nothing out. -/
def isInsertion (p : Patch) : Bool :=
  p.start == p.stop

/-- The two patches cannot both be made. -/
def conflicts (p q : Patch) : Bool :=
  match p.isInsertion, q.isInsertion with
  | true, true => false
  | true, false => q.start < p.start && p.start < q.stop
  | false, true => p.start < q.start && q.start < p.stop
  | false, false => p.start < q.stop && q.start < p.stop

/-- Which of two patches comes first does not matter to their conflict. -/
theorem conflicts_comm (p q : Patch) : p.conflicts q = q.conflicts p := by
  unfold conflicts
  cases p.isInsertion <;> cases q.isInsertion <;> simp [Bool.and_comm]

/-! ## Landing -/

/-- The order in which patches land: back to front; at one offset first the replacement and then the
insertions, the last one of the batch first. -/
def landsBefore (p q : Patch) : Bool :=
  q.start < p.start || p.start == q.start &&
    (if p.isInsertion == q.isInsertion then q.order ≤ p.order else q.isInsertion)

/-- Put a patch in front of the first one that it lands before. -/
def place (p : Patch) : List Patch → List Patch
  | [] => [p]
  | q :: rest => if p.landsBefore q then p :: q :: rest else q :: place p rest

/-- The patches in the order in which they land. -/
def landing : List Patch → List Patch
  | [] => []
  | p :: rest => place p (landing rest)

/-- The text after a patch has landed. -/
def land (text : Text) (p : Patch) : Text :=
  text.take p.start ++ p.text ++ text.drop p.stop

/-- Placing a patch adds it and nothing else. -/
theorem place_perm (p : Patch) (ps : List Patch) : (place p ps).Perm (p :: ps) := by
  induction ps with
  | nil => exact .refl _
  | cons q rest ih =>
    rw [place]
    split
    · exact .refl _
    · exact (ih.cons q).trans (.swap p q rest)

/-- Ordering keeps every patch. -/
theorem landing_perm (ps : List Patch) : (landing ps).Perm ps := by
  induction ps with
  | nil => exact .refl _
  | cons p rest ih => exact (place_perm p _).trans (ih.cons p)

end Patch

/-- The document after a batch of edits; none when an end of an edit is on no line, an edit runs
backwards, or two edits conflict. -/
def Document.edit? (d : Document) (edits : List Edit) : Option Document := do
  let patches ← Edit.resolveAll? d.lines edits
  if patches.Pairwise fun p q => p.conflicts q = false then
    some (.read d.lineEnd ((Patch.landing patches).foldl Patch.land d.lines.joined))
  else none

end Outliner
