import Outliner.Batch

/-!
# Outliner — hosts

Whoever shows a buffer decides what becomes of a batch of edits. A host may have no lines at all,
may take batches, or may refuse every one of them.

* `Host.lines`, `Host.text` — what the host shows;
* `Host.edit?` — the host after a batch, or none when it refuses;
* `Host.offer` — whether the host takes a batch, and the host afterwards.
-/

namespace Outliner

/-- The holder of a buffer. -/
inductive Host where
  /-- No buffer: there is no line, and no batch is taken. -/
  | vacant
  /-- A document that takes every batch that fits it. -/
  | editable (document : Document)
  /-- A document that takes no batch. -/
  | readOnly (document : Document)
deriving DecidableEq, Repr

namespace Host

/-- The lines that the host shows. -/
def lines : Host → Lines
  | vacant => []
  | editable d | readOnly d => d.lines

/-- The whole text that the host shows. -/
def text : Host → Text
  | vacant => []
  | editable d | readOnly d => d.text

/-- The host after a batch of edits; none when it refuses. -/
def edit? : Host → List Edit → Option Host
  | editable d, edits => (d.edit? edits).map editable
  | _, _ => none

/-- Offer a batch of edits to the host: whether it takes them, and what it holds afterwards. -/
def offer (h : Host) (edits : List Edit) : Bool × Host :=
  match h.edit? edits with
  | some h => (true, h)
  | none => (false, h)

end Host

end Outliner
