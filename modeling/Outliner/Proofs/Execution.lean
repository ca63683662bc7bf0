import Outliner.Proofs.Plan.Handlers
import Outliner.Session

/-!
# Outliner — running a command

A command on a document is refused in one case only: when its place is not inside the document. Any
other command is planned, the plan has a shape, and so the document takes its batch.

* `Plan.outcome`, `Plan.applied` — what a plan leaves to the host, and the document after it.
* `Outcome.cursorFrom` — where the cursor is after a command.
* `Shift.command` — the command that moves a subtree or an item.

Main results:

* `execute_eq_ok` — inside the document every command runs, and does what its plan says.
* `execute_eq_ok_of_edit?`, `exists_execute_ofEdits` — commands that edit in place.
* `exists_execute_eq`, `exists_execute_newLine` — commands that put in a line.
* `execute_editable` — refusals: when, with which error, and that no batch is the reason.
-/

namespace Outliner

/-- Where the cursor is after a command that was given at `p`. -/
def Outcome.cursorFrom (p : Position) : Outcome → Position
  | .cursor q => q
  | .fold _ | .unchanged => p

/-- The command that moves the subtree of a heading, or an item. -/
def Shift.command : Shift → Command
  | outward => .promote
  | inward => .demote

namespace Plan

/-- What a plan leaves for the host to do. -/
def outcome : Plan → Outcome
  | .apply _ cursor => .cursor cursor
  | .fold lines => .fold lines
  | .unchanged => .unchanged

/-- The document after a plan whose batch it takes. Without edits it stays as it is. -/
def applied (d : Document) : Plan → Document
  | .apply [] _ | .fold _ | .unchanged => d
  | .apply edits _ => Batch.result d edits

end Plan

variable {config : Config} {d : Document} {p : Position} {command : Command}

/-- A command on a heading line has one handler. -/
theorem Plan.ofCommand_of_levelOf_pos (config : Config) {lines : Lines} (hp : lines.Inside p)
    (h : 0 < Heading.levelOf (lines.lineAt p.line)) (command : Command) :
    Plan.ofCommand config lines p command =
      Plan.onHeading config lines p p.line (Heading.levelOf (lines.lineAt p.line)) command := by
  obtain ⟨heading, hContext, hLevel⟩ := Context.exists_classify_eq_heading config h
  rw [Plan.ofCommand, hp.clamp_eq, hContext, Plan.inContext, hLevel]

/-- In a document a place is in bounds when it is inside. -/
theorem Document.inBounds_iff (d : Document) (p : Position) :
    d.lines.inBounds p = true ↔ d.lines.Inside p := by
  have hPos : 1 ≤ d.lines.length := List.length_pos_iff.mpr d.lines_ne_nil
  rw [Lines.inBounds, Nat.max_eq_left hPos, Bool.and_eq_true, decide_eq_true_eq,
    decide_eq_true_eq]
  exact ⟨fun h => ⟨h.1, h.2⟩, fun h => ⟨h.line_lt, h.column_le⟩⟩

/-- The batch of every plan for a document fits it. -/
theorem Document.fits_of_plan {edits : List Edit} {cursor : Position}
    (h : Plan.ofCommand config d.lines p command = .apply edits cursor) :
    Batch.Fits d.lines edits := by
  have hShape := Plan.shape_ofCommand config d.lines_ne_nil p command
  rw [h] at hShape
  exact hShape.fits d.lines_ne_nil (Lines.inside_clamp d.lines_ne_nil p)

/-- **Inside the document every command runs,** and does what its plan says. -/
theorem execute_eq_ok (hp : d.lines.Inside p) :
    execute config (.editable d) p command =
      .ok ((Plan.ofCommand config d.lines p command).outcome,
        .editable ((Plan.ofCommand config d.lines p command).applied d)) := by
  have hBounds : (Host.editable d).lines.inBounds p = true := (d.inBounds_iff p).mpr hp
  have hLines : (Host.editable d).lines = d.lines := rfl
  rw [execute, hBounds, hLines]
  cases hPlan : Plan.ofCommand config d.lines p command with
  | apply edits cursor =>
    -- A plan without edits is not offered to the host at all.
    cases edits with
    | nil => rfl
    | cons e rest =>
      have hEdit : (Host.editable d).edit? (e :: rest) =
          some (.editable (Batch.result d (e :: rest))) := by
        rw [Host.edit?, Document.edit?_eq, if_pos (d.fits_of_plan hPlan)]
        rfl
      simp only [hEdit]
      rfl
  | fold lines => rfl
  | unchanged => rfl

/-- A plan that edits the document is carried out. -/
theorem exists_execute_eq_of_apply {edits : List Edit} {cursor : Position} (hp : d.lines.Inside p)
    (hPlan : Plan.ofCommand config d.lines p command = .apply edits cursor) :
    ∃ d', execute config (.editable d) p command = .ok (.cursor cursor, .editable d') :=
  ⟨_, by rw [execute_eq_ok hp, hPlan]; rfl⟩

/-- Edits in place that the document takes leave the cursor with its text. -/
theorem execute_eq_ok_of_edit? {d' : Document} {edits : List Edit} (hp : d.lines.Inside p)
    (hPlan : Plan.ofCommand config d.lines p command = .ofEdits edits p) (hEdits : edits ≠ [])
    (hEdit : d.edit? edits = some d') :
    execute config (.editable d) p command =
      .ok (.cursor (mapCursor edits p), .editable d') := by
  have hResult : Batch.result d edits = d' := by
    rw [Document.edit?_eq] at hEdit
    split at hEdit
    · exact Option.some.inj hEdit
    · contradiction
  obtain ⟨e, rest, rfl⟩ := List.exists_cons_of_ne_nil hEdits
  rw [execute_eq_ok hp, hPlan, ← hResult]
  rfl

/-- **Edits in place,** if there are any: each line is rewritten, and the cursor follows its text. -/
theorem exists_execute_ofEdits {edits : List Edit} (hp : d.lines.Inside p)
    (hLines : d.lines.Unbroken)
    (hPlan : Plan.ofCommand config d.lines p command = .ofEdits edits p)
    (hInPlace : Batch.InPlace d.lines edits) (hTexts : Batch.Unbroken edits) :
    ∃ o d', execute config (.editable d) p command = .ok (o, .editable d') ∧
      o.cursorFrom p = mapCursor edits p ∧ d'.lines = Batch.rewrite edits d.lines ∧
      d'.lineEnd = d.lineEnd := by
  cases edits with
  | nil =>
    -- Without edits nothing is asked for, and nothing is rewritten.
    refine ⟨.unchanged, d, by rw [execute_eq_ok hp, hPlan]; rfl, ?_, (Batch.rewrite_nil _).symm, rfl⟩
    show p = mapCursor [] p
    rw [mapCursor]
    show p = ⟨p.line, ((p.column : Int) + 0).toNat⟩
    rw [Int.add_zero, Int.toNat_natCast]
  | cons e rest =>
    obtain ⟨d', hEdit, hRewrite, hEnd⟩ := hInPlace.exists_edit?_eq hLines hTexts
    exact ⟨_, d', execute_eq_ok_of_edit? hp hPlan (List.cons_ne_nil e rest) hEdit, rfl, hRewrite,
      hEnd⟩

/-- **A new line.** A command that puts in one line, beside edits of other text. -/
theorem exists_execute_eq {edits : List Edit} {line : Text} {cursor : Position} {q : Nat}
    (hp : d.lines.Inside p) (hLines : d.lines.Unbroken)
    (hPlan : Plan.ofCommand config d.lines p command =
      .apply (edits ++ [d.lines.insertion q [line]]) cursor)
    (hBeside : Batch.Beside d.lines edits) (hTexts : Batch.Unbroken edits)
    (hLine : line.Unbroken) :
    ∃ d', execute config (.editable d) p command = .ok (.cursor cursor, .editable d') ∧
      d'.lines = (Batch.rewrite edits d.lines).take q ++ [line] ++
        (Batch.rewrite edits d.lines).drop q := by
  have hNew : Lines.Unbroken [line] := by
    intro l hl
    rw [List.mem_singleton.mp hl]
    exact hLine
  -- A batch with a line to put in is not empty, so it is handed to the host.
  have hApplied : ∀ (e : Edit) (es : List Edit),
      (Plan.apply (es ++ [e]) cursor).applied d = Batch.result d (es ++ [e]) := by
    intro e es
    cases es <;> rfl
  refine ⟨Batch.result d (edits ++ [d.lines.insertion q [line]]), ?_,
    Batch.result_lines_insertion hLines hBeside.onLine hTexts hBeside.idle hNew (by simp) q⟩
  rw [execute_eq_ok hp, hPlan, hApplied]
  rfl

/-- **The document and the cursor** after a command that puts in one line, beside edits of other
text. -/
theorem exists_execute_newLine {edits : List Edit} {line : Text} {q column : Nat}
    (hp : d.lines.Inside p) (hLines : d.lines.Unbroken)
    (hPlan : Plan.ofCommand config d.lines p command =
      .apply (edits ++ [d.lines.insertion q [line]]) ⟨q, column⟩)
    (hBeside : Batch.Beside d.lines edits) (hTexts : Batch.Unbroken edits)
    (hLine : line.Unbroken) (hq : q ≤ d.lines.length) (hColumn : column ≤ line.length) :
    ∃ d', execute config (.editable d) p command = .ok (.cursor ⟨q, column⟩, .editable d') ∧
      d'.lines.Inside ⟨q, column⟩ ∧ d'.lines.lineAt q = line := by
  obtain ⟨d', hExecute, hResult⟩ := exists_execute_eq hp hLines hPlan hBeside hTexts hLine
  have hAt : d'.lines.lineAt q = line := by
    rw [hResult, Lines.lineAt_putIn (by rwa [Batch.length_rewrite])]
  refine ⟨d', hExecute, ⟨?_, by rwa [hAt]⟩, hAt⟩
  have hLength : d'.lines.length = d.lines.length + 1 := by
    simp only [hResult, List.length_append, List.length_take, List.length_drop,
      List.length_singleton, Batch.length_rewrite]
    omega
  show q < d'.lines.length
  omega

/-- The same without other edits. -/
theorem exists_execute_newLine_alone {line : Text} {q column : Nat} (hp : d.lines.Inside p)
    (hLines : d.lines.Unbroken)
    (hPlan : Plan.ofCommand config d.lines p command =
      .apply [d.lines.insertion q [line]] ⟨q, column⟩)
    (hLine : line.Unbroken) (hq : q ≤ d.lines.length) (hColumn : column ≤ line.length) :
    ∃ d', execute config (.editable d) p command = .ok (.cursor ⟨q, column⟩, .editable d') ∧
      d'.lines.Inside ⟨q, column⟩ ∧ d'.lines.lineAt q = line := by
  have hAlone : Plan.ofCommand config d.lines p command =
      .apply ([] ++ [d.lines.insertion q [line]]) ⟨q, column⟩ := hPlan
  exact exists_execute_newLine hp hLines hAlone ⟨by simp, .nil, by simp⟩ (by simp [Batch.Unbroken])
    hLine hq hColumn

theorem execute_eq_error (hp : ¬d.lines.Inside p) :
    execute config (.editable d) p command = .error (.outOfBounds p d.lines.length) := by
  have hBounds : (Host.editable d).lines.inBounds p = false := by
    rw [← Bool.not_eq_true]
    exact fun h => hp ((d.inBounds_iff p).mp h)
  rw [execute, hBounds]
  rfl

/-- **Refusals.** A command on a document is refused exactly when its place is on no line or past the
end of its line. The error says so, and the session keeps its buffer. No plan asks for a batch that
the document would not take. -/
theorem execute_editable (config : Config) (d : Document) (p : Position) (command : Command) :
    ((∃ e, execute config (.editable d) p command = .error e) ↔
        d.lines.length ≤ p.line ∨ (d.lines.lineAt p.line).length < p.column) ∧
      (∀ e, execute config (.editable d) p command = .error e →
        e = .outOfBounds p d.lines.length ∧
          ∀ (s : Session) (place : Session.Place), s.config = config → s.host = .editable d →
            s.locate place = p → s.runCommand command place = (.refused e, { s with cursor := p })) ∧
      (∀ edits cursor, Plan.ofCommand config d.lines p command = .apply edits cursor →
        Batch.Fits d.lines edits) := by
  have hOutside : (d.lines.length ≤ p.line ∨ (d.lines.lineAt p.line).length < p.column) ↔
      ¬d.lines.Inside p := by
    constructor
    · rintro (h | h) hp
      · exact absurd hp.line_lt (Nat.not_lt.mpr h)
      · exact absurd hp.column_le (Nat.not_le.mpr h)
    · intro hp
      by_contra hNot
      obtain ⟨hLine, hColumn⟩ := not_or.mp hNot
      exact hp ⟨Nat.lt_of_not_le hLine, Nat.le_of_not_lt hColumn⟩
  -- Inside the document every command runs, so an error always comes from the check of bounds.
  refine ⟨?_, ?_, fun edits cursor h => d.fits_of_plan h⟩
  · rw [hOutside]
    constructor
    · rintro ⟨e, he⟩ hp
      rw [execute_eq_ok hp] at he
      contradiction
    · intro hp
      exact ⟨_, execute_eq_error hp⟩
  · intro e he
    by_cases hp : d.lines.Inside p
    · rw [execute_eq_ok hp] at he
      contradiction
    · rw [execute_eq_error hp] at he
      injection he with he
      subst he
      refine ⟨rfl, ?_⟩
      intro s place hConfig hHost hPlace
      rw [Session.runCommand, hConfig, hHost, hPlace, execute_eq_error hp]

end Outliner
