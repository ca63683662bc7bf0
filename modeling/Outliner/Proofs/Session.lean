import Outliner.Proofs.Execution
import Outliner.Proofs.Keyword

/-!
# Outliner — sessions of commands

A user gives one command after the other, each where the one before has left the cursor. As long as
the buffer came in without carriage returns, and its keywords from a sequence, nothing ever goes
wrong: no command is refused, the cursor stays inside the document, and no line is ever broken.

* `Session.Sound` — the invariant: a document of unbroken lines, with the cursor inside.
* `Session.after` — a session after a list of commands.

Main results:

* `Session.Sound.step` — a command keeps the invariant.
* `Session.commands_never_refused` — what holds after any number of commands.
-/

namespace Outliner

/-! ## The invariant -/

namespace Session

/-- The session shows a document of unbroken lines with the cursor inside, and its keywords are
unbroken. -/
structure Sound (s : Session) (d : Document) : Prop where
  host : s.host = .editable d
  clean : Clean s.config d.lines
  cursor : d.lines.Inside s.cursor

/-- The fold that an outcome asks for is more than one line of the document. -/
def FoldsWithin (d : Document) : Outcome → Prop
  | .fold lines => lines.first < lines.last ∧ lines.last < d.lines.length
  | _ => True

/-- A shaped plan keeps the document clean, and leaves the cursor inside. -/
theorem clean_applied {config : Config} {d : Document} {p : Position} {plan : Plan}
    (hp : d.lines.Inside p) (hClean : Clean config d.lines)
    (h : Plan.Shape config d.lines p plan) :
    Clean config (plan.applied d).lines ∧ FoldsWithin d plan.outcome ∧
      (plan.applied d).lines.Inside (match plan.outcome with
        | .cursor q => q
        | _ => p) := by
  cases plan with
  | apply edits q =>
    cases edits with
    | nil => exact ⟨hClean, trivial, h.inside_of_nil⟩
    | cons e rest =>
      obtain ⟨hUnbroken, hInside⟩ := h.result hp hClean (by simp)
      exact ⟨⟨hClean.keywords, hUnbroken⟩, trivial, hInside⟩
  | fold lines =>
    cases h with
    | fold hProper hLast => exact ⟨hClean, ⟨hProper, hLast⟩, hp⟩
  | unchanged => exact ⟨hClean, trivial, hp⟩

/-- **A command keeps the invariant.** It is answered with an outcome, and a fold is more than one
line of the document. -/
theorem Sound.step {s : Session} {d : Document} (h : Sound s d) (command : Command) :
    ∃ (d' : Document) (outcome : Outcome), (s.step (.run command {})).1 = .outcome outcome ∧
      FoldsWithin d outcome ∧ Sound (s.step (.run command {})).2 d' := by
  -- The cursor is inside, so the plan is made for its own place and the command runs.
  have hShape := Plan.shape_ofCommand s.config d.lines_ne_nil s.cursor command
  rw [h.cursor.clamp_eq] at hShape
  obtain ⟨hClean, hFold, hInside⟩ := clean_applied h.cursor h.clean hShape
  have hPlace : s.locate {} = s.cursor := rfl
  have hRun : execute s.config (.editable d) s.cursor command = _ := execute_eq_ok h.cursor
  refine ⟨(Plan.ofCommand s.config d.lines s.cursor command).applied d, _, ?_, hFold, ?_⟩
  · rw [Session.step, runCommand, h.host, hPlace, hRun]
    cases Plan.ofCommand s.config d.lines s.cursor command <;> rfl
  · rw [Session.step, runCommand, h.host, hPlace, hRun]
    revert hClean hInside
    cases Plan.ofCommand s.config d.lines s.cursor command with
    | apply edits q => exact fun hClean hInside => ⟨rfl, hClean, hInside⟩
    | fold lines => exact fun hClean hInside => ⟨rfl, hClean, hInside⟩
    | unchanged => exact fun hClean hInside => ⟨rfl, hClean, hInside⟩

/-! ## Runs of commands -/

/-- The session after a list of commands, each given where the one before has left the cursor. -/
def after (s : Session) : List Command → Session
  | [] => s
  | command :: rest => (s.step (.run command {})).2.after rest

theorem Sound.after {s : Session} {d : Document} (h : Sound s d) (commands : List Command) :
    ∃ d', Sound (s.after commands) d' := by
  -- On the list, from its first command on: the invariant holds where the rest starts.
  induction commands generalizing s d with
  | nil => exact ⟨d, h⟩
  | cons command rest ih =>
    obtain ⟨d', -, -, -, hStep⟩ := h.step command
    exact ih hStep

/-- **No command is ever refused.** Let a document come in without carriage returns, the keywords
from a sequence, and the cursor inside. After any commands, each given where the one before has left
the cursor, the session still shows a document, of which no line holds a character of a line end, the
cursor is inside it, and the next command is answered with an outcome. A fold is more than one line
of the document. -/
theorem commands_never_refused {s : Session} {d : Document} {sequence : Text}
    (hHost : s.host = .editable d) (hReturn : ∀ l ∈ d.lines, '\r' ∉ l)
    (hKeywords : Keywords.parse sequence = .ok s.config.keywords)
    (hLine : s.cursor.line < d.lines.length)
    (hColumn : s.cursor.column ≤ (d.lines.lineAt s.cursor.line).length)
    (commands : List Command) :
    ∃ d' : Document, (s.after commands).host = .editable d' ∧
      (∀ l ∈ d'.lines, '\n' ∉ l ∧ '\r' ∉ l) ∧
      (s.after commands).cursor.line < d'.lines.length ∧
      (s.after commands).cursor.column ≤
        (d'.lines.lineAt (s.after commands).cursor.line).length ∧
      ∀ command, ∃ outcome, ((s.after commands).step (.run command {})).1 = .outcome outcome ∧
        ∀ span, outcome = .fold span → span.first < span.last ∧ span.last < d'.lines.length := by
  -- That no line holds a line feed is part of what a document is.
  have hStart : Sound s d :=
    ⟨hHost, ⟨Keywords.unbroken_of_parse hKeywords, fun l hl => ⟨d.feed_not_mem l hl, hReturn l hl⟩⟩,
      ⟨hLine, hColumn⟩⟩
  obtain ⟨d', h⟩ := hStart.after commands
  refine ⟨d', h.host, h.clean.lines, h.cursor.line_lt, h.cursor.column_le, ?_⟩
  intro command
  obtain ⟨-, outcome, hAnswer, hFold, -⟩ := h.step command
  refine ⟨outcome, hAnswer, ?_⟩
  rintro span rfl
  exact hFold

/-- A numbered item under a heading, with the cursor in the text of the item. -/
private def numberedItem : Session where
  host := .editable (.ofText "* TODO a\n1. bc\n".toList)
  config := {}
  cursor := ⟨1, 4⟩
  ids := { name := fun _ => [] }

/-- The item is split, its successor is moved inward, and the heading is marked as done. -/
theorem commands_never_refused_numberedItem :
    ∃ d' : Document, (numberedItem.after [.split, .demote, .cycleKeyword]).host = .editable d' ∧
      (∀ l ∈ d'.lines, '\n' ∉ l ∧ '\r' ∉ l) ∧
      (numberedItem.after [.split, .demote, .cycleKeyword]).cursor.line < d'.lines.length ∧
      (numberedItem.after [.split, .demote, .cycleKeyword]).cursor.column ≤
        (d'.lines.lineAt
          (numberedItem.after [.split, .demote, .cycleKeyword]).cursor.line).length ∧
      ∀ command, ∃ outcome,
        ((numberedItem.after [.split, .demote, .cycleKeyword]).step (.run command {})).1 =
          .outcome outcome ∧
        ∀ span, outcome = .fold span → span.first < span.last ∧ span.last < d'.lines.length :=
  commands_never_refused (d := .ofText "* TODO a\n1. bc\n".toList) rfl (by decide)
    (by decide : Keywords.parse "TODO | DONE".toList = .ok numberedItem.config.keywords)
    (by decide) (by decide) [.split, .demote, .cycleKeyword]

end Session

end Outliner
