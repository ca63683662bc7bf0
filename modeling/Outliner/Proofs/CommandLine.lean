import Outliner.CommandLine.Run
import Outliner.Proofs.Execution
import Outliner.Proofs.LineEnd
import Outliner.Text.Encoding

/-!
# Outliner — what a run leaves in the files

A command that is run in place writes the file back when there is a new cursor, whether or not there
were edits. What is written is the text of the document; so a move of the cursor alone leaves the
file as it was only if the text is written as it was read.

* `Files`, `Files.reader`, `Files.deliver` — files as bytes, before and after an answer.
* `Plan.edits` — the edits that a plan asks for.

Main results:

* `Invocation.exists_of_run_edit` — what a run finds out before the command.
* `file_kept_iff` — when a run without edits leaves its file as it was.
-/

namespace Outliner

/-- The edits that a plan asks for. -/
def Plan.edits : Plan → List Edit
  | apply edits _ => edits
  | fold _ | unchanged => []

namespace CommandLine

/-! ## Files -/

/-- The bytes of the files, by their names. -/
abbrev Files := Text → Option ByteArray

namespace Files

/-- Reading a file: its bytes hold a text, or there is none. -/
def reader (files : Files) : Reader :=
  fun path => (files path).bind Text.decode?

/-- The files after the answer is given. -/
def deliver (files : Files) (answer : Answer) : Files :=
  match answer.write with
  | none => files
  | some (path, t) => fun name => if name = path then some t.encode else files name

/-- A single file with a text. -/
def single (path t : Text) : Files :=
  fun name => if name = path then some t.encode else none

theorem reader_single (path t : Text) :
    (single path t).reader = fun name => if name = path then some t else none := by
  funext name
  rw [reader, single]
  split
  · exact Text.decode?_encode t
  · rfl

variable {files : Files} {path : Text} {t : Text} {answer : Answer}

theorem eq_encode_of_reader (h : files.reader path = some t) : files path = some t.encode := by
  obtain ⟨bytes, hBytes, hText⟩ := Option.bind_eq_some_iff.mp h
  rw [hBytes, Text.encode_of_decode? hText]

theorem deliver_of_write_eq_none (h : answer.write = none) : files.deliver answer = files := by
  rw [deliver, h]

/-- A file that is written is as it was when its text is. -/
theorem deliver_eq_self_iff {t' : Text} (hText : files.reader path = some t)
    (hWrite : answer.write = some (path, t')) : files.deliver answer path = files path ↔ t' = t := by
  have hDeliver : files.deliver answer path = some t'.encode := by
    rw [deliver, hWrite]
    exact if_pos rfl
  rw [hDeliver, eq_encode_of_reader hText, Option.some.injEq]
  constructor
  · intro h
    have hDecode := congrArg Text.decode? h
    rw [Text.decode?_encode, Text.decode?_encode] at hDecode
    exact Option.some.inj hDecode
  · rintro rfl
    rfl

end Files

/-! ## Running a command -/

variable {i : Invocation} {read : Reader} {ids : IdSupply} {answer : Answer} {path : Text}
  {line column : Nat} {command : Command} {inPlace : Bool} {config : Config} {d : Document}
  {p : Position}

/-- What comes out of two steps has come out of the first and then of the second. -/
private theorem exists_of_bind_eq_ok {ε α β : Type} {x : Except ε α} {f : α → Except ε β} {b : β}
    (h : x >>= f = .ok b) : ∃ a, x = .ok a ∧ f a = .ok b := by
  cases x with
  | error e => contradiction
  | ok a => exact ⟨a, rfl, h⟩

/-- A run that answers has read the file, has its settings and knows the place; then the command is
run there. -/
theorem Invocation.exists_of_run_edit (hRequest : i.request = .edit path line column command inPlace)
    (hRun : i.run read ids = .ok answer) :
    ∃ t config p, read path = some t ∧ i.settings read (.ofText t) = .ok config ∧
      cursorAt (.ofText t) line column = .ok p ∧
      runCommand config (.ofText t) path p command inPlace = .ok answer := by
  rw [Invocation.run, hRequest] at hRun
  obtain ⟨d, hLoad, hRun⟩ := exists_of_bind_eq_ok hRun
  obtain ⟨config, hConfig, hRun⟩ := exists_of_bind_eq_ok hRun
  obtain ⟨p, hCursor, hRun⟩ := exists_of_bind_eq_ok hRun
  rw [load] at hLoad
  split at hLoad
  · next t hText =>
    obtain rfl := Except.ok.inj hLoad
    exact ⟨t, config, p, hText, hConfig, hCursor, hRun⟩
  · contradiction

/-- In place, a plan without edits has the file written when it moves the cursor, with the text of
the document as it was. -/
theorem write_of_edits_eq_nil (hPlan : (Plan.ofCommand config d.lines p command).edits = [])
    (hRun : runCommand config d path p command true = .ok answer) :
    (∃ cursor, Plan.ofCommand config d.lines p command = .apply [] cursor) ∧
        answer.write = some (path, d.text) ∨
      (¬∃ cursor, Plan.ofCommand config d.lines p command = .apply [] cursor) ∧
        answer.write = none := by
  have hInside : d.lines.Inside p := by
    by_contra hOutside
    rw [runCommand, execute_eq_error hOutside] at hRun
    contradiction
  rw [runCommand, execute_eq_ok hInside] at hRun
  -- Only a new cursor has the file written, and without edits the document is the one that was read.
  cases hCase : Plan.ofCommand config d.lines p command with
  | apply edits cursor =>
    rw [hCase] at hPlan hRun
    obtain rfl : edits = [] := hPlan
    obtain rfl := Except.ok.inj hRun
    exact Or.inl ⟨⟨cursor, rfl⟩, rfl⟩
  | fold lines =>
    rw [hCase] at hRun
    obtain rfl := Except.ok.inj hRun
    exact Or.inr ⟨by simp, rfl⟩
  | unchanged =>
    rw [hCase] at hRun
    obtain rfl := Except.ok.inj hRun
    exact Or.inr ⟨by simp, rfl⟩

/-- **Runs without edits.** A command that is run in place, and that plans no edits for the text of
its file, leaves the file as it was, unless it moves the cursor and the text does not have one line
end throughout. -/
theorem file_kept_iff {files : Files} (hRequest : i.request = .edit path line column command true)
    (hRun : i.run files.reader ids = .ok answer) :
    ∃ t config p, files.reader path = some t ∧ i.settings files.reader (.ofText t) = .ok config ∧
      cursorAt (.ofText t) line column = .ok p ∧
      ((Plan.ofCommand config (Document.ofText t).lines p command).edits = [] →
        (files.deliver answer path = files path ↔
          ((∃ cursor, Plan.ofCommand config (Document.ofText t).lines p command =
            .apply [] cursor) → (LineEnd.ofText t).Throughout t))) := by
  obtain ⟨t, config, p, hText, hConfig, hCursor, hCommand⟩ :=
    Invocation.exists_of_run_edit hRequest hRun
  refine ⟨t, config, p, hText, hConfig, hCursor, fun hPlan => ?_⟩
  -- A file that is written is kept if its text is, and one that is not written is kept.
  rcases write_of_edits_eq_nil hPlan hCommand with ⟨hMove, hWrite⟩ | ⟨hStay, hWrite⟩
  · rw [Files.deliver_eq_self_iff hText hWrite]
    exact (Document.text_read_iff (.ofText t) t).trans ⟨fun h _ => h, fun h => h hMove⟩
  · rw [Files.deliver_of_write_eq_none hWrite]
    exact iff_of_true rfl fun h => absurd h hStay

/-- The cursor moves to the next cell. Both lines have the same end, so the file is kept. -/
theorem file_kept_iff_returnFeed :
    let path := "t.org".toList
    let t := "| a | b |\r\n| c | d |".toList
    let i : Invocation := { request := .edit path 1 3 .nextCell true }
    ∃ answer, i.run (Files.single path t).reader { name := fun _ => [] } = .ok answer ∧
      answer.output = "cursor 1:7".toList ∧
      (Files.single path t).deliver answer path = Files.single path t path := by
  intro path t i
  have hRun : i.run (Files.single path t).reader { name := fun _ => [] } =
      .ok { output := "cursor 1:7".toList, write := some (path, t) } := by
    rw [Files.reader_single]
    decide
  obtain ⟨t', config, p, hText, hConfig, hCursor, hKept⟩ := file_kept_iff rfl hRun
  rw [Files.reader_single] at hText hConfig
  obtain rfl : t = t' := Option.some.inj hText
  obtain rfl : {} = config := Except.ok.inj hConfig
  obtain rfl : ⟨0, 2⟩ = p := Except.ok.inj hCursor
  have hEdits : (Plan.ofCommand {} (Document.ofText t).lines ⟨0, 2⟩ .nextCell).edits = [] := by
    decide
  exact ⟨_, hRun, rfl, (hKept hEdits).mpr fun _ => ⟨by decide, by decide⟩⟩

/-- Here the second line has the other end. The same move of the cursor, which plans no edits, has the
file written with one end for both. -/
theorem file_rewritten_by_move :
    let path := "t.org".toList
    let t := "| a | b |\r\n| c | d |\n".toList
    let i : Invocation := { request := .edit path 1 3 .nextCell true }
    ∃ answer, i.run (Files.single path t).reader { name := fun _ => [] } = .ok answer ∧
      Plan.ofCommand {} (Document.ofText t).lines ⟨0, 2⟩ .nextCell = .apply [] ⟨0, 6⟩ ∧
      answer.write = some (path, "| a | b |\r\n| c | d |\r\n".toList) ∧
      (Files.single path t).deliver answer path ≠ Files.single path t path := by
  intro path t i
  have hText : (Files.single path t).reader path = some t := by
    rw [Files.reader_single]
    rfl
  refine ⟨⟨"cursor 1:7".toList, [], some (path, "| a | b |\r\n| c | d |\r\n".toList)⟩, ?_,
    by decide, rfl, ?_⟩
  · rw [Files.reader_single]
    decide
  · rw [Ne, Files.deliver_eq_self_iff hText rfl]
    decide

end CommandLine

end Outliner
