import Outliner.Text.Decimal
import Outliner.Position

/-!
# Outliner — errors

The ways in which a request fails, and their wording.

* `Error` — the library refuses the request, and says so to its caller.
* `Fault` — the library breaks off in the middle of the request, and its caller gets no answer.
-/

namespace Outliner

/-- Why a request was refused. -/
inductive Error where
  /-- A keyword sequence without a word. -/
  | emptyKeywordSequence
  /-- Settings that are not JSON, or hold a value that a setting cannot take. -/
  | malformedSettings
  /-- A cursor outside a buffer of so many lines. -/
  | outOfBounds (cursor : Position) (lineCount : Nat)
  /-- The host did not take the batch. -/
  | batchRejected
deriving DecidableEq, Repr

/-- The wording of an error. -/
def Error.message : Error → Text
  | emptyKeywordSequence => "keyword sequence is empty".toList
  | malformedSettings => "settings are malformed".toList
  | outOfBounds cursor lineCount =>
    "position ".toList ++ Text.ofNat cursor.line ++ [':'] ++ Text.ofNat cursor.column
      ++ " is outside the document (".toList ++ Text.ofNat lineCount ++ " lines)".toList
  | batchRejected => "host rejected the edit batch".toList

/-- Why a request was broken off. -/
inductive Fault where
  /-- The sum of two machine words does not fit in one. -/
  | overflow
deriving DecidableEq, Repr

/-- The wording of a fault. -/
def Fault.message : Fault → Text
  | overflow => "attempt to add with overflow".toList

end Outliner
