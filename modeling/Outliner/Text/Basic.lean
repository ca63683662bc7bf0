import Outliner.Text.Blank
import Outliner.Text.Uppercase

/-!
# Outliner — text

A text is the list of its characters, so that a column is an index into it and a cut at a column is
`take` and `drop`. This module holds the operations that every line grammar uses.

* `trimStart`, `trimEnd`, `trim`, `isBlankLine` — white space at the ends;
* `indent`, `dropIndent` — the spaces and tabs that open a line;
* `words`, `cutAt` — cutting at white space, and at the first occurrence of a separator;
* `upper`, `sameLetters` — full upper case, and equality up to the case of ASCII letters;
* `spaces`, `utf8Length`, `utf8Offset` — runs of spaces, and sizes in bytes.
-/

namespace Outliner

/-- A sequence of characters. -/
abbrev Text := List Char

namespace Text

/-! ## White space at the ends -/

/-- The text from its first non-blank character on. -/
def trimStart (t : Text) : Text :=
  t.dropWhile isBlank

/-- The text up to its last non-blank character. -/
def trimEnd (t : Text) : Text :=
  (t.reverse.dropWhile isBlank).reverse

/-- The text without the white space at its two ends. -/
def trim (t : Text) : Text :=
  trimEnd (trimStart t)

/-- Only white space, or nothing. -/
def isBlankLine (t : Text) : Bool :=
  t.all isBlank

private theorem dropWhile_eq_nil_iff (t : Text) :
    t.dropWhile isBlank = [] ↔ ∀ c ∈ t, isBlank c = true := by
  induction t with
  | nil => simp
  | cons c t ih =>
    rw [List.dropWhile_cons]
    by_cases h : isBlank c = true
    · rw [if_pos h, ih]
      simp [h]
    · simp [h]

/-- White space alone is what trimming leaves nothing of. -/
theorem isBlankLine_iff_trim_eq_nil (t : Text) : t.isBlankLine = true ↔ t.trim = [] := by
  rw [isBlankLine, trim, trimEnd, trimStart, List.reverse_eq_nil_iff, List.all_eq_true,
    dropWhile_eq_nil_iff]
  constructor
  · intro h c hc
    exact h c (List.dropWhile_subset _ (List.mem_reverse.mp hc))
  · intro h
    -- Nothing blank opens what is left at the start, so nothing is left.
    have none : t.dropWhile isBlank = [] := by
      cases hd : t.dropWhile isBlank with
      | nil => rfl
      | cons c r =>
        have := List.head_dropWhile_not isBlank (by rw [hd]; simp)
        simp only [hd, List.head_cons] at this
        rw [hd] at h
        rw [h c (by simp)] at this
        contradiction
    exact (dropWhile_eq_nil_iff t).mp none

/-! ## Indentation -/

/-- The number of spaces and tabs that open the text; each counts as one column. -/
def indent (t : Text) : Nat :=
  (t.takeWhile isSpaceOrTab).length

/-- The text after the spaces and tabs that open it. -/
def dropIndent (t : Text) : Text :=
  t.dropWhile isSpaceOrTab

/-- The text is at its end, or goes on with a space or a tab. -/
def atGap (t : Text) : Bool :=
  t.head?.all isSpaceOrTab

/-- A run of spaces. -/
def spaces (n : Nat) : Text :=
  List.replicate n ' '

/-- The indentation is as long as what is dropped. -/
theorem dropIndent_eq_drop (t : Text) : t.dropIndent = t.drop t.indent := by
  induction t with
  | nil => rfl
  | cons c t ih =>
    by_cases h : isSpaceOrTab c = true
    · simpa [dropIndent, indent, h] using ih
    · simp [dropIndent, indent, h]

/-- A run of spaces in front of text that is not indented is its indentation. -/
theorem indent_spaces_append {n : Nat} {t : Text} (h : t.indent = 0) :
    indent (spaces n ++ t) = n := by
  induction n with
  | zero => simpa [spaces] using h
  | succ n ih =>
    simp only [spaces, indent, List.replicate_succ, List.cons_append] at ih ⊢
    rw [List.takeWhile_cons, if_pos (by decide), List.length_cons, ih]

/-! ## Cutting -/

/-- The maximal stretches without white space, from left to right. -/
def words (t : Text) : List Text :=
  (t.splitOnP isBlank).filter (!·.isEmpty)

/-- The text before the first occurrence of a separator and the text after it. -/
def cutAt : Text → (separator : Text) → Option (Text × Text)
  | [], _ => none
  | c :: t, separator =>
    match separator.isPrefixOf? (c :: t) with
    | some after => some ([], after)
    | none => (cutAt t separator).map fun (before, after) => (c :: before, after)

/-- The first word and what follows it. -/
def firstWord (t : Text) : Text × Text :=
  (t.takeWhile (!isBlank ·), t.dropWhile (!isBlank ·))

/-! ## Letter case -/

/-- The text in upper case. -/
def upper (t : Text) : Text :=
  t.flatMap upperChar

/-- The text with its ASCII letters in upper case. -/
def asciiUpper (t : Text) : Text :=
  t.map Char.toUpper

/-- The two texts are equal up to the case of ASCII letters. -/
def sameLetters (s t : Text) : Bool :=
  asciiUpper s == asciiUpper t

/-! ## Sizes in bytes -/

/-- The number of bytes of the text in UTF-8. -/
def utf8Length : Text → Nat
  | [] => 0
  | c :: t => c.utf8Size + utf8Length t

/-- The number of bytes before a column; past the end, those of the whole text. -/
def utf8Offset (t : Text) (column : Nat) : Nat :=
  utf8Length (t.take column)

end Text

end Outliner
