import Outliner.Keyword
import Outliner.Text.Alphanumeric

/-!
# Outliner — headings

A heading line opens with a run of stars, which gives its level, and at least one space or tab. Then
follow, all optional, a keyword, a priority cookie `[#A]`, a title and a group of tags `:a:b:`.

* `Heading.levelOf`, `Heading.isBody` — the level of a line, zero for a line that is no heading;
* `Heading.takeStars?`, `Heading.parse?` — the stars of a heading line, and all its parts;
* `Heading.render` — the line that states given parts.
-/

namespace Outliner

/-- The parts of a heading line. -/
structure Heading where
  level : Nat
  keyword : Option Text := none
  priority : Option Char := none
  title : Text
  tags : List Text := []
deriving DecidableEq, Repr

namespace Heading

/-- The level of a heading line; zero for any other line. -/
def levelOf (line : Text) : Nat :=
  match line.dropWhile (· == '*') with
  | [] => 0
  | c :: _ => if Text.isSpaceOrTab c then (line.takeWhile (· == '*')).length else 0

/-- The line is no heading. -/
def isBody (line : Text) : Bool :=
  levelOf line == 0

/-! ## The parts of a line -/

/-- The keyword that opens the text, with the text after the gap that follows it. A keyword is one
of the given words, and a space, a tab or the end follows it. -/
def takeKeyword (keywords : Keywords) (t : Text) : Option Text × Text :=
  let (word, after) := Text.firstWord t
  if word ≠ [] ∧ keywords.all.contains word ∧ Text.atGap after then (some word, Text.dropIndent after)
  else (none, t)

/-- The priority of the cookie that opens the text, with the text after the gap that follows it. -/
def takePriority (t : Text) : Option Char × Text :=
  match t with
  | '[' :: '#' :: c :: ']' :: after =>
    if c.isAlphanum then (some c, Text.dropIndent after) else (none, t)
  | _ => (none, t)

/-- A character of a tag. -/
def isTagChar (c : Char) : Bool :=
  Text.isAlphanumeric c || c == '_' || c == '@' || c == '#' || c == '%'

/-- The tags of a group `:a:b:`: at least one, none empty. -/
def tagsOf? (word : Text) : Option (List Text) :=
  match word with
  | ':' :: t =>
    let tags := t.dropLast.splitOn ':'
    if t.getLast? = some ':' ∧ tags.all fun tag => !tag.isEmpty && tag.all isTagChar then some tags
    else none
  | _ => none

/-- The title and the tags of the text after the other parts: its last word, as spaces and tabs
divide it, is a tag group or belongs to the title. -/
def takeTags (t : Text) : Text × List Text :=
  let t := t.trimEnd
  let last := (t.reverse.takeWhile (!Text.isSpaceOrTab ·)).reverse
  let front := ((t.reverse.dropWhile (!Text.isSpaceOrTab ·)).drop 1).reverse
  match tagsOf? last with
  | some tags => (Text.trimEnd front, tags)
  | none => (t, [])

/-- The parts of a heading of a given level, from the text after the gap that follows its stars. -/
def ofBody (keywords : Keywords) (level : Nat) (t : Text) : Heading :=
  let k := takeKeyword keywords t
  let p := takePriority k.2
  let g := takeTags p.2
  { level, keyword := k.1, priority := p.1, title := g.1, tags := g.2 }

/-- The number of stars that open the line, and the text after the gap that follows them; none when
there is no star, or no gap. -/
def takeStars? (line : Text) : Option (Nat × Text) :=
  let stars := line.takeWhile (· == '*')
  let after := line.dropWhile (· == '*')
  if stars = [] ∨ Text.indent after = 0 then none else some (stars.length, Text.dropIndent after)

/-- Read a heading line. -/
def parse? (keywords : Keywords) (line : Text) : Option Heading :=
  (takeStars? line).map fun (level, t) => ofBody keywords level t

/-- The stars that are read are those that the level counts. -/
theorem takeStars?_eq (line : Text) :
    takeStars? line =
      if levelOf line = 0 then none
      else some (levelOf line, Text.dropIndent (line.drop (levelOf line))) := by
  have hDrop : line.drop (line.takeWhile (· == '*')).length = line.dropWhile (· == '*') := by
    induction line with
    | nil => rfl
    | cons c line ih =>
      by_cases hc : c = '*'
      · simpa [hc] using ih
      · simp [hc]
  rw [takeStars?, levelOf]
  cases hRest : line.dropWhile (· == '*') with
  | nil => simp [Text.indent]
  | cons c t =>
    cases hStars : line.takeWhile (· == '*') with
    | nil => simp
    | cons a stars =>
      -- The stars are followed by a gap exactly if a space or a tab is next.
      rw [hStars, hRest, List.length_cons] at hDrop
      by_cases hc : Text.isSpaceOrTab c = true
      · simp [Text.indent, hc, hDrop]
      · simp [Text.indent, hc]

/-- A line with a level is read from what follows its stars and the gap, any other line is not. -/
theorem parse?_eq_ite (keywords : Keywords) (line : Text) :
    parse? keywords line =
      if levelOf line = 0 then none
      else some (ofBody keywords (levelOf line) (Text.dropIndent (line.drop (levelOf line)))) := by
  rw [parse?, takeStars?_eq]
  split <;> rfl

/-- Exactly the lines with a level are headings, whatever the keywords. -/
theorem isSome_parse?_iff (keywords : Keywords) (line : Text) :
    (parse? keywords line).isSome = true ↔ 0 < levelOf line := by
  by_cases h : levelOf line = 0
  · simp [parse?_eq_ite, h]
  · simp [parse?_eq_ite, h, Nat.pos_of_ne_zero h]

/-- The level that is read is the level of the line. -/
theorem level_of_parse? {keywords : Keywords} {line : Text} {h : Heading}
    (hp : parse? keywords line = some h) : h.level = levelOf line := by
  by_cases h0 : levelOf line = 0
  · simp [parse?_eq_ite, h0] at hp
  · simp only [parse?_eq_ite, h0, if_false, Option.some.injEq] at hp
    rw [← hp, ofBody]

/-! ## The line of given parts -/

/-- A tag group in writing. -/
def renderTags (tags : List Text) : Text :=
  ':' :: List.intercalate [':'] tags ++ [':']

/-- The parts that are there, in writing. -/
def parts (h : Heading) : List Text :=
  h.keyword.toList
    ++ (h.priority.map fun c => ['[', '#', c, ']']).toList
    ++ (if h.title.isEmpty then [] else [h.title])
    ++ (if h.tags.isEmpty then [] else [renderTags h.tags])

/-- The line of a heading, with one space between its parts. -/
def render (h : Heading) : Text :=
  List.replicate (max h.level 1) '*' ++ ' ' :: List.intercalate [' '] h.parts

/-- A heading with a title and nothing else. -/
def plain (level : Nat) (title : Text) : Heading :=
  { level, title }

end Heading

end Outliner
