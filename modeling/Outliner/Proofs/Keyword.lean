import Outliner.Keyword
import Outliner.Proofs.Batch.Unbroken
import Outliner.Proofs.Text.Cut

/-!
# Outliner — the words of a keyword sequence

The words that state where a heading stands come from cutting a sequence at its white space, so none
of them holds any, and a heading line that shows one is not broken by it. Where no word is written
twice, the cycle passes through all of them once, in their order.

* `Keywords.Words` — every state is a word.
* `Keywords.listed` — the words of a sequence, with their shortcut keys.

Main results:

* `all_of_parse` — the keywords of a sequence.
* `solid_of_parse`, `unbroken_of_parse` — they hold no white space.
* `next?_none`, `next?_of_getElem?` — the cycle, step by step.
-/

namespace Outliner

/-- A text without white space is unbroken. -/
theorem Text.unbroken_of_solid {t : Text} (h : ∀ c ∈ t, isBlank c = false) : t.Unbroken :=
  ⟨fun hc => absurd (h _ hc) (by decide), fun hc => absurd (h _ hc) (by decide)⟩

namespace Keywords

variable {k : Keywords} {word : Text} {i : Nat}

/-! ## Words -/

/-- The states are words: none is empty, and none holds white space. -/
structure Words (k : Keywords) : Prop where
  ne_nil : ∀ word ∈ k.all, word ≠ []
  solid : ∀ word ∈ k.all, ∀ c ∈ word, Text.isBlank c = false

/-- The words of a sequence, with their shortcut keys. -/
def listed (sequence : Text) : List Text :=
  match sequence.cutAt ['|'] with
  | some (active, done) => active.words ++ done.words
  | none => sequence.words

theorem spec_of_mem_listed {sequence : Text} (h : word ∈ listed sequence) :
    word ≠ [] ∧ ∀ c ∈ word, Text.isBlank c = false := by
  have hSide : ∃ side : Text, word ∈ side.words := by
    rw [listed] at h
    split at h
    · rcases List.mem_append.mp h with h | h
      · exact ⟨_, h⟩
      · exact ⟨_, h⟩
    · exact ⟨_, h⟩
  obtain ⟨side, hWord⟩ := hSide
  have hSpec := Text.spec_of_mem_words hWord
  exact ⟨hSpec.1, fun c hc => (hSpec.2 c hc).2⟩

/-- **The keywords of a sequence** are its words without their shortcut keys, and there is at least
one. -/
theorem all_of_parse {sequence : Text} (h : parse sequence = .ok k) :
    k.all = (listed sequence).map dropShortcut ∧ k.all ≠ [] := by
  cases hCut : sequence.cutAt ['|'] with
  | some sides =>
    obtain ⟨active, done⟩ := sides
    rw [parse, hCut] at h
    rw [listed, hCut]
    dsimp only at h
    split at h
    · contradiction
    · next hNonempty =>
      injection h with h
      subst h
      refine ⟨?_, by simpa using hNonempty⟩
      rw [List.map_append]
      rfl
  | none =>
    rw [parse, hCut] at h
    rw [listed, hCut]
    dsimp only at h
    split at h
    · next last hLast =>
      injection h with h
      subst h
      refine ⟨List.dropLast_append_getLast? _ hLast, ?_⟩
      exact List.append_ne_nil_of_right_ne_nil _ (List.cons_ne_nil last [])
    · contradiction

/-- The keywords of a sequence hold no white space. -/
theorem solid_of_parse {sequence : Text} (h : parse sequence = .ok k) :
    ∀ word ∈ k.all, ∀ c ∈ word, Text.isBlank c = false := by
  intro word hWord c hc
  rw [(all_of_parse h).1] at hWord
  obtain ⟨whole, hWhole, rfl⟩ := List.mem_map.mp hWord
  exact (spec_of_mem_listed hWhole).2 c ((List.takeWhile_sublist _).subset hc)

theorem unbroken_of_parse {sequence : Text} (h : parse sequence = .ok k) :
    ∀ word ∈ k.all, word.Unbroken :=
  fun word hWord => Text.unbroken_of_solid (solid_of_parse h word hWord)

theorem words_standard : standard.Words where
  ne_nil := by decide
  solid := by
    have hParse : parse "TODO | DONE".toList = .ok standard := by decide
    exact solid_of_parse hParse

/-! ## The cycle -/

theorem mem_all_of_next? {current : Option Text} (h : k.next? current = some word) :
    word ∈ k.all := by
  rw [next?] at h
  split at h
  · exact List.mem_of_getElem? h
  · exact List.mem_of_head? h

/-- The cycle starts with the first word. -/
theorem next?_none : k.next? none = k.all[0]? := by
  rw [next?, Option.bind_none, List.head?_eq_getElem?]

/-- **The cycle goes on** with the word that stands next, and ends behind the last one. -/
theorem next?_of_getElem? (hDistinct : k.all.Nodup) (h : k.all[i]? = some word) :
    k.next? (some word) = k.all[i + 1]? := by
  obtain ⟨hi, rfl⟩ := List.getElem?_eq_some_iff.mp h
  have hFind : k.all.findIdx? (· == k.all[i]) = some i := by
    rw [List.findIdx?_eq_some_iff_getElem]
    refine ⟨hi, beq_self_eq_true _, fun j hj => ?_⟩
    -- An earlier place holds another word.
    rw [beq_iff_eq]
    exact List.pairwise_iff_getElem.mp hDistinct j i (Nat.lt_trans hj hi) hi hj
  rw [next?, Option.bind_some, hFind]

end Keywords

end Outliner
