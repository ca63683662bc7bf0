import Outliner.Proofs.Context
import Outliner.Proofs.Subtree

/-!
# Outliner — contexts are local to a section

What holds a cursor is found by scans that start far from it: the owner of a text is searched for
up to the first line of the buffer, an open fence or drawer is followed down from there, and what
closes it is searched for down to the last line. All of them stop at a heading, or forget there what
they have seen. So whole sections can be cut out of a buffer, and a cursor in them is held by what
held it before.

Of each scan this needs two things: that a heading ends or clears it, and that it only carries the
numbers of lines along, so that its answer moves with the lines. Only for the first line of a
section is that not enough, since what is above it is not cleared yet; but that line is a heading
itself.

* `WholeSections` — the middle one of three parts of a buffer begins and ends at a heading, or where
  the buffer does.
* `Context.shiftBy` — the context with all its lines so many lines further below.
* `foldl_section` — a scan down from the first line of the buffer, in one lemma for blocks and
  drawers.
* `Context.searchOwner_append` — a scan up from a line ends at the first heading.

Main result:

* `Context.ofPosition_section` — the context of a cursor in whole sections is found in them alone,
  and no change outside of them reaches it.
-/

namespace Outliner

variable {config : Config} {pre sec post : Lines} {k n o : Nat}

/-- The middle part of a buffer begins with a heading or with the buffer, and so does the part after
it, if there is one. A single section has no heading below its first line. -/
structure WholeSections (pre sec post : Lines) : Prop where
  opens : pre = [] ∨ 0 < Heading.levelOf (sec.lineAt 0)
  closes : post = [] ∨ 0 < Heading.levelOf (post.lineAt 0)

/-! ## The lines of the middle part -/

namespace Lines

theorem lineAt_section (pre post : Lines) (hk : k < sec.length) :
    lineAt (pre ++ sec ++ post) (k + pre.length) = sec.lineAt k := by
  rw [List.append_assoc, Nat.add_comm, lineAt_append_right, lineAt_append_left hk]

/-- Numbered lines, each so many lines further below. -/
def shiftBy (o : Nat) (walk : List (Text × Nat)) : List (Text × Nat) :=
  walk.map (Prod.map id (· + o))

/-- A walk down into the middle part passes the first part, and then what it passes in the middle
part alone. -/
theorem take_numbered_section (pre post : Lines) (hk : k ≤ sec.length) :
    (numbered (pre ++ sec ++ post)).take (k + pre.length) =
      pre.numbered ++ shiftBy pre.length (sec.numbered.take k) := by
  have hTake : (pre ++ sec ++ post).take (k + pre.length) = pre ++ sec.take k := by
    rw [List.append_assoc, Nat.add_comm, List.take_length_add_append,
      List.take_append_of_le_length hk]
  rw [take_numbered, hTake, List.zipIdx_append, take_numbered, shiftBy,
    List.map_snd_add_zipIdx_eq_zipIdx, Nat.add_comm, numbered]

/-- A walk up from a line of the middle part comes to the first part last. -/
theorem above_section (pre post : Lines) (hk : k ≤ sec.length) :
    above (pre ++ sec ++ post) (k + pre.length) =
      shiftBy pre.length (sec.above k) ++ pre.numbered.reverse := by
  rw [above, take_numbered_section pre post hk, List.reverse_append, shiftBy, shiftBy,
    ← List.map_reverse, above]

/-- The body below a line of the middle part ends in the middle part. -/
theorem takeWhile_isBody_section (h : WholeSections pre sec post) (hk : k ≤ sec.length) :
    ((pre ++ sec ++ post).drop (k + pre.length)).takeWhile Heading.isBody =
      (sec.drop k).takeWhile Heading.isBody := by
  have hPost : post.takeWhile Heading.isBody = [] := by
    rcases h.closes with rfl | hHeading
    · rfl
    · cases post with
      | nil => rfl
      | cons line rest =>
        have hLine : 0 < Heading.levelOf line := hHeading
        exact List.takeWhile_cons_of_neg (by simp [Heading.isBody, Nat.ne_of_gt hLine])
  rw [List.append_assoc, Nat.add_comm, List.drop_length_add_append,
    List.drop_append_of_le_length hk, List.takeWhile_append, hPost, List.append_nil]
  split
  · next hAll => rw [(List.takeWhile_prefix _).eq_of_length hAll]
  · rfl

end Lines

/-! ## Scans downward -/

/-- A scan down to a line of the middle part gives what it gives in the middle part alone, if it
forgets at a heading what it has seen and only carries line numbers along. -/
theorem foldl_section {step : Option Nat → Text × Nat → Option Nat} (h : WholeSections pre sec post)
    (hForget : ∀ current line n, 0 < Heading.levelOf line → step current (line, n) = none)
    (hShift : ∀ o current line n,
      step (current.map (· + o)) (line, n + o) = (step current (line, n)).map (· + o))
    (hk : k < sec.length) (hBody : Heading.levelOf (sec.lineAt k) = 0) :
    ((Lines.numbered (pre ++ sec ++ post)).take (k + pre.length)).foldl step none =
      ((sec.numbered.take k).foldl step none).map (· + pre.length) := by
  have hMoved : ∀ current, (Lines.shiftBy pre.length (sec.numbered.take k)).foldl step
      (current.map (· + pre.length)) =
        ((sec.numbered.take k).foldl step current).map (· + pre.length) := by
    intro current
    rw [Lines.shiftBy, List.foldl_map]
    exact List.foldl_hom _ fun current x => hShift pre.length current x.1 x.2
  rw [Lines.take_numbered_section pre post (Nat.le_of_lt hk), List.foldl_append]
  rcases h.opens with rfl | hHeading
  · exact hMoved none
  · -- The scan comes to the middle part with something open, maybe, and meets its heading first.
    obtain ⟨j, rfl⟩ : ∃ j, k = j + 1 := by
      cases k with
      | zero => omega
      | succ j => exact ⟨j, rfl⟩
    have hFirst : sec.numbered.take (j + 1) =
        (sec.lineAt 0, 0) :: (sec.onward 1).take j := by
      have hCons : sec.onward 0 = (sec.lineAt 0, 0) :: sec.onward 1 :=
        Lines.onward_eq_cons (Nat.zero_lt_of_lt hk)
      rw [← List.take_succ_cons, ← hCons]
      rfl
    rw [← hMoved none, hFirst, Lines.shiftBy, List.map_cons, List.foldl_cons, List.foldl_cons]
    congr 1
    exact (hForget _ _ _ hHeading).trans (hForget _ _ _ hHeading).symm

namespace Block

/-- What a line does to the fence that is open above it. -/
def openStep (current : Option Nat) (x : Text × Nat) : Option Nat :=
  if Heading.levelOf x.1 > 0 then none
  else match current with
    | some fence => if isEnd x.1 then none else some fence
    | none => if (parseBegin? x.1).isSome then some x.2 else none

theorem openAfter_eq_foldl (current : Option Nat) (walk : List (Text × Nat)) :
    openAfter current walk = walk.foldl openStep current := by
  induction walk generalizing current with
  | nil => rfl
  | cons x rest ih =>
    simp only [openAfter, List.foldl_cons, openStep, ih]
    split
    · rfl
    · cases current <;> rfl

theorem holding?_section (h : WholeSections pre sec post) (hk : k < sec.length) :
    holding? (pre ++ sec ++ post) (k + pre.length) = (holding? sec k).map (· + pre.length) := by
  rw [holding?, holding?, Lines.takeWhile_isBody_section h (Nat.le_of_lt hk)]
  by_cases hBody : Heading.levelOf (sec.lineAt k) = 0
  · rw [openAfter_eq_foldl, openAfter_eq_foldl, foldl_section h ?_ ?_ hk hBody]
    · cases (sec.numbered.take k).foldl openStep none with
      | none => rfl
      | some fence =>
        simp only [Option.map_some, Option.bind_eq_bind, Option.bind_some,
          apply_ite (Option.map _), Option.map_none]
    · intro current line n hHeading
      exact if_pos hHeading
    · intro o current line n
      cases current <;>
        simp only [openStep, Option.map_some, Option.map_none, apply_ite (Option.map _)]
  · -- No block holds a heading: nothing from it on is body.
    have hNone : (sec.drop k).takeWhile Heading.isBody = [] := by
      rw [List.drop_eq_getElem_cons hk, ← Lines.lineAt_of_lt hk]
      exact List.takeWhile_cons_of_neg (by simpa [Heading.isBody] using hBody)
    simp [hNone]

end Block

namespace Drawer

/-- The drawer so many lines further below. -/
def shiftBy (o : Nat) (d : Drawer) : Drawer :=
  ⟨d.start + o, d.stop + o⟩

/-- What a line does to the drawer that is open above it. -/
def openStep (current : Option Nat) (x : Text × Nat) : Option Nat :=
  if Heading.levelOf x.1 > 0 ∨ isEnd x.1 then none
  else if isStart x.1 then some x.2 else current

theorem openAfter_eq_foldl (current : Option Nat) (walk : List (Text × Nat)) :
    openAfter current walk = walk.foldl openStep current := by
  induction walk generalizing current with
  | nil => rfl
  | cons x rest ih =>
    simp only [openAfter, List.foldl_cons, openStep, ih]
    split
    · rfl
    · split <;> rfl

theorem closing?_section (h : WholeSections pre sec post) (hk : k ≤ sec.length) :
    closing? (pre ++ sec ++ post) (k + pre.length) = (closing? sec k).map (· + pre.length) := by
  rw [closing?, closing?, Lines.takeWhile_isBody_section h hk, Option.map_map]
  congr 1
  funext i
  exact Nat.add_right_comm ..

theorem holding?_section (h : WholeSections pre sec post) (hk : k < sec.length) :
    holding? (pre ++ sec ++ post) (k + pre.length) = (holding? sec k).map (shiftBy pre.length) := by
  rw [holding?, holding?, Lines.lineAt_section pre post hk]
  split
  · rfl
  · next hLevel =>
    rw [closing?_section h (Nat.le_of_lt hk), openAfter_eq_foldl, openAfter_eq_foldl,
      foldl_section h ?_ ?_ hk (Nat.eq_zero_of_not_pos hLevel)]
    · cases (sec.numbered.take k).foldl openStep none with
      | none => rfl
      | some start =>
        cases closing? sec k with
        | none => rfl
        | some stop => rfl
    · intro current line n hHeading
      exact if_pos (Or.inl hHeading)
    · intro o current line n
      simp only [openStep, apply_ite (Option.map _), Option.map_some, Option.map_none]

end Drawer

/-! ## The scan upward -/

namespace Context

/-- The answer of the search for an owner, with its line so many lines further below. -/
def OwnerExit.shiftBy (o : Nat) : OwnerExit → OwnerExit
  | owner n item => owner (n + o) item
  | e => e

/-- The search does not go past a heading. -/
theorem searchOwner_append {limit floor blanks fences : Nat} {walk : List (Text × Nat)}
    (h : ∃ x ∈ walk, 0 < Heading.levelOf x.1) (rest : List (Text × Nat)) :
    searchOwner limit floor blanks fences (walk ++ rest) =
      searchOwner limit floor blanks fences walk := by
  -- On the walk; whatever the search has counted, it ends at the heading if not before.
  induction walk generalizing floor blanks fences with
  | nil =>
    obtain ⟨x, hx, -⟩ := h
    contradiction
  | cons x walk ih =>
    obtain ⟨line, n⟩ := x
    simp only [List.cons_append, searchOwner]
    by_cases hHeading : 0 < Heading.levelOf line
    · have hText : line.isBlankLine = false := Heading.isBlankLine_eq_false hHeading
      simp only [hText, Bool.false_eq_true, if_false, if_pos hHeading]
    · have hAhead : ∃ x ∈ walk, 0 < Heading.levelOf x.1 := by
        obtain ⟨y, hy, hLevel⟩ := h
        rcases List.mem_cons.mp hy with rfl | hy
        · exact absurd hLevel hHeading
        · exact ⟨y, hy, hLevel⟩
      simp only [ih hAhead]

/-- The search carries the number of the owner's line along. -/
theorem searchOwner_shiftBy (o : Nat) {limit floor blanks fences : Nat} (walk : List (Text × Nat)) :
    searchOwner limit floor blanks fences (Lines.shiftBy o walk) =
      (searchOwner limit floor blanks fences walk).shiftBy o := by
  induction walk generalizing floor blanks fences with
  | nil => rfl
  | cons x walk ih =>
    obtain ⟨line, n⟩ := x
    rw [Lines.shiftBy, List.map_cons, ← Lines.shiftBy]
    simp only [Prod.map_apply, id, searchOwner, ih]
    -- In the order of the search; where it goes on, the hypothesis has answered already.
    split
    · split <;> rfl
    · split
      · rfl
      · split
        · rfl
        · split
          · cases fences <;> rfl
          · split
            · rfl
            · cases ListItem.parse? line <;> dsimp only <;> split <;> rfl

/-- The owner of a line of the middle part that is no heading. -/
theorem ownerOf_section (h : WholeSections pre sec post) (hk : k < sec.length)
    (hBody : Heading.levelOf (sec.lineAt k) = 0) :
    ownerOf config (pre ++ sec ++ post) (k + pre.length) =
      (ownerOf config sec k).shiftBy pre.length := by
  have hThere : k + pre.length - (pre ++ sec ++ post).length = 0 := by
    simp only [List.length_append]
    omega
  have hHere : k - sec.length = 0 := by omega
  have hSearch : ∀ {limit floor blanks fences},
      searchOwner limit floor blanks fences
          (Lines.shiftBy pre.length (sec.above k) ++ pre.numbered.reverse) =
        searchOwner limit floor blanks fences (Lines.shiftBy pre.length (sec.above k)) := by
    intro limit floor blanks fences
    rcases h.opens with rfl | hHeading
    · rw [show Lines.numbered [] = [] from rfl, List.reverse_nil, List.append_nil]
    · apply searchOwner_append
      have hFirst : (sec.lineAt 0, 0) ∈ sec.above k := by
        refine Lines.mk_mem_above_iff.mpr ⟨Nat.pos_of_ne_zero ?_, by omega, rfl⟩
        rintro rfl
        omega
      exact ⟨_, List.mem_map_of_mem hFirst, hHeading⟩
  rw [ownerOf, ownerOf, hThere, hHere, Lines.above_section pre post (Nat.le_of_lt hk), hSearch,
    searchOwner_shiftBy, Lines.lineAt_section pre post hk]
  rfl

/-! ## Contexts -/

/-- The context so many lines further below. -/
def shiftBy (o : Nat) : Context → Context
  | heading n h => heading (n + o) h
  | listItem n item => listItem (n + o) item
  | checkbox n item => checkbox (n + o) item
  | table n cells column => table (n + o) cells column
  | blockHeader n name parameters => blockHeader (n + o) name parameters
  | block n fence => block (n + o) (fence + o)
  | drawerHeader n => drawerHeader (n + o)
  | drawerEnd n => drawerEnd (n + o)
  | property n d entry => property (n + o) (d.shiftBy o) entry
  | drawer n d => drawer (n + o) (d.shiftBy o)
  | text n => text (n + o)

theorem shiftBy_add (o d : Nat) (context : Context) :
    context.shiftBy (o + d) = (context.shiftBy o).shiftBy d := by
  cases context <;> simp only [shiftBy, Drawer.shiftBy, Nat.add_assoc]

theorem ofItem_add (n o : Nat) (item : ListItem) :
    ofItem (n + o) item = (ofItem n item).shiftBy o := by
  rw [ofItem, ofItem]
  split <;> rfl

theorem ownerContext?_section (h : WholeSections pre sec post) (hk : k < sec.length) :
    ownerContext? config (pre ++ sec ++ post) (k + pre.length) =
      (ownerContext? config sec k).map (shiftBy pre.length) := by
  rw [ownerContext?, ownerContext?, Lines.lineAt_section pre post hk]
  split
  · rfl
  · next hText =>
    have hPlain : isStructural (sec.lineAt k) = false := by simpa using (not_or.mp hText).2
    have hBody := (isStructural_eq_false_iff.mp hPlain).1
    rw [ownerOf_section h hk hBody]
    cases ownerOf config sec k with
    | owner n item => exact congrArg some (ofItem_add ..)
    | _ => rfl

theorem classifyRest_section (h : WholeSections pre sec post) (hk : k < sec.length) (column : Nat) :
    classifyRest (pre ++ sec ++ post) ⟨k + pre.length, column⟩ =
      (classifyRest sec ⟨k, column⟩).shiftBy pre.length := by
  simp only [classifyRest, Lines.lineAt_section pre post hk, Drawer.holding?_section h hk,
    Block.holding?_section h hk, apply_ite (shiftBy pre.length)]
  cases Drawer.holding? sec k <;> cases Property.parse? (sec.lineAt k) <;>
    cases Block.holding? sec k <;> rfl

theorem classify_section (h : WholeSections pre sec post) (hk : k < sec.length) (column : Nat) :
    classify config (pre ++ sec ++ post) ⟨k + pre.length, column⟩ =
      (classify config sec ⟨k, column⟩).shiftBy pre.length := by
  rw [classify, classify]
  simp only [Lines.lineAt_section pre post hk, ownerContext?_section h hk,
    classifyRest_section h hk]
  split
  · rfl
  · split
    · rfl
    · split
      · exact ofItem_add ..
      · cases ownerContext? config sec k <;> rfl

theorem ofPosition_append (h : WholeSections pre sec post) (hk : k < sec.length) (column : Nat) :
    ofPosition config (pre ++ sec ++ post) ⟨k + pre.length, column⟩ =
      (ofPosition config sec ⟨k, column⟩).shiftBy pre.length := by
  have hThere : k + pre.length ≤ Lines.last (pre ++ sec ++ post) := by
    simp only [Lines.last, List.length_append]
    omega
  have hHere : k ≤ sec.last := by
    rw [Lines.last]
    omega
  simp only [ofPosition, Lines.clamp, Nat.min_eq_left hThere, Nat.min_eq_left hHere,
    Lines.lineAt_section pre post hk, classify_section h hk]

/-- **Contexts are local.** In a part of a buffer that consists of whole sections, a cursor has the
context that it has when this part is the whole buffer, with all lines counted from where the part
begins. So if other lines are put in the place of those around the part, and it comes to stand
further below, the context of the cursor is the same, so many lines further below. -/
theorem ofPosition_section (config : Config) (h : WholeSections pre sec post)
    (hk : k < sec.length) (column : Nat) :
    ofPosition config (pre ++ sec ++ post) ⟨k + pre.length, column⟩ =
        (ofPosition config sec ⟨k, column⟩).shiftBy pre.length ∧
      ∀ pre' post' o, WholeSections pre' sec post' → pre'.length = pre.length + o →
        ofPosition config (pre' ++ sec ++ post') ⟨k + pre'.length, column⟩ =
          (ofPosition config (pre ++ sec ++ post) ⟨k + pre.length, column⟩).shiftBy o := by
  refine ⟨ofPosition_append h hk column, fun pre' post' o h' hLength => ?_⟩
  rw [ofPosition_append h hk, ofPosition_append h' hk, hLength, shiftBy_add]

/-- An entry of a drawer, between a section that leaves a block and a drawer open and one that would
close the block. Without the latter, and below one more line, it stays the same. -/
theorem ofPosition_section_entry :
    let pre : Lines := ["* A".toList, "#+BEGIN_SRC".toList, ":PROPERTIES:".toList]
    let sec : Lines := ["* B".toList, ":PROPERTIES:".toList, ":K: v".toList, ":END:".toList]
    let post : Lines := ["* C".toList, "#+END_SRC".toList]
    WholeSections pre sec post ∧ 2 < sec.length ∧
      ofPosition {} sec ⟨2, 1⟩ = .property 2 ⟨1, 3⟩ ⟨0, "K".toList, "v".toList⟩ ∧
      ofPosition {} (pre ++ sec ++ post) ⟨5, 1⟩ = (ofPosition {} sec ⟨2, 1⟩).shiftBy 3 ∧
      ofPosition {} ("text".toList :: pre ++ sec ++ []) ⟨6, 1⟩ =
        (ofPosition {} (pre ++ sec ++ post) ⟨5, 1⟩).shiftBy 1 := by
  intro pre sec post
  have h : WholeSections pre sec post := ⟨Or.inr (by decide), Or.inr (by decide)⟩
  have h' : WholeSections ("text".toList :: pre) sec [] := ⟨Or.inr (by decide), Or.inl rfl⟩
  have hLine : 2 < sec.length := by decide
  obtain ⟨hAlone, hMoved⟩ := ofPosition_section {} h hLine 1
  exact ⟨h, hLine, by decide, hAlone, hMoved _ [] 1 h' rfl⟩

end Context

end Outliner
