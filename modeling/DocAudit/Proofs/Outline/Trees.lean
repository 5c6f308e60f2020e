import DocAudit.Proofs.Outline.Nesting
import Mathlib.Data.List.Range

/-!
# Trees of headings

The trees of headings have all headings in their order (`HeadingTree.headingsOfAll_forest`), and
their levels rise from the outside inwards (`HeadingTree.levelsRise_forest`).

They are the trees that the links of an outline lead to from the top: below a heading stand the
trees of those that belong to it (`Outline.subtree`), in the order in which they were read
(`Outline.roots_push`, `Outline.children_push`).  From any heading on, the headings that no other
one from there is above are the tops of trees (`Outline.topsFrom`).  Going one heading back, this
heading is a top as well, and those of the tops that it is above become its own
(`Outline.topsFrom_eq_cons`, `Outline.children_eq_filter`).  They are the first ones, because what
is not above a heading closes what is before it (`Outline.pairwise_topsFrom`).
-/

namespace DocAudit

open List

/-! ## All headings in order -/

namespace HeadingTree

lemma headingsOfAll_append (trees more : List HeadingTree) :
    headingsOfAll (trees ++ more) = headingsOfAll trees ++ headingsOfAll more := by
  induction trees with
  | nil => rfl
  | cons tree rest ih => rw [cons_append, headingsOfAll, headingsOfAll, ih, append_assoc]

/-- Building trees moves no heading. -/
theorem headingsOfAll_forest (headings : List Heading) :
    headingsOfAll (forest headings) = headings := by
  induction headings with
  | nil => rfl
  | cons heading rest ih =>
      rw [forest, headingsOfAll, HeadingTree.headings, cons_append, ← headingsOfAll_append,
        takeWhile_append_dropWhile, ih]

/-- Whether the headings right below a heading are of higher levels, everywhere in a tree. -/
inductive LevelsRise : HeadingTree → Prop
  | node {heading : Heading} {children : List HeadingTree}
      (rises : ∀ child ∈ children, heading.level < child.level)
      (below : ∀ child ∈ children, child.LevelsRise) : LevelsRise (node heading children)

theorem levelsRise_forest (headings : List Heading) :
    ∀ tree ∈ forest headings, tree.LevelsRise := by
  induction headings with
  | nil => exact nofun
  | cons heading rest ih =>
      rw [forest, forall_mem_cons]
      refine ⟨.node (fun child mem => ?_) fun child mem => ih child ((takeWhile_subset _) mem),
        fun tree mem => ih tree ((dropWhile_subset _) mem)⟩
      have above := mem_takeWhile_imp mem
      exact (Heading.isAbove_iff.1 above).1

end HeadingTree

namespace Outline

/-! ## Trees by their links -/

/-- The positions of the headings that belong to the one at a position, in order.  They stand behind
it. -/
def children (outline : Outline) (position : ℕ) : List ℕ :=
  (range' (position + 1) (outline.entries.length - (position + 1))).filter fun child =>
    outline.entries[child]?.any (·.parent == some position)

lemma lt_of_mem_children {outline : Outline} {position child : ℕ}
    (mem : child ∈ outline.children position) :
    position < child ∧ child < outline.entries.length := by
  have inside := mem_range'_1.1 (mem_filter.1 mem).1
  omega

lemma length_entries_push (outline : Outline) (heading : Heading) :
    (outline.push heading).entries.length = outline.entries.length + 1 :=
  length_append

lemma getElem?_entries_push (outline : Outline) (heading : Heading) :
    (outline.push heading).entries[outline.entries.length]?
      = some ⟨heading, (outline.openAbove heading).head?.map (·.1)⟩ :=
  getElem?_concat_length

/-- One more heading comes last at the top, unless it belongs to another one. -/
theorem roots_push (outline : Outline) (heading : Heading) : (outline.push heading).roots
    = outline.roots ++ if outline.openAbove heading = [] then [outline.entries.length] else [] := by
  have before : (range outline.entries.length).filter
      (fun position => (outline.push heading).entries[position]?.any (·.parent.isNone))
        = outline.roots := by
    refine filter_congr fun position mem => ?_
    rw [push, getElem?_append_left (mem_range.1 mem)]
  rw [roots, length_entries_push, range_succ, filter_append, before, filter_singleton,
    getElem?_entries_push]
  cases outline.openAbove heading <;> rfl

/-- One more heading comes last among those that belong to the same one, and the others stay. -/
theorem children_push (outline : Outline) (heading : Heading) {position : ℕ}
    (inside : position < outline.entries.length) :
    (outline.push heading).children position = outline.children position
      ++ if (outline.openAbove heading).head?.map (·.1) = some position
        then [outline.entries.length] else [] := by
  have before : (range' (position + 1) (outline.entries.length - (position + 1))).filter
      (fun child => (outline.push heading).entries[child]?.any (·.parent == some position))
        = outline.children position := by
    refine filter_congr fun child mem => ?_
    have isBefore := mem_range'_1.1 mem
    rw [push, getElem?_append_left (by omega)]
  have longer : (outline.push heading).entries.length - (position + 1)
      = outline.entries.length - (position + 1) + 1 := by
    rw [length_entries_push]
    omega
  have last : position + 1 + (outline.entries.length - (position + 1))
      = outline.entries.length := by omega
  rw [children, longer, range'_1_concat, filter_append, before, last, filter_singleton,
    getElem?_entries_push, Option.any_some, Bool.cond_eq_ite]
  simp only [beq_iff_eq]

/-- The tree that the links lead to from the heading at a position. -/
def subtree (outline : Outline) (position : ℕ) : HeadingTree :=
  .node (outline.headings.getD position default)
    ((outline.children position).attach.map fun child => outline.subtree child.1)
termination_by outline.entries.length - position
decreasing_by
  have inside := lt_of_mem_children child.2
  omega

lemma subtree_eq (outline : Outline) (position : ℕ) : outline.subtree position
    = .node (outline.headings.getD position default)
      ((outline.children position).map outline.subtree) := by
  rw [subtree, attach_map_val]

/-! ## Links by positions -/

variable {headings : List Heading} {start position earlier : ℕ}

/-- Whether the heading at a position is above the one at a later position. -/
def isAboveAt (headings : List Heading) (earlier position : ℕ) : Bool :=
  (headings.getD earlier default).isAbove (headings.getD position default)

/-- Whether no heading from a start on is above the one at a position. -/
def isTopFrom (headings : List Heading) (start position : ℕ) : Bool :=
  (range' start (position - start)).all fun earlier => !isAboveAt headings earlier position

lemma isTopFrom_iff : isTopFrom headings start position = true ↔
    ∀ earlier, start ≤ earlier → earlier < position →
      isAboveAt headings earlier position = false := by
  rw [isTopFrom, all_eq_true]
  constructor
  · intro noneLater earlier behind before
    have inside : earlier ∈ range' start (position - start) := mem_range'_1.2 ⟨behind, by omega⟩
    simpa using noneLater earlier inside
  · intro noneLater earlier mem
    have inside := mem_range'_1.1 mem
    rw [noneLater earlier inside.1 (by omega), Bool.not_false]

lemma isAboveAt_append {before : List Heading} (heading : Heading) (after : List Heading)
    (inside : earlier < before.length) :
    isAboveAt (before ++ heading :: after) earlier before.length
      = before[earlier].isAbove heading := by
  rw [isAboveAt, getD_eq_getElem?_getD, getD_eq_getElem?_getD, getElem?_append_left inside,
    getElem?_eq_getElem inside, getElem?_append_right le_rfl, Nat.sub_self, getElem?_cons_zero,
    Option.getD_some, Option.getD_some]

/-- The last place in a list is told by what stands before and behind it, or by its position. -/
lemma exists_split_iff {α : Type} {p : α → Bool} {l : List α} :
    (∃ before a after, l = before ++ a :: after ∧ before.length = position ∧ p a = true
      ∧ ∀ b ∈ after, p b = false) ↔
      ∃ inside : position < l.length, p l[position] = true
        ∧ ∀ later, position < later → ∀ isInside : later < l.length, p l[later] = false := by
  constructor
  · rintro ⟨before, a, after, rfl, rfl, here, noneLater⟩
    refine ⟨by simp, by simpa using here, fun later behind isInside => ?_⟩
    obtain ⟨more, rfl⟩ := Nat.exists_eq_add_of_le (Nat.succ_le_of_lt behind)
    have isRest : (before ++ a :: after).drop (before.length + 1) = after := by simp
    have isLater : (before ++ a :: after)[before.length + 1 + more] ∈ (before ++ a :: after).drop
        (before.length + 1) :=
      mem_drop_iff_getElem.2 ⟨more, by omega, rfl⟩
    rw [isRest] at isLater
    exact noneLater _ isLater
  · rintro ⟨inside, here, noneLater⟩
    refine ⟨l.take position, l[position], l.drop (position + 1), by simp, by simp; omega, here,
      fun b mem => ?_⟩
    obtain ⟨more, isInside, rfl⟩ := mem_drop_iff_getElem.1 mem
    exact noneLater _ (by omega) (by omega)

/-- A heading belongs to the last one before it that is above it. -/
lemma exists_entry (inside : position < headings.length) : ∃ parent,
    (ofHeadings headings).entries[position]? = some ⟨headings.getD position default, parent⟩
      ∧ (∀ earlier, parent = some earlier ↔
        earlier < position ∧ isAboveAt headings earlier position = true
          ∧ isTopFrom headings (earlier + 1) position = true)
      ∧ (parent = none ↔ isTopFrom headings 0 position = true) := by
  obtain ⟨before, heading, after, rfl, rfl⟩ :
      ∃ before heading after, headings = before ++ heading :: after ∧ before.length = position :=
    ⟨headings.take position, headings[position],
      headings.drop (position + 1), by simp, by simp; omega⟩
  have isHere : (before ++ heading :: after).getD before.length default = heading := by simp
  refine ⟨((ofHeadings before).path.find? (·.2.isAbove heading)).map (·.1), ?_,
    fun earlier => ?_, ?_⟩
  · rw [isHere]
    exact getElem?_entries_ofHeadings before heading after
  · rw [map_find?_path_eq_some_iff, exists_split_iff, isTopFrom_iff]
    constructor
    · rintro ⟨isBefore, above, noneLater⟩
      refine ⟨isBefore, isAboveAt_append heading after isBefore ▸ above,
        fun later behind isInside => ?_⟩
      rw [isAboveAt_append heading after isInside]
      exact noneLater later behind isInside
    · rintro ⟨isBefore, above, noneLater⟩
      refine ⟨isBefore, isAboveAt_append heading after isBefore ▸ above,
        fun later behind isInside => ?_⟩
      rw [← isAboveAt_append heading after isInside]
      exact noneLater later behind isInside
  · rw [Option.map_eq_none_iff, find?_path_eq_none_iff, isTopFrom_iff]
    constructor
    · intro noneLater earlier _ isBefore
      rw [isAboveAt_append heading after isBefore]
      exact noneLater _ (getElem_mem isBefore)
    · intro noneLater other mem
      obtain ⟨earlier, isBefore, rfl⟩ := getElem_of_mem mem
      rw [← isAboveAt_append heading after isBefore]
      exact noneLater earlier (Nat.zero_le earlier) isBefore

/-! ## Tops -/

/-- The positions from a start on of headings that no heading from there is above. -/
def topsFrom (headings : List Heading) (start : ℕ) : List ℕ :=
  (range' start (headings.length - start)).filter (isTopFrom headings start)

lemma mem_topsFrom_iff : position ∈ topsFrom headings start ↔
    start ≤ position ∧ position < headings.length ∧ isTopFrom headings start position = true := by
  rw [topsFrom, mem_filter, mem_range'_1, ← and_assoc]
  refine and_congr_left fun _ => ?_
  omega

/-- The headings at the top are those that belong to no other one. -/
lemma roots_eq_topsFrom (headings : List Heading) :
    (ofHeadings headings).roots = topsFrom headings 0 := by
  rw [roots, topsFrom, length_entries_ofHeadings, range_eq_range', Nat.sub_zero]
  refine filter_congr fun position mem => ?_
  obtain ⟨parent, here, -, none_iff⟩ := exists_entry (mem_range.1 (range_eq_range' ▸ mem))
  rw [here, Option.any_some, Bool.eq_iff_iff, Option.isNone_iff_eq_none, none_iff]

/-- The tops that a heading is above belong to it. -/
lemma children_eq_filter (headings : List Heading) (start : ℕ) :
    (ofHeadings headings).children start
    = (topsFrom headings (start + 1)).filter (isAboveAt headings start) := by
  rw [children, topsFrom, filter_filter, length_entries_ofHeadings]
  refine filter_congr fun position mem => ?_
  obtain ⟨behind, inside⟩ := mem_range'_1.1 mem
  obtain ⟨parent, here, some_iff, -⟩ := exists_entry (show position < headings.length by omega)
  rw [here, Option.any_some, Bool.eq_iff_iff, Bool.and_eq_true_iff, beq_iff_eq, some_iff]
  exact and_iff_right behind

/-- A heading is a top, and of the tops behind it those that it is not above stay. -/
lemma topsFrom_eq_cons (inside : start < headings.length) :
    topsFrom headings start
      = start :: (topsFrom headings (start + 1)).filter (!isAboveAt headings start ·) := by
  have more : headings.length - start = headings.length - (start + 1) + 1 := by omega
  have isTop : isTopFrom headings start start = true := by rw [isTopFrom, Nat.sub_self]; rfl
  rw [topsFrom, more, range'_succ, filter_cons_of_pos isTop, topsFrom, filter_filter]
  refine congrArg (start :: ·) (filter_congr fun position mem => ?_)
  have behind : position - start = position - (start + 1) + 1 := by
    have := mem_range'_1.1 mem
    omega
  rw [isTopFrom, behind, range'_succ, all_cons, isTopFrom]

/-- If a heading is above a top, then it is above the tops before this one. -/
lemma pairwise_topsFrom (headings : List Heading) (start : ℕ) :
    (topsFrom headings (start + 1)).Pairwise
    fun earlier position => isAboveAt headings start position = true →
      isAboveAt headings start earlier = true := by
  have sorted : (topsFrom headings (start + 1)).Pairwise (· < ·) := (pairwise_lt_range' 1).filter _
  refine sorted.imp_of_mem fun {earlier position} isTop isTopBehind before above => ?_
  have closed :=
    isTopFrom_iff.1 (mem_topsFrom_iff.1 isTopBehind).2.2 earlier (mem_topsFrom_iff.1 isTop).1 before
  exact Heading.isAbove_of_not_isAbove above closed

/-- Where nothing is kept behind what is not, keeping and taking from the front are the same. -/
lemma takeWhile_eq_filter {α : Type} {p : α → Bool} {l : List α}
    (closed : l.Pairwise fun a b => p b = true → p a = true) :
    l.takeWhile p = l.filter p ∧ l.dropWhile p = l.filter (!p ·) := by
  induction l with
  | nil => exact ⟨rfl, rfl⟩
  | cons a rest ih =>
      obtain ⟨first, closed⟩ := pairwise_cons.1 closed
      cases kept : p a with
      | true => simp [kept, ih closed]
      | false =>
          have noneHolds : ∀ b ∈ rest, p b = false := by
            intro b mem
            rw [← Bool.not_eq_true]
            intro later
            rw [first b mem later] at kept
            cases kept
          have noneKept : rest.filter p = [] := filter_eq_nil_iff.2 (by simpa using noneHolds)
          have allLeft : rest.filter (!p ·) = rest := filter_eq_self.2 (by simpa using noneHolds)
          simp [kept, noneKept, allLeft]

/-! ## The trees of an outline -/

lemma forest_drop (headings : List Heading) (start : ℕ) :
    HeadingTree.forest (headings.drop start)
      = (topsFrom headings start).map (ofHeadings headings).subtree := by
  induction isRest : headings.drop start generalizing start with
  | nil =>
      have outside : headings.length ≤ start := drop_eq_nil_iff.1 isRest
      rw [topsFrom, Nat.sub_eq_zero_of_le outside]
      rfl
  | cons heading rest ih =>
      have inside : start < headings.length := by
        by_contra outside
        rw [drop_eq_nil_of_le (by omega)] at isRest
        cases isRest
      rw [drop_eq_getElem_cons inside, cons.injEq] at isRest
      obtain ⟨here, isRest⟩ := isRest
      have isHere : headings.getD start default = heading := by simp [here, inside]
      have below (position : ℕ) : heading.isAbove ((ofHeadings headings).subtree position).heading
          = isAboveAt headings start position := by
        rw [subtree_eq, isAboveAt, isHere, headings_ofHeadings]
        rfl
      have sameTest : (fun tree : HeadingTree => heading.isAbove tree.heading)
            ∘ (ofHeadings headings).subtree
          = isAboveAt headings start := funext below
      obtain ⟨first, later⟩ := takeWhile_eq_filter (pairwise_topsFrom headings start)
      rw [HeadingTree.forest, ih (start + 1) isRest, topsFrom_eq_cons inside, map_cons, subtree_eq,
        children_eq_filter, headings_ofHeadings, isHere, takeWhile_map, dropWhile_map, sameTest,
        first, later]

/-- **The outline has all headings as trees.**

* Its trees are those that its links lead to from the top.
* The headings of the trees, each before those below it, are the headings of the page in order.
* The headings right below a heading are of higher levels.
* The headings of the trees make up the same trees again. -/
theorem trees_lose_nothing (headings : List Heading) :
    let outline := Outline.ofHeadings headings
    outline.trees = outline.roots.map outline.subtree
      ∧ HeadingTree.headingsOfAll outline.trees = headings
      ∧ (∀ tree ∈ outline.trees, tree.LevelsRise)
      ∧ (Outline.ofHeadings (HeadingTree.headingsOfAll outline.trees)).trees = outline.trees := by
  intro outline
  have trees : outline.trees = HeadingTree.forest headings := by
    rw [Outline.trees, headings_ofHeadings]
  have whole : HeadingTree.headingsOfAll outline.trees = headings := by
    rw [trees, HeadingTree.headingsOfAll_forest]
  refine ⟨?_, whole, trees ▸ HeadingTree.levelsRise_forest headings, by rw [whole]⟩
  rw [trees, roots_eq_topsFrom, ← forest_drop, drop_zero]

end Outline

end DocAudit
