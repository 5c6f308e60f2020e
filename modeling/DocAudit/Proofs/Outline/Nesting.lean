import DocAudit.Outline.Heading
import Mathlib.Data.List.Basic
import Mathlib.Data.List.Induction
import Mathlib.Data.List.TakeWhile

/-!
# Nesting of headings

The heading that a new one belongs to is looked for among the open headings only.  A heading that is
closed is forgotten, and still it cannot be missed: what may be open above the new heading may also
be open above every later heading that may not (`Heading.isAbove_of_not_isAbove`).  So the search
among the open headings finds the last of all headings that may be open above the new one
(`Outline.find?_path_eq_some_iff`, `Outline.find?_path_eq_none_iff`).

The open headings are a chain: each stands at its position in the outline and belongs to the next
one (`Outline.Linked`).  Following the links from the latest heading therefore gives their titles
(`Outline.Linked.ancestry`).
-/

namespace DocAudit

open List

variable {headings before after : List Heading} {heading outer other : Heading}
  {position parent : ℕ}

/-! ## Headings above others -/

namespace Heading

lemma isAbove_iff :
    outer.isAbove heading = true ↔ outer.level < heading.level ∧ 1 < heading.level := by
  rw [isAbove, Bool.and_eq_true_iff, decide_eq_true_iff, decide_eq_true_iff]

lemma isAbove_iff_of_pos (positive : 1 ≤ outer.level) :
    outer.isAbove heading = true ↔ outer.level < heading.level := by
  rw [isAbove_iff]
  omega

/-- What is above a heading is also above one between that is not. -/
lemma isAbove_of_not_isAbove (above : outer.isAbove heading = true)
    (closed : other.isAbove heading = false) :
    outer.isAbove other = true := by
  rw [← Bool.not_eq_true, isAbove_iff] at closed
  rw [isAbove_iff] at above ⊢
  omega

end Heading

namespace Outline

/-! ## One more heading -/

lemma ofHeadings_concat (headings : List Heading) (heading : Heading) :
    ofHeadings (headings ++ [heading]) = (ofHeadings headings).push heading := by
  rw [ofHeadings, foldl_append, ofHeadings]
  rfl

lemma headings_push (outline : Outline) (heading : Heading) :
    (outline.push heading).headings = outline.headings ++ [heading] := by
  rw [Outline.headings, push, map_append, map_singleton, Outline.headings]

lemma headings_ofHeadings (headings : List Heading) :
    (ofHeadings headings).headings = headings := by
  induction headings using reverseRecOn with
  | nil => rfl
  | append_singleton before heading ih => rw [ofHeadings_concat, headings_push, ih]

lemma length_entries_ofHeadings (headings : List Heading) :
    (ofHeadings headings).entries.length = headings.length := by
  conv_rhs => rw [← headings_ofHeadings headings, Outline.headings, length_map]

/-- The heading that a new one belongs to is the first open one that is above it. -/
lemma head?_openAbove (outline : Outline) (heading : Heading) :
    (outline.openAbove heading).head? = outline.path.find? (·.2.isAbove heading) :=
  (find?_eq_head?_dropWhile_not ..).symm

/-- The entries stay when more headings are read. -/
lemma entries_prefix (outline : Outline) (headings : List Heading) :
    outline.entries <+: (headings.foldl push outline).entries := by
  induction headings generalizing outline with
  | nil => exact prefix_rfl
  | cons heading rest ih => exact (prefix_append _ _).trans (ih (outline.push heading))

/-- The entry of a heading depends on the headings before it only. -/
lemma getElem?_entries_ofHeadings (before : List Heading) (heading : Heading)
    (after : List Heading) :
    (ofHeadings (before ++ heading :: after)).entries[before.length]?
      = some ⟨heading, ((ofHeadings before).path.find? (·.2.isAbove heading)).map (·.1)⟩ := by
  have read : ofHeadings (before ++ heading :: after)
      = after.foldl push ((ofHeadings before).push heading) := by
    rw [ofHeadings, foldl_append]
    rfl
  have here : ((ofHeadings before).push heading).entries[before.length]?
      = some ⟨heading, ((ofHeadings before).path.find? (·.2.isAbove heading)).map (·.1)⟩ := by
    rw [← length_entries_ofHeadings before, push, head?_openAbove, getElem?_concat_length]
  obtain ⟨later, whole⟩ := entries_prefix ((ofHeadings before).push heading) after
  obtain ⟨inside, -⟩ := List.getElem?_eq_some_iff.1 here
  rw [read, ← whole, getElem?_append_left inside, here]

/-! ## The search for the heading above -/

lemma find?_dropWhile_of_imp {α : Type} {p q : α → Bool} (imp : ∀ a, p a = true → q a = true)
    (l : List α) :
    (l.dropWhile (!q ·)).find? p = l.find? p := by
  induction l with
  | nil => rfl
  | cons a rest ih =>
      cases isKept : q a with
      | true => rw [dropWhile_cons_of_neg (by simp [isKept])]
      | false =>
          have skipped : p a = false := by
            rw [← Bool.not_eq_true]
            intro found
            rw [imp a found] at isKept
            cases isKept
          rw [dropWhile_cons_of_pos (by simp [isKept]), ih, find?_cons_of_neg (by simp [skipped])]

/-- One more heading is found if it is above, and hides no other one if it is not. -/
lemma find?_path_concat (before : List Heading) (other heading : Heading) :
    (ofHeadings (before ++ [other])).path.find? (·.2.isAbove heading)
      = if other.isAbove heading then some (before.length, other)
        else (ofHeadings before).path.find? (·.2.isAbove heading) := by
  rw [ofHeadings_concat, push, find?_cons, length_entries_ofHeadings]
  cases closed : other.isAbove heading with
  | true => rfl
  | false =>
      exact find?_dropWhile_of_imp (fun _ above => Heading.isAbove_of_not_isAbove above closed) _

/-- A place in a list with one more element is the last one, or a place in the list before. -/
lemma concat_eq_append_cons_iff {α : Type} {before earlier later : List α} {last a : α} :
    before ++ [last] = earlier ++ a :: later ↔
      (later = [] ∧ before = earlier ∧ last = a)
        ∨ ∃ between, later = between ++ [last] ∧ before = earlier ++ a :: between := by
  constructor
  · intro split
    rcases eq_nil_or_concat' later with rfl | ⟨between, end_, rfl⟩
    · obtain ⟨isBefore, same⟩ := append_inj' split rfl
      exact .inl ⟨rfl, isBefore, (cons.inj same).1⟩
    · rw [← cons_append, ← append_assoc] at split
      obtain ⟨isBefore, same⟩ := append_inj' split rfl
      exact .inr ⟨between, by rw [(cons.inj same).1], isBefore⟩
  · rintro (⟨rfl, rfl, rfl⟩ | ⟨between, rfl, rfl⟩)
    · rfl
    · rw [append_assoc, cons_append]

/-- The search finds the last heading that is above. -/
lemma find?_path_eq_some_iff :
    (ofHeadings before).path.find? (·.2.isAbove heading) = some (position, outer) ↔
    ∃ earlier later, before = earlier ++ outer :: later ∧ earlier.length = position
      ∧ outer.isAbove heading = true
      ∧ ∀ other ∈ later, other.isAbove heading = false := by
  induction before using reverseRecOn with
  | nil => simp [ofHeadings, empty]
  | append_singleton before last ih =>
      rw [find?_path_concat]
      cases isAbove : last.isAbove heading with
      | true =>
          rw [if_pos rfl, Option.some_inj, Prod.mk.injEq]
          constructor
          · rintro ⟨rfl, rfl⟩
            exact ⟨before, [], rfl, rfl, isAbove, nofun⟩
          · rintro ⟨earlier, later, split, rfl, -, noneLater⟩
            rcases concat_eq_append_cons_iff.1 split with ⟨rfl, rfl, rfl⟩ | ⟨between, rfl, rfl⟩
            · exact ⟨rfl, rfl⟩
            · -- the last heading would be among those that are not above
              rw [noneLater last (by simp)] at isAbove
              cases isAbove
      | false =>
          rw [if_neg Bool.false_ne_true, ih]
          constructor
          · rintro ⟨earlier, later, rfl, here, above, noneLater⟩
            refine ⟨earlier, later ++ [last], by simp, here, above,
              forall_mem_append.2 ⟨noneLater, ?_⟩⟩
            simpa using isAbove
          · rintro ⟨earlier, later, split, here, above, noneLater⟩
            rcases concat_eq_append_cons_iff.1 split with ⟨rfl, rfl, rfl⟩ | ⟨between, rfl, rfl⟩
            · rw [above] at isAbove
              cases isAbove
            · exact ⟨earlier, between, rfl, here, above, (forall_mem_append.1 noneLater).1⟩

/-- The position that is found is that of the last heading above. -/
lemma map_find?_path_eq_some_iff :
    ((ofHeadings before).path.find? (·.2.isAbove heading)).map (·.1) = some position ↔
    ∃ earlier outer later, before = earlier ++ outer :: later ∧ earlier.length = position
      ∧ outer.isAbove heading = true
      ∧ ∀ other ∈ later, other.isAbove heading = false := by
  rw [Option.map_eq_some_iff]
  constructor
  · rintro ⟨⟨position, outer⟩, found, rfl⟩
    obtain ⟨earlier, later, place⟩ := find?_path_eq_some_iff.1 found
    exact ⟨earlier, outer, later, place⟩
  · rintro ⟨earlier, outer, later, place⟩
    exact ⟨(position, outer), find?_path_eq_some_iff.2 ⟨earlier, later, place⟩, rfl⟩

/-- The search finds nothing if no heading is above. -/
lemma find?_path_eq_none_iff : (ofHeadings before).path.find? (·.2.isAbove heading) = none ↔
    ∀ other ∈ before, other.isAbove heading = false := by
  induction before using reverseRecOn with
  | nil => simp [ofHeadings, empty]
  | append_singleton before last ih =>
      rw [find?_path_concat, forall_mem_append, ← ih]
      cases isAbove : last.isAbove heading <;> simp [isAbove]

/-! ## Links between open headings -/

/-- A chain of headings with their positions: each stands at its position, belongs to the next one,
and stands behind it. -/
inductive Linked (entries : List OutlineEntry) : List (ℕ × Heading) → Prop
  | nil : Linked entries []
  | cons {position : ℕ} {heading : Heading} {chain : List (ℕ × Heading)}
      (here : entries[position]? = some ⟨heading, chain.head?.map (·.1)⟩)
      (behind : ∀ next ∈ chain.head?, next.1 < position) (linked : Linked entries chain) :
      Linked entries ((position, heading) :: chain)

namespace Linked

variable {entries : List OutlineEntry} {chain outerChain : List (ℕ × Heading)}

lemma suffix (h : Linked entries chain) (isSuffix : outerChain <:+ chain) :
    Linked entries outerChain := by
  induction h with
  | nil => exact suffix_nil.1 isSuffix ▸ .nil
  | cons here behind linked ih =>
      rcases suffix_cons_iff.1 isSuffix with rfl | inner
      · exact .cons here behind linked
      · exact ih inner

lemma lt_length (h : Linked entries chain) : ∀ next ∈ chain.head?, next.1 < entries.length := by
  cases h with
  | nil => exact nofun
  | cons here behind linked =>
      rintro _ ⟨⟩
      exact (List.getElem?_eq_some_iff.1 here).1

lemma append (h : Linked entries chain) (more : List OutlineEntry) :
    Linked (entries ++ more) chain := by
  induction h with
  | nil => exact .nil
  | cons here behind linked ih =>
      refine .cons ?_ behind ih
      rw [getElem?_append_left (List.getElem?_eq_some_iff.1 here).1, here]

/-- One more heading extends what is left open by it. -/
lemma push {outline : Outline} (h : Linked outline.entries outline.path) (heading : Heading) :
    Linked (outline.push heading).entries (outline.push heading).path := by
  have left : Linked outline.entries (outline.openAbove heading) := h.suffix (dropWhile_suffix _)
  exact .cons getElem?_concat_length left.lt_length (left.append _)

/-- The links lead along the chain. -/
lemma ancestry {outline : Outline} (h : Linked outline.entries chain) :
    ∀ first ∈ chain.head?, outline.ancestry first.1 = chain.map (·.2.title) := by
  induction h with
  | nil => exact nofun
  | @cons position heading chain here behind linked ih =>
      rintro _ ⟨⟩
      rw [Outline.ancestry, here]
      cases chain with
      | nil => rfl
      | cons next chain =>
          dsimp only [head?_cons, Option.map_some]
          rw [if_pos (behind next rfl), ih next rfl]
          rfl

end Linked

lemma linked_ofHeadings (headings : List Heading) :
    Linked (ofHeadings headings).entries (ofHeadings headings).path := by
  induction headings using reverseRecOn with
  | nil => exact .nil
  | append_singleton before heading ih => exact ofHeadings_concat before heading ▸ ih.push heading

/-- The titles that are open behind a heading are its own and those that it belongs to. -/
lemma openTitles_push (before : List Heading) (heading : Heading) :
    ((ofHeadings before).push heading).openTitles
      = ((ofHeadings before).push heading).ancestry before.length := by
  have first := ((linked_ofHeadings before).push heading).ancestry _ rfl
  rw [length_entries_ofHeadings] at first
  exact first.symm

/-! ## Nesting -/

lemma mem_roots_iff {outline : Outline} {entry : OutlineEntry}
    (here : outline.entries[position]? = some entry) :
    position ∈ outline.roots ↔ entry.parent = none := by
  rw [roots, mem_filter, mem_range, here, Option.any_some, Option.isNone_iff_eq_none]
  exact and_iff_right (List.getElem?_eq_some_iff.1 here).1

/-- **A heading belongs to the nearest heading before it that is of a lower level.**

* It belongs to the one at a position exactly if this one is of a lower level, and no heading
  between is.
* It belongs to no heading, and is at the top of the outline, exactly if no heading before it is of
  a lower level.  So are all headings of the first level.
* Behind it, the open titles are its own and those of the headings that it belongs to, from the
  inside outwards. -/
theorem nested_under_nearest (before : List Heading) (heading : Heading) (after : List Heading)
    (levels : ∀ other ∈ before, 1 ≤ other.level) :
    let outline := Outline.ofHeadings (before ++ heading :: after)
    let pushed := (Outline.ofHeadings before).push heading
    ∃ parent, outline.entries[before.length]? = some ⟨heading, parent⟩
      ∧ (∀ position, parent = some position ↔
        ∃ earlier outer later, before = earlier ++ outer :: later
        ∧ earlier.length = position ∧ outer.level < heading.level ∧ ∀ other ∈ later,
          heading.level ≤ other.level)
      ∧ (parent = none ↔ ∀ other ∈ before, heading.level ≤ other.level)
      ∧ (before.length ∈ outline.roots ↔ ∀ other ∈ before, heading.level ≤ other.level)
      ∧ (heading.level = 1 → before.length ∈ outline.roots)
      ∧ pushed.openTitles = pushed.ancestry before.length := by
  intro outline pushed
  have here := getElem?_entries_ofHeadings before heading after
  have above_iff (other : Heading) (mem : other ∈ before) : other.isAbove heading = true ↔
      other.level < heading.level :=
    Heading.isAbove_iff_of_pos (levels other mem)
  have notAbove_iff (other : Heading) (mem : other ∈ before) : other.isAbove heading = false ↔
      heading.level ≤ other.level := by
    rw [← Bool.not_eq_true, above_iff other mem, not_lt]
  have none_iff : (((ofHeadings before).path.find? (·.2.isAbove heading)).map (·.1)) = none ↔
      ∀ other ∈ before, heading.level ≤ other.level := by
    rw [Option.map_eq_none_iff, find?_path_eq_none_iff]
    exact forall₂_congr notAbove_iff
  have isRoot_iff : before.length ∈ outline.roots ↔ ∀ other ∈ before, heading.level ≤ other.level :=
    (mem_roots_iff here).trans none_iff
  refine ⟨_, here, fun position => ?_, none_iff, isRoot_iff, fun first =>
    isRoot_iff.2 fun other mem => ?_,
    openTitles_push before heading⟩
  · rw [map_find?_path_eq_some_iff]
    refine exists₃_congr fun earlier outer later => and_congr_right fun split =>
      and_congr_right fun _ => ?_
    subst split
    have later_iff : ∀ other ∈ later, other.isAbove heading = false ↔ heading.level ≤ other.level :=
      fun other mem => notAbove_iff other (by simp [mem])
    rw [above_iff outer (by simp), forall₂_congr later_iff]
  · rw [first]
    exact levels other mem

/-- A title with headings of the third and the second level. -/
def steppedHeadings : List Heading :=
  [⟨1, "Title", 1⟩, ⟨3, "Deep", 2⟩, ⟨2, "Shallow", 3⟩]

/-- A heading of the third level belongs to that of the second level before it, and another title to
nothing. -/
theorem stepped_nested_under_nearest :
    (∀ other ∈ steppedHeadings, 1 ≤ other.level)
      ∧ (Outline.ofHeadings (steppedHeadings ++ [⟨3, "Inner", 4⟩])).entries[3]?
        = some ⟨⟨3, "Inner", 4⟩, some 2⟩
      ∧ ((Outline.ofHeadings steppedHeadings).push ⟨3, "Inner", 4⟩).ancestry 3
        = ["Inner", "Shallow", "Title"]
      ∧ 3 ∈ (Outline.ofHeadings (steppedHeadings ++ [⟨1, "Second", 4⟩])).roots := by
  have levels : ∀ other ∈ steppedHeadings, 1 ≤ other.level := by decide
  obtain ⟨parent, here, nearest, -, -, -, titles⟩ :=
    nested_under_nearest steppedHeadings ⟨3, "Inner", 4⟩ [] levels
  obtain ⟨-, -, -, -, -, isTop, -⟩ :=
    nested_under_nearest steppedHeadings ⟨1, "Second", 4⟩ [] levels
  have belongs : parent = some 2 :=
    (nearest 2).2 ⟨steppedHeadings.take 2, ⟨2, "Shallow", 3⟩, [], rfl, rfl, by decide, nofun⟩
  exact ⟨levels, belongs ▸ here, titles.symm, isTop rfl⟩

end Outline

end DocAudit
