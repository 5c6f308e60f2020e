import DocAudit.Proofs.Page.Cells
import DocAudit.Proofs.ValueType.Specificity
import DocAudit.ValueType.Description

/-!
# Ways to write a collection

A collection is written in four ways: `Collection(x)`, `Collection of x`, `x collection` and `x[]`
(`Phrasing`).  Each says the same about its elements: a description of them is found again as it was
written (`elementText?_write`), so reading a collection is reading its elements, with one more
dimension (`read_write`).

Descriptions of elements are found again if nothing is cleaned off them and they do not begin with
`Collection of` themselves (`IsElement`).  What is written in one of the three other ways is such a
description, so these ways may be nested in any order (`IsElement.writeNested`).
-/

namespace DocAudit

open List

/-! ## Collections -/

namespace ValueType

/-- The number of dimensions of a collection; other types have none. -/
def dimensions : ValueType → ℕ
  | .collection _ dimensions => dimensions
  | _ => 0

/-- Each layer around a type that is no collection is one dimension. -/
lemma repeat_collectionOf {type : ValueType} (flat : type.isCollection = false) (layers : ℕ) :
    (layers.repeat collectionOf type).dimensions = layers
      ∧ (layers.repeat collectionOf type).element = type := by
  cases layers with
  | zero =>
      cases type with
      | collection element dimensions => cases flat
      | _ => exact ⟨rfl, rfl⟩
  | succ layers =>
      rw [repeat_succ_collectionOf flat]
      exact ⟨rfl, rfl⟩

end ValueType

namespace TypeDescription

variable {naming : TypeNaming} {description inner text tail : List Char}
  {fallback : Option ValueType}

/-! ## Layer by layer -/

/-- More layers than a description can have make no difference. -/
lemma peelAtMost_congr {bound other : ℕ} (enough : description.length ≤ bound)
    (more : description.length ≤ other) :
    peelAtMost bound description = peelAtMost other description := by
  fun_induction peelAtMost bound description generalizing other with
  | case1 description =>
      rw [length_eq_zero_iff.1 (Nat.le_zero.1 enough)]
      cases other <;> rfl
  | case2 bound description inner found ih =>
      have shorter := length_elementText_lt found
      have noLonger := length_bareCell_le description
      obtain ⟨other, rfl⟩ : ∃ less, other = less + 1 := Nat.exists_eq_succ_of_ne_zero (by omega)
      have inside := ih (by omega) (show inner.length ≤ other by omega)
      rw [peelAtMost, found, inside]
  | case3 bound description noElement =>
      cases other with
      | zero => rfl
      | succ other => rw [peelAtMost, noElement]

/-- The first layer of a collection, and the layers inside of it. -/
lemma peel_of_some (found : elementText? (bareCell description) = some inner) :
    peel description = ((peel inner).1 + 1, (peel inner).2) := by
  have shorter := length_elementText_lt found
  have noLonger := length_bareCell_le description
  obtain ⟨bound, long⟩ : ∃ bound, description.length = bound + 1 :=
    Nat.exists_eq_succ_of_ne_zero (by omega)
  have inside : peelAtMost bound inner = peel inner := peelAtMost_congr (by omega) (Nat.le_refl _)
  rw [peel, long, peelAtMost, found, ← inside]

lemma peel_of_none (noElement : elementText? (bareCell description) = none) :
    peel description = (0, description) := by
  rw [peel, peelAtMost_congr (Nat.le_refl _) (Nat.le_succ description.length),
    peelAtMost, noElement]

/-- **A collection is read by reading its elements.**  The elements fall back on the elements of the
type that the whole falls back on. -/
lemma read_of_some (found : elementText? (bareCell description) = some inner) :
    read naming description fallback
      = ValueType.collectionOf <$> read naming inner (fallback.map ValueType.element) := by
  have inside (layers : ℕ) (type : ValueType) :
      (layers + 1).repeat ValueType.element type
        = layers.repeat ValueType.element type.element := by
    induction layers with
    | zero => rfl
    | succ layers ih => rw [Nat.repeat, ih, Nat.repeat]
  simp only [read, peel_of_some found, Option.map_map, map_bind, map_pure]
  simp only [Function.comp_def, ← inside]
  rfl

/-- What is no collection is read as a whole. -/
lemma read_of_none (noElement : elementText? (bareCell description) = none) :
    read naming description fallback = readElement naming description fallback := by
  have itself : fallback.map (Nat.repeat ValueType.element 0) = fallback := by
    cases fallback <;> rfl
  simp only [read, peel_of_none noElement, itself]
  exact bind_pure _

lemma readIn_false : readIn naming (.ofList text) false fallback = read naming text fallback := by
  rw [readIn, String.toList_ofList]
  exact bind_pure _

/-! ## Phrasings -/

/-- The ways to write a collection: `Collection(x)`, `Collection of x`, `x collection` and `x[]`. -/
inductive Phrasing where
  | brackets
  | preposition
  | noun
  | squares
  deriving DecidableEq

namespace Phrasing

/-- What stands before the elements. -/
def before : Phrasing → String
  | brackets => "Collection("
  | preposition => "Collection of "
  | noun | squares => ""

/-- What stands behind the elements. -/
def after : Phrasing → String
  | brackets => ")"
  | preposition => ""
  | noun => " collection"
  | squares => "[]"

/-- The description of a collection of some elements. -/
def write (phrasing : Phrasing) (element : List Char) : List Char :=
  phrasing.before.toList ++ element ++ phrasing.after.toList

end Phrasing

/-- A description that is found again in that of a collection: nothing is cleaned off it, and
followed by a space it does not begin with `Collection of`. -/
structure IsElement (text : List Char) : Prop where
  bare : bareCell text = text
  nonempty : text ≠ []
  apart : Text.dropStartIgnoringAsciiCase? "collection of ".toList (text ++ [' ']) = none

/-! ## Finding the elements again -/

/-- Writing a collection adds nothing that is cleaned off. -/
lemma isBareCell_write (phrasing : Phrasing) (bare : IsBareCell text) (nonempty : text ≠ []) :
    IsBareCell (phrasing.write text) := by
  have first : ∀ c ∈ phrasing.before.toList.head?, IsFirm c :=
    isFirm_of_all (by cases phrasing <;> decide)
  have last : ∀ c ∈ phrasing.after.toList.getLast?, IsFirm c :=
    isFirm_of_all (by cases phrasing <;> decide)
  refine bare.around nonempty first last ?_ ?_ ?_ ?_
  · cases phrasing <;> decide
  · cases phrasing <;> decide
  · cases phrasing <;> decide
  · cases phrasing with
    | brackets | preposition => exact unemphasized?_eq_none_of_first (by simp [Phrasing.before])
    | noun | squares =>
        exact unemphasized?_eq_none_of_last (by simp [Phrasing.before, Phrasing.after])

/-- A description that does not begin with `Collection of` does not do so with some other text
behind it, if no end of `Collection of` longer than the space is the start of that text. -/
lemma apart_append
    (apart : Text.dropStartIgnoringAsciiCase? "collection of ".toList (text ++ [' ']) = none)
    (notEnd : ∀ n < 15, 2 ≤ n →
      (tail.take n).map Char.toLower ≠ "collection of ".toList.drop (14 - n)) :
    Text.dropStartIgnoringAsciiCase? "collection of ".toList (text ++ tail) = none := by
  have never {written more : List Char}
      (equal : Text.equalIgnoringAsciiCase written "collection of ".toList = true) :
      text ++ [' '] ≠ written ++ more := by
    intro whole
    have found := Text.dropStartIgnoringAsciiCase?_eq_some_iff.2 ⟨written, whole, equal⟩
    rw [apart] at found
    cases found
  refine Option.eq_none_iff_forall_ne_some.2 fun rest found => ?_
  obtain ⟨written, whole, equal⟩ := Text.dropStartIgnoringAsciiCase?_eq_some_iff.1 found
  have length := Text.length_eq_of_equalIgnoringAsciiCase equal
  rcases append_eq_append_iff.1 whole with ⟨start, rfl, rfl⟩ | ⟨more, rfl, rfl⟩
  · -- the words end in the text behind the description
    have lowered : start.map Char.toLower = "collection of ".toList.drop text.length := by
      have same := congrArg (List.drop text.length) (eq_of_beq equal)
      rw [map_append, drop_left' (length_map _)] at same
      rw [same]
      rfl
    have long : text.length + start.length = 14 := by simpa using length
    match start, lowered with
    | [], _ => exact never (by simpa using equal) rfl
    | [c], lowered =>
        have isSpace : c.toLower = ' ' := by
          have here : text.length = 13 := by simpa using long
          rw [here] at lowered
          simpa using lowered
        have space := Text.eq_of_toLower_eq (by decide) isSpace
        rw [space] at equal
        exact never equal (append_nil _).symm
    | c :: d :: start, lowered =>
        refine notEnd (c :: d :: start).length (by omega) (by simp) ?_
        rw [take_left, lowered, ← long, Nat.add_sub_cancel]
  · exact never equal (append_assoc written more [' '])

/-- The words around the elements of a collection do not begin with `Collection of`, unless they are
these words. -/
lemma IsElement.write (h : IsElement text) {phrasing : Phrasing} (other : phrasing ≠ .preposition) :
    IsElement (phrasing.write text) where
  bare :=
    bareCell_eq_self_iff.2 (isBareCell_write phrasing (bareCell_eq_self_iff.1 h.bare) h.nonempty)
  nonempty := by
    have nonempty := h.nonempty
    simp [Phrasing.write, nonempty]
  apart := by
    rw [Phrasing.write]
    cases phrasing with
    | brackets =>
        simp only [append_assoc]
        exact Text.dropStartIgnoringAsciiCase?_append_eq_none (by decide)
    | preposition => exact absurd rfl other
    | noun =>
        rw [append_assoc]
        exact apart_append h.apart (by decide)
    | squares =>
        rw [append_assoc]
        exact apart_append h.apart (by decide)

/-- No brackets are around a text that does not end with one. -/
lemma elementText?_of_last (trimmed : Text.trim text = text)
    (unclosed : ∀ c ∈ text.getLast?, c ≠ ')') :
    elementText? text = (Text.dropStartIgnoringAsciiCase? "collection of ".toList text <|>
      Text.dropEndIgnoringAsciiCase? " collection".toList text <|> "[]".toList.isSuffixOf? text).map
        Text.trim := by
  have noBrackets : ((Text.dropStartIgnoringAsciiCase? "collection(".toList text).bind
      ([')'] : List Char).isSuffixOf?) = none := by
    refine Option.eq_none_iff_forall_ne_some.2 fun inner found => ?_
    obtain ⟨rest, opened, closed⟩ := Option.bind_eq_some_iff.1 found
    obtain ⟨written, whole, -⟩ := Text.dropStartIgnoringAsciiCase?_eq_some_iff.1 opened
    rw [Text.eq_append_of_isSuffixOf? closed, ← append_assoc] at whole
    exact unclosed ')' (by rw [whole, getLast?_concat]; rfl) rfl
  simp only [elementText?, trimmed, Option.bind_eq_bind, noBrackets]
  rfl

/-- **The elements of a collection are found again**, in whatever way it is written. -/
theorem elementText?_write (h : IsElement text) (phrasing : Phrasing) :
    elementText? (bareCell (phrasing.write text)) = some text := by
  have bare := bareCell_eq_self_iff.1 h.bare
  have whole := isBareCell_write phrasing bare h.nonempty
  have trimmed := whole.trim_eq
  rw [bareCell_eq_self_iff.2 whole]
  cases phrasing with
  | brackets =>
      have opened : Text.dropStartIgnoringAsciiCase? "collection(".toList
          (Phrasing.brackets.write text)
          = some (text ++ [')']) :=
        Text.dropStartIgnoringAsciiCase?_eq_some_iff.2 ⟨_, append_assoc _ _ _, by decide⟩
      have closed : ([')'] : List Char).isSuffixOf? (text ++ [')']) = some text :=
        Text.isSuffixOf?_append
      simp only [elementText?, trimmed, opened, Option.bind_eq_bind, Option.bind_some, closed]
      exact congrArg some bare.trim_eq
  | preposition =>
      have unopened : Text.dropStartIgnoringAsciiCase? "collection(".toList
          (Phrasing.preposition.write text)
          = none := by
        rw [Phrasing.write, append_assoc]
        exact Text.dropStartIgnoringAsciiCase?_append_eq_none (by decide)
      have found : Text.dropStartIgnoringAsciiCase? "collection of ".toList
          (Phrasing.preposition.write text)
          = some text :=
        Text.dropStartIgnoringAsciiCase?_eq_some_iff.2 ⟨_, append_nil _, by decide⟩
      simp only [elementText?, trimmed, unopened, found, Option.bind_eq_bind, Option.bind_none]
      exact congrArg some bare.trim_eq
  | noun =>
      have last : ∀ c ∈ (Phrasing.noun.write text).getLast?, c ≠ ')' := by
        simp [Phrasing.write, Phrasing.after]
      have apart : Text.dropStartIgnoringAsciiCase? "collection of ".toList
          (Phrasing.noun.write text) = none :=
        apart_append h.apart (by decide)
      have found : Text.dropEndIgnoringAsciiCase? " collection".toList (Phrasing.noun.write text)
          = some text :=
        Text.dropEndIgnoringAsciiCase?_eq_some_iff.2 ⟨_, rfl, by decide⟩
      rw [elementText?_of_last trimmed last, apart, found]
      exact congrArg some bare.trim_eq
  | squares =>
      have last : ∀ c ∈ (Phrasing.squares.write text).getLast?, c ≠ ')' := by
        simp [Phrasing.write, Phrasing.after]
      have apart : Text.dropStartIgnoringAsciiCase? "collection of ".toList
          (Phrasing.squares.write text) = none :=
        apart_append h.apart (by decide)
      have noNoun : Text.dropEndIgnoringAsciiCase? " collection".toList
          (Phrasing.squares.write text) = none :=
        Text.dropEndIgnoringAsciiCase?_append_eq_none (by decide)
      have found : "[]".toList.isSuffixOf? (Phrasing.squares.write text) = some text :=
        Text.isSuffixOf?_append
      rw [elementText?_of_last trimmed last, apart, noNoun, found]
      exact congrArg some bare.trim_eq

/-- **A collection is read by reading its elements**, in whatever way it is written. -/
theorem read_write (h : IsElement text) (phrasing : Phrasing) :
    read naming (phrasing.write text) fallback
      = ValueType.collectionOf <$> read naming text (fallback.map ValueType.element) :=
  read_of_some (elementText?_write h phrasing)

/-! ## Nested collections -/

/-- A description of collections in collections, the outermost one first. -/
def writeNested (phrasings : List Phrasing) (text : List Char) : List Char :=
  phrasings.foldr Phrasing.write text

lemma IsElement.writeNested (h : IsElement text) {phrasings : List Phrasing}
    (others : .preposition ∉ phrasings) :
    IsElement (writeNested phrasings text) := by
  induction phrasings with
  | nil => exact h
  | cons phrasing inside ih =>
      rw [mem_cons, not_or] at others
      exact (ih others.2).write (Ne.symm others.1)

/-- Each of the nested collections adds a dimension, and none adds a finding. -/
lemma read_writeNested (h : IsElement text) {phrasings : List Phrasing}
    (others : .preposition ∉ phrasings) :
    read naming (writeNested phrasings text) none
      = (phrasings.length.repeat ValueType.collectionOf) <$> read naming text none := by
  induction phrasings with
  | nil => exact (id_map _).symm
  | cons phrasing inside ih =>
      rw [mem_cons, not_or] at others
      change read naming (phrasing.write (TypeDescription.writeNested inside text)) none = _
      rw [read_write (h.writeNested others.2), Option.map_none, ih others.2, Functor.map_map]
      rfl

/-- **The four ways to write a collection say the same**, if nothing is cleaned off the description
of the elements and it does not begin with `Collection of`.

* The collection has the type that is read from the description of the elements, and the same
  findings are made.
* So collections may be nested in three of the ways, in any order.  There are as many dimensions as
  collections around a description that is none. -/
theorem phrasings_interchangeable (naming : TypeNaming) {text : List Char}
    (bare : bareCell text = text) (nonempty : text ≠ [])
    (apart : Text.dropStartIgnoringAsciiCase? "collection of ".toList (text ++ [' ']) = none) :
    let parse (text : List Char) := readIn naming (.ofList text) false none
    (∀ phrasing : Phrasing,
      (parse (phrasing.write text)).value = ValueType.collectionOf (parse text).value
        ∧ (parse (phrasing.write text)).issues = (parse text).issues)
      ∧ ((parse text).value.isCollection = false → ∀ phrasings : List Phrasing,
        .preposition ∉ phrasings →
        (parse (writeNested phrasings text)).value.dimensions = phrasings.length
          ∧ (parse (writeNested phrasings text)).value.element = (parse text).value
          ∧ (parse (writeNested phrasings text)).issues = (parse text).issues) := by
  intro parse
  have element : IsElement text := ⟨bare, nonempty, apart⟩
  simp only [parse, readIn_false]
  refine ⟨fun phrasing => ?_, fun flat phrasings others => ?_⟩
  · rw [read_write element]
    exact ⟨rfl, Audit.issues_map _ _⟩
  · obtain ⟨dimensions, elements⟩ := ValueType.repeat_collectionOf flat phrasings.length
    rw [read_writeNested element others]
    exact ⟨dimensions, elements, Audit.issues_map _ _⟩

/-- Three layers around a name, each written in another way. -/
theorem layers_of_colors :
    writeNested [.brackets, .squares, .noun] "color".toList
      = "Collection(color collection[])".toList
      ∧ (readIn ⟨none, []⟩ "Collection(color collection[])" false none).value.dimensions = 3 := by
  have bare : bareCell "color".toList = "color".toList := by decide
  have flat : (readIn ⟨none, []⟩ (.ofList "color".toList) false none).value.isCollection
      = false := by decide
  have read := phrasings_interchangeable ⟨none, []⟩ bare (by decide) (by decide)
  exact ⟨rfl, (read.2 flat [.brackets, .squares, .noun] (by decide)).1⟩

end TypeDescription

end DocAudit
