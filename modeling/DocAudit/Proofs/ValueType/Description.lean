import DocAudit.Proofs.Page.Cells
import DocAudit.Proofs.Text.Untouched
import DocAudit.ValueType.Description

/-!
# Names in descriptions of types

What name the type has that is read from a description.  `nameRead` gives it without the type, the
layers of collections and the findings, and `customName_readIn` says that it is the one.

Most names are plain: they have no blank and none of the marks of cells, links and collections in
them.  Reading takes them as a whole (`IsPlain`), so what it makes of a plain name is a well-known
type, or the name as names are compared (`nameRead_of_isPlain`).
-/

namespace DocAudit

/-! ## Collections -/

namespace ValueType

/-- A collection has the name of its elements. -/
lemma customName_collectionOf (type : ValueType) :
    (collectionOf type).customName = type.customName := by
  cases type <;> rfl

lemma customName_repeat_collectionOf (layers : ℕ) (type : ValueType) :
    (layers.repeat collectionOf type).customName = type.customName := by
  induction layers with
  | zero => rfl
  | succ layers ih => rw [Nat.repeat, customName_collectionOf, ih]

end ValueType

namespace TypeDescription

open List

variable {naming : TypeNaming} {name description : List Char} {fallback : Option ValueType}

/-! ## Names that are read -/

/-- Whether a name can be that of a type: a single word without slashes. -/
def isWord (name : List Char) : Bool :=
  !(name.isEmpty || name.any Text.isBlank || name.contains '/')

/-- The name in a description that is not one of a collection, and whether `enum` stands behind
it. -/
def wordOf (description : List Char) : List Char × Bool :=
  let word := withoutLink (bareCell description)
  match Text.dropEndIgnoringAsciiCase? " enum".toList word with
  | some base => (Text.trim base, true)
  | none => (word, false)

/-- The name of the type that is read from a description, if it is one that has a name.

A well-known word stands for a type without a name.  A word is written as names are compared.  If
there is no word, the name is that of the type to fall back on, or all that the description says. -/
def nameRead (naming : TypeNaming) (description : List Char) (fallback : Option ValueType) :
    Option String :=
  let (layers, inner) := peel description
  let (word, isEnum) := wordOf inner
  if !isEnum && (wellKnown? word).isSome then none
  else if isWord word then some (.ofList (naming.normalize word))
  else match fallback with
    | some type => (layers.repeat ValueType.element type).customName
    | none => some (.ofList (Text.trim inner))

lemma object?_eq (naming : TypeNaming) (name : List Char) (isEnum : Bool) :
    object? naming name isEnum =
      if isWord name then some (.object (some (.ofList (naming.normalize name))) isEnum none)
      else none := by
  rw [object?, isWord]
  cases name.isEmpty || name.any Text.isBlank || name.contains '/' <;> rfl

/-- What the name in a description says about the type. -/
lemma named?_eq (naming : TypeNaming) (description : List Char) :
    named? naming (withoutLink (bareCell description)) =
      if !(wordOf description).2 && (wellKnown? (wordOf description).1).isSome then
        (wellKnown? (wordOf description).1).map .simple
      else object? naming (wordOf description).1 (wordOf description).2 := by
  rw [named?, wordOf]
  cases Text.dropEndIgnoringAsciiCase? " enum".toList (withoutLink (bareCell description)) with
  | some base => rfl
  | none =>
      cases wellKnown? (withoutLink (bareCell description)) with
      | none => simp
      | some type => simp

/-- **The type that is read has the name that is read.** -/
lemma customName_readIn (naming : TypeNaming) (description : String) (isCollection : Bool)
    (fallback : Option ValueType) :
    (readIn naming description isCollection fallback).value.customName
      = nameRead naming description.toList fallback := by
  have hint : (readIn naming description isCollection fallback).value.customName
      = (read naming description.toList fallback).value.customName := by
    rw [readIn, Audit.value_bind, Audit.value_pure]
    split
    · rw [ValueType.customName_collectionOf]
    · rfl
  rw [hint, read, nameRead]
  simp only [Audit.value_bind, Audit.value_pure, ValueType.customName_repeat_collectionOf]
  rw [readElement, named?_eq, object?_eq]
  split_ifs with known word
  · obtain ⟨type, isType⟩ := Option.isSome_iff_exists.1 (Bool.and_eq_true_iff.1 known).2
    rw [isType]
    rfl
  · rfl
  · cases fallback with
    | none => rfl
    | some type => rfl

/-! ## Plain names -/

/-- The marks of cells, links, collections and paths. -/
def marks : List Char := ['|', '\x60', '*', '<', '[', ']', '(', ')', '/', '#']

/-- A name without marks and blanks.  What an underscore at the start may mean is a mark as well. -/
structure IsPlain (name : List Char) : Prop where
  nonempty : name ≠ []
  noBlank : ∀ c ∈ name, Text.isBlank c = false
  noMark : ∀ c ∈ name, c ∉ marks
  start : name.head? ≠ some '_'

/-- Looking at each character tells whether a name is plain. -/
lemma isPlain_of_all (nonempty : name ≠ [])
    (unmarked : (name.all fun c => !(Text.isBlank c || marks.contains c)) = true)
    (start : name.head? ≠ some '_') : IsPlain name := by
  have each : ∀ c ∈ name, Text.isBlank c = false ∧ c ∉ marks := by
    simpa using unmarked
  exact ⟨nonempty, fun c mem => (each c mem).1, fun c mem => (each c mem).2, start⟩

lemma IsPlain.mark_not_mem (plain : IsPlain name) {mark : Char} (isMark : mark ∈ marks) :
    mark ∉ name :=
  fun mem => plain.noMark mark mem isMark

lemma IsPlain.space_not_mem (plain : IsPlain name) : ' ' ∉ name :=
  fun mem => absurd (plain.noBlank ' ' mem) (by decide)

lemma IsPlain.trim_eq (plain : IsPlain name) : Text.trim name = name :=
  Text.trimBy_eq_self plain.noBlank

/-- A plain name is what the cell says. -/
lemma IsPlain.bareCell_eq (plain : IsPlain name) : bareCell name = name := by
  have firm : ∀ c ∈ name, IsFirm c := by
    intro c mem
    refine ⟨plain.noBlank c mem, ?_⟩
    rw [beq_eq_false_iff_ne]
    rintro rfl
    exact plain.mark_not_mem (by decide) mem
  have noEmphasis : unemphasized? name = none := by
    refine unemphasized?_eq_none_of_first fun c mem => ⟨?_, ?_⟩
    · rintro rfl
      exact plain.mark_not_mem (by decide) (mem_of_head? mem)
    · rintro rfl
      exact plain.start mem
  exact bareCell_eq_self_iff.2 (.of_not_mem (fun c mem => firm c (mem_of_head? mem))
    (fun c mem => firm c (mem_of_getLast? mem)) (plain.mark_not_mem (by decide))
      (plain.mark_not_mem (by decide))
    noEmphasis)

/-- A plain name is no collection. -/
lemma IsPlain.elementText?_eq (plain : IsPlain name) : elementText? (bareCell name) = none := by
  have noBrackets : Text.dropStartIgnoringAsciiCase? "collection(".toList name = none :=
    Text.dropStartIgnoringAsciiCase?_eq_none (by decide) (by decide)
      (plain.mark_not_mem (show '(' ∈ marks by decide))
  have noStart : Text.dropStartIgnoringAsciiCase? "collection of ".toList name = none :=
    Text.dropStartIgnoringAsciiCase?_eq_none (by decide) (by decide) plain.space_not_mem
  have noEnd : Text.dropEndIgnoringAsciiCase? " collection".toList name = none :=
    Text.dropEndIgnoringAsciiCase?_eq_none (by decide) (by decide) plain.space_not_mem
  have noSuffix : "[]".toList.isSuffixOf? name = none := by
    refine Option.eq_none_iff_forall_ne_some.2 fun rest taken => ?_
    refine plain.mark_not_mem (show '[' ∈ marks by decide) ?_
    rw [Text.eq_append_of_isSuffixOf? taken]
    simp
  rw [elementText?, plain.bareCell_eq]
  simp only [plain.trim_eq, noBrackets, noStart, noEnd, noSuffix]
  rfl

lemma IsPlain.peel_eq (plain : IsPlain name) : peel name = (0, name) := by
  rw [peel]
  cases name.length with
  | zero => rfl
  | succ bound => rw [peelAtMost, plain.elementText?_eq]

/-- A plain name is no link, and `enum` does not stand behind it. -/
lemma IsPlain.wordOf_eq (plain : IsPlain name) : wordOf name = (name, false) := by
  have noLink : withoutLink name = name := by
    rw [withoutLink, plain.trim_eq]
    split
    · exact absurd List.mem_cons_self (plain.mark_not_mem (by decide))
    · rfl
  have noEnum : Text.dropEndIgnoringAsciiCase? " enum".toList name = none :=
    Text.dropEndIgnoringAsciiCase?_eq_none (by decide) (by decide) plain.space_not_mem
  rw [wordOf, plain.bareCell_eq, noLink, noEnum]

lemma IsPlain.isWord (plain : IsPlain name) : isWord name = true := by
  have noBlank : name.any Text.isBlank = false := by
    simpa using plain.noBlank
  have noSlash : '/' ∉ name := plain.mark_not_mem (by decide)
  simp [TypeDescription.isWord, plain.nonempty, noBlank, noSlash]

/-- **What is read from a plain name** is a well-known type, or the name as names are compared. -/
lemma nameRead_of_isPlain (plain : IsPlain name) : nameRead naming name fallback =
    if (wellKnown? name).isSome then none else some (.ofList (naming.normalize name)) := by
  simp [nameRead, plain.peel_eq, plain.wordOf_eq, plain.isWord]

end TypeDescription

end DocAudit
