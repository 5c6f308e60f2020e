import DocAudit.Proofs.Text.Words
import DocAudit.Proofs.TypeName
import DocAudit.Proofs.ValueType.Description
import DocAudit.Proofs.ValueType.Phrasings

/-!
# Links in descriptions of types

The name in a description may be written as a link, also inside of a collection (`read_link`,
`IsShown.isElement`).  What stands behind a link is not read, so `enum` behind a link says nothing,
and what a link shows is taken as a name, so a collection in a link is none.

`links_read_as_names` says how names written with letters, digits and points are read from links.  A
link that shows a collection is read like the collection only by chance, because the names of the
two types differ (`normalize_brackets_ne`).
-/

namespace DocAudit

open List

namespace TypeDescription

variable {naming : TypeNaming} {name shown target more description : List Char} {type : ValueType}
  {fallback : Option ValueType}

/-! ## Words -/

/-- A name of letters, digits and points is plain. -/
lemma isPlain_of_letters (nonempty : name ≠ [])
    (letters : ∀ c ∈ name, Text.isAlphanumeric c = true ∨ c = '.') :
    IsPlain name where
  nonempty := nonempty
  noBlank := by
    intro c mem
    rcases letters c mem with letter | rfl
    · exact Text.not_isBlank_of_isAlphanumeric letter
    · decide
  noMark := by
    have noLetter : ∀ mark ∈ marks, Text.isAlphanumeric mark = false ∧ mark ≠ '.' :=
      all_iff_forall_prop.1 (by decide +kernel)
    intro c mem isMark
    have different := noLetter c isMark
    rcases letters c mem with letter | point
    · rw [different.1] at letter
      cases letter
    · exact different.2 point
  start := by
    intro start
    rcases letters '_' (mem_of_head? start) with letter | point
    · exact absurd letter (by decide +kernel)
    · cases point

/-- The type that a single word stands for, without `enum` behind it. -/
def wordType (naming : TypeNaming) (word : List Char) : ValueType :=
  ((wellKnown? word).map .simple).getD (.object (some (.ofList (naming.normalize word))) false none)

lemma named?_of_isWord (noEnum : Text.dropEndIgnoringAsciiCase? " enum".toList name = none)
    (word : isWord name = true) : named? naming name = some (wordType naming name) := by
  rw [named?, noEnum, object?_eq, if_pos word, wordType]
  cases wellKnown? name <;> rfl

lemma named?_enum (trimmed : Text.trim name = name) (word : isWord name = true) :
    named? naming (name ++ " enum".toList)
      = some (.object (some (.ofList (naming.normalize name))) true none) := by
  have found : Text.dropEndIgnoringAsciiCase? " enum".toList (name ++ " enum".toList) = some name :=
    Text.dropEndIgnoringAsciiCase?_eq_some_iff.2 ⟨_, rfl, by decide⟩
  rw [named?, found]
  simp only [trimmed, object?_eq, if_pos word]

/-- What has a name is read as the type with the name. -/
lemma read_of_named (noElement : elementText? (bareCell description) = none)
    (named : named? naming (withoutLink (bareCell description)) = some type) :
    read naming description fallback = pure type := by
  rw [read_of_none noElement, readElement, named]
  rfl

/-! ## Links -/

/-- A link: the text that is shown, and the target. -/
def link (shown target : List Char) : List Char :=
  '[' :: (shown ++ "](".toList ++ target ++ [')'])

/-- A text that may be shown by a link in a cell. -/
structure IsShown (shown : List Char) : Prop where
  trimmed : Text.trim shown = shown
  closed : ']' ∉ shown
  clean : '<' ∉ shown ∧ '\x60' ∉ shown

/-- A link in a cell is no decoration. -/
lemma IsShown.isBareCell (h : IsShown shown) (clean : '<' ∉ target ∧ '\x60' ∉ target)
    (last : ∀ c ∈ more.getLast?, IsFirm c) (cleanMore : '<' ∉ more ∧ '\x60' ∉ more) :
    IsBareCell (link shown target ++ more) := by
  have opened : ∀ c ∈ (link shown target ++ more).head?, c = '[' := by
    simp [link]
  have firm : IsFirm '[' ∧ IsFirm ')' := by decide
  refine .of_not_mem ?_ ?_ ?_ ?_ ?_
  · intro c mem
    rw [opened c mem]
    exact firm.1
  · rw [getLast?_append, link, ← cons_append, getLast?_concat]
    intro c mem
    rcases Option.or_eq_some_iff.1 mem with here | ⟨-, bracket⟩
    · exact last c here
    · cases bracket
      exact firm.2
  · simp [link, h.clean.1, clean.1, cleanMore.1]
  · simp [link, h.clean.2, clean.2, cleanMore.2]
  · refine unemphasized?_eq_none_of_first fun c mem => ?_
    rw [opened c mem]
    decide

/-- What stands behind a link is not read. -/
lemma IsShown.withoutLink_eq (h : IsShown shown)
    (trimmed : Text.trim (link shown target ++ more) = link shown target ++ more) :
    withoutLink (link shown target ++ more) = shown := by
  have isCut : Text.cutFirst ']' (shown ++ "](".toList ++ target ++ [')'] ++ more)
      = some (shown, '(' :: (target ++ [')'] ++ more)) := by
    simp only [append_assoc]
    exact Text.cutFirst_append h.closed _
  rw [withoutLink, trimmed]
  simp only [link, cons_append, isCut]
  exact h.trimmed

/-- A link is no collection, unless a way to write one stands behind it. -/
lemma elementText?_link
    (trimmed : Text.trim (link shown target ++ more) = link shown target ++ more)
    (noNoun : Text.dropEndIgnoringAsciiCase? " collection".toList (link shown target ++ more)
      = none)
    (noSquares : "[]".toList.isSuffixOf? (link shown target ++ more) = none) :
    elementText? (link shown target ++ more) = none := by
  have opened : link shown target ++ more = ['['] ++ (link shown target ++ more).tail := rfl
  have noBrackets : Text.dropStartIgnoringAsciiCase? "collection(".toList
      (link shown target ++ more) = none := by
    rw [opened]
    exact Text.dropStartIgnoringAsciiCase?_append_eq_none (by decide)
  have noPreposition :
      Text.dropStartIgnoringAsciiCase? "collection of ".toList (link shown target ++ more)
        = none := by
    rw [opened]
    exact Text.dropStartIgnoringAsciiCase?_append_eq_none (by decide)
  simp only [elementText?, trimmed, noBrackets, noPreposition, noNoun, noSquares]
  rfl

namespace IsShown

variable (h : IsShown shown) (clean : '<' ∉ target ∧ '\x60' ∉ target)
include h clean

/-- A link is read as the name that it shows, whatever stands behind it. -/
lemma read_link_append (last : ∀ c ∈ more.getLast?, IsFirm c)
    (cleanMore : '<' ∉ more ∧ '\x60' ∉ more)
    (noNoun : Text.dropEndIgnoringAsciiCase? " collection".toList (link shown target ++ more)
      = none)
    (noSquares : "[]".toList.isSuffixOf? (link shown target ++ more) = none)
    (named : named? naming shown = some type) :
    read naming (link shown target ++ more) fallback = pure type := by
  have bare := h.isBareCell clean last cleanMore
  have itself := bareCell_eq_self_iff.2 bare
  refine read_of_named ?_ ?_
  · rw [itself]
    exact elementText?_link bare.trim_eq noNoun noSquares
  · rw [itself, h.withoutLink_eq bare.trim_eq, named]

lemma read_link (named : named? naming shown = some type) :
    read naming (link shown target) fallback = pure type := by
  have closed : link shown target = '[' :: (shown ++ "](".toList ++ target) ++ [')'] := rfl
  rw [← append_nil (link shown target)]
  refine h.read_link_append clean (by simp) (by simp) ?_ ?_ named
  · rw [append_nil, closed]
    exact Text.dropEndIgnoringAsciiCase?_append_eq_none (by decide)
  · rw [append_nil, closed]
    exact Text.isSuffixOf?_append_eq_none (by decide)

lemma read_link_enum (named : named? naming shown = some type) :
    read naming (link shown target ++ " enum".toList) fallback = pure type := by
  have firm : ∀ c ∈ " enum".toList.getLast?, IsFirm c := isFirm_of_all (by decide)
  exact h.read_link_append clean firm (by decide)
    (Text.dropEndIgnoringAsciiCase?_append_eq_none (by decide))
    (Text.isSuffixOf?_append_eq_none (by decide)) named

/-- A link is found again in the description of a collection. -/
lemma isElement : IsElement (link shown target) where
  bare := by
    rw [← append_nil (link shown target)]
    exact bareCell_eq_self_iff.2 (h.isBareCell clean (by simp) (by simp))
  nonempty := cons_ne_nil _ _
  apart := by
    change Text.dropStartIgnoringAsciiCase? _ (['['] ++ _) = none
    exact Text.dropStartIgnoringAsciiCase?_append_eq_none (by decide)

end IsShown

/-! ## Names in links -/

namespace IsPlain

/-- A plain name has no space inside, so it does not begin with `Collection of`. -/
lemma isElement (plain : IsPlain name) : IsElement name where
  bare := plain.bareCell_eq
  nonempty := plain.nonempty
  apart := by
    refine Option.eq_none_iff_forall_ne_some.2 fun rest found => plain.space_not_mem ?_
    obtain ⟨written, whole, equal⟩ := Text.dropStartIgnoringAsciiCase?_eq_some_iff.1 found
    have space : ' ' ∈ written := Text.mem_of_equalIgnoringAsciiCase (by decide) equal (by decide)
    rcases append_eq_append_iff.1 whole with ⟨behind, rfl, isSpace⟩ | ⟨inside, rfl, -⟩
    · rcases singleton_eq_append_iff.1 isSpace with ⟨rfl, -⟩ | ⟨rfl, -⟩
      · rwa [append_nil] at space
      · have equal : Text.equalIgnoringAsciiCase name "collection of".toList = true := by
          have same := congrArg dropLast (eq_of_beq equal)
          rw [map_append, map_singleton, dropLast_concat] at same
          exact beq_iff_eq.2 same
        exact Text.mem_of_equalIgnoringAsciiCase (by decide) equal (by decide)
    · exact mem_append_left _ space

lemma isShown (plain : IsPlain name) : IsShown name where
  trimmed := plain.trim_eq
  closed := plain.mark_not_mem (by decide)
  clean := ⟨plain.mark_not_mem (by decide), plain.mark_not_mem (by decide)⟩

lemma isShown_brackets (plain : IsPlain name) : IsShown (Phrasing.brackets.write name) where
  trimmed :=
    (isBareCell_write .brackets (bareCell_eq_self_iff.1 plain.bareCell_eq) plain.nonempty).trim_eq
  closed := by
    have absent := plain.isShown.closed
    simpa [Phrasing.write, Phrasing.before, Phrasing.after] using absent
  clean := by
    have clean := plain.isShown.clean
    simpa [Phrasing.write, Phrasing.before, Phrasing.after] using clean

lemma isWord_brackets (plain : IsPlain name) :
    TypeDescription.isWord (Phrasing.brackets.write name) = true := by
  have each : ∀ c ∈ Phrasing.brackets.write name, Text.isBlank c = false ∧ c ≠ '/' := by
    simp only [Phrasing.write, forall_mem_append]
    refine ⟨⟨all_iff_forall_prop.1 (by decide), fun c mem => ⟨plain.noBlank c mem, ?_⟩⟩,
      all_iff_forall_prop.1 (by decide)⟩
    rintro rfl
    exact plain.mark_not_mem (by decide) mem
  have noBlank : (Phrasing.brackets.write name).any Text.isBlank = false := by
    simpa using fun c mem => (each c mem).1
  have noSlash : '/' ∉ Phrasing.brackets.write name := fun mem => (each _ mem).2 rfl
  have nonempty : Phrasing.brackets.write name ≠ [] := by
    simp [Phrasing.write, Phrasing.after]
  simp [TypeDescription.isWord, noBlank, noSlash, nonempty]

/-- As names are compared, that of a link to a collection is not that of the elements. -/
lemma normalize_brackets_ne (plain : IsPlain name) :
    naming.normalize (Phrasing.brackets.write name) ≠ naming.normalize name := by
  refine naming.normalize_bracket_ne ?_ (plain.mark_not_mem (by decide)) ?_ ?_
  · rintro c mem rfl
    exact plain.mark_not_mem (show '#' ∈ marks by decide) (mem_of_head? mem)
  · exact getLast?_concat
  · rintro c mem rfl
    cases mem

lemma named?_eq (plain : IsPlain name) : named? naming name = some (wordType naming name) :=
  named?_of_isWord (Text.dropEndIgnoringAsciiCase?_eq_none (by decide) (by decide)
    plain.space_not_mem) plain.isWord

lemma named?_brackets (plain : IsPlain name) :
    named? naming (Phrasing.brackets.write name)
      = some (wordType naming (Phrasing.brackets.write name)) :=
  named?_of_isWord (Text.dropEndIgnoringAsciiCase?_append_eq_none (by decide)) plain.isWord_brackets

lemma withoutLink_eq (plain : IsPlain name) (trimmed : Text.trim (name ++ more) = name ++ more) :
    withoutLink (name ++ more) = name ++ more := by
  rw [withoutLink, trimmed]
  split
  · next rest opened =>
      have first : '[' ∈ name.head? := by
        rw [← head?_append_of_ne_nil name plain.nonempty, opened]
        rfl
      exact absurd (mem_of_head? first) (plain.mark_not_mem (by decide))
  · rfl

lemma read_eq (plain : IsPlain name) : read naming name fallback = pure (wordType naming name) := by
  have trimmed : Text.trim (name ++ []) = name ++ [] := by rw [append_nil, plain.trim_eq]
  have word := plain.withoutLink_eq trimmed
  rw [append_nil] at word
  refine read_of_named plain.elementText?_eq ?_
  rw [plain.bareCell_eq, word, plain.named?_eq]

/-- A name with `enum` behind it is that of an enumeration. -/
lemma read_enum (plain : IsPlain name) : read naming (name ++ " enum".toList) fallback
    = pure (.object (some (.ofList (naming.normalize name))) true none) := by
  have firm : ∀ c ∈ " enum".toList.getLast?, IsFirm c := isFirm_of_all (by decide)
  have unemphasized : unemphasized? (name ++ " enum".toList) = none :=
    unemphasized?_eq_none_of_last (by simp)
  have bare : IsBareCell ([] ++ name ++ " enum".toList) :=
    (bareCell_eq_self_iff.1 plain.bareCell_eq).around plain.nonempty (by simp) firm (by decide)
      (by decide) (by decide)
      unemphasized
  rw [nil_append] at bare
  have last : ∀ c ∈ (name ++ " enum".toList).getLast?, c ≠ ')' := by simp
  have apart : Text.dropStartIgnoringAsciiCase? "collection of ".toList (name ++ " enum".toList)
      = none :=
    apart_append plain.isElement.apart (by decide)
  have noNoun : Text.dropEndIgnoringAsciiCase? " collection".toList (name ++ " enum".toList)
      = none :=
    Text.dropEndIgnoringAsciiCase?_append_eq_none (by decide)
  have noSquares : "[]".toList.isSuffixOf? (name ++ " enum".toList) = none :=
    Text.isSuffixOf?_append_eq_none (by decide)
  refine read_of_named ?_ ?_
  · rw [bareCell_eq_self_iff.2 bare, elementText?_of_last bare.trim_eq last, apart,
      noNoun, noSquares]
    rfl
  · rw [bareCell_eq_self_iff.2 bare, plain.withoutLink_eq bare.trim_eq,
      named?_enum plain.trim_eq plain.isWord]

end IsPlain

lemma isCollection_wordType (naming : TypeNaming) (word : List Char) :
    (wordType naming word).isCollection = false := by
  rw [wordType]
  cases wellKnown? word <;> rfl

/-- Words that are not well known stand for types with different names. -/
lemma wordType_eq_iff {other : List Char}
    (different : naming.normalize other ≠ naming.normalize name) :
    wordType naming other = wordType naming name ↔
      ∃ type, wellKnown? other = some type ∧ wellKnown? name = some type := by
  rw [wordType, wordType]
  cases wellKnown? other with
  | none =>
      cases wellKnown? name with
      | none =>
          have named : String.ofList (naming.normalize other) ≠ .ofList (naming.normalize name) :=
            fun same => different (String.ofList_injective same)
          simp [named]
      | some type => simp
  | some type =>
      cases wellKnown? name with
      | none => simp
      | some known => simp [eq_comm]

/-! ## Reading links -/

/-- The type of a description, in a context that may say that it is one of elements. -/
def inContext (isCollection : Bool) (type : ValueType) : ValueType :=
  if isCollection && !type.isCollection then .collectionOf type else type

lemma readIn_of_read {isCollection : Bool} (h : read naming description fallback = pure type) :
    readIn naming (.ofList description) isCollection fallback
      = pure (inContext isCollection type) := by
  rw [readIn, String.toList_ofList, h]
  rfl

lemma element_inContext {isCollection : Bool} (flat : type.isCollection = false) :
    (inContext isCollection type).element = type := by
  cases type with
  | collection element dimensions => cases flat
  | _ => cases isCollection <;> rfl

/-- Only a context makes a collection of a type that is none. -/
lemma inContext_eq_iff {isCollection : Bool} {other : ValueType} (flat : type.isCollection = false)
    (otherFlat : other.isCollection = false) :
    inContext isCollection type = inContext isCollection (.collectionOf other) ↔
      isCollection = true ∧ type = other := by
  have stays : inContext isCollection (.collectionOf other) = .collectionOf other := by
    cases other <;> cases isCollection <;> rfl
  rw [stays]
  cases isCollection with
  | false =>
      refine iff_of_false (fun same => ?_) (fun both => Bool.false_ne_true both.1)
      have collection : (inContext false type).isCollection = true := by
        rw [same]
        cases other <;> rfl
      exact Bool.false_ne_true (flat.symm.trans collection)
  | true =>
      have wrapped : inContext true type = .collectionOf type := by
        rw [inContext, flat]
        rfl
      have elements := (ValueType.repeat_collectionOf flat 1).2
      have otherElements := (ValueType.repeat_collectionOf otherFlat 1).2
      rw [wrapped]
      refine ⟨fun same => ⟨rfl, ?_⟩, fun both => congrArg _ both.2⟩
      exact elements.symm.trans ((congrArg ValueType.element same).trans otherElements)

/-- **A link is read as the name that it shows**, if the name is written with letters, digits and
points and nothing is cleaned off the target, whatever the context says and whatever the description
falls back on.

* This holds of the name by itself and of the name in a collection, in all ways to write one.
* With `enum` behind it a link is still read as the name without `enum`, which is another type.
* A link that shows a collection is not read as one.  It stands for the same type only if the
  context says that it is a collection, and the name and the text of the collection are the same
  well-known type. -/
theorem links_read_as_names (naming : TypeNaming) {name target : List Char} (nonempty : name ≠ [])
    (letters : ∀ c ∈ name, Text.isAlphanumeric c = true ∨ c = '.')
    (clean : '<' ∉ target ∧ '\x60' ∉ target) (isCollection : Bool) (fallback : Option ValueType) :
    let parse (text : List Char) := readIn naming (.ofList text) isCollection fallback
    parse (link name target) = parse name
      ∧ (∀ phrasing : Phrasing, parse (phrasing.write (link name target))
        = parse (phrasing.write name))
      ∧ parse (link name target ++ " enum".toList) = parse name
      ∧ (parse name).value ≠ (parse (name ++ " enum".toList)).value
      ∧ (parse (link (Phrasing.brackets.write name) target) = parse (Phrasing.brackets.write name) ↔
          isCollection = true ∧ ∃ type, wellKnown? (Phrasing.brackets.write name) = some type
            ∧ wellKnown? name = some type) := by
  intro parse
  have plain := isPlain_of_letters nonempty letters
  have flat (word : List Char) := isCollection_wordType naming word
  have parse_name : parse name = pure (inContext isCollection (wordType naming name)) :=
    readIn_of_read plain.read_eq
  have parse_link : parse (link name target)
      = pure (inContext isCollection (wordType naming name)) :=
    readIn_of_read (plain.isShown.read_link clean plain.named?_eq)
  have parse_collection (phrasing : Phrasing) : parse (phrasing.write name)
      = pure (inContext isCollection (.collectionOf (wordType naming name))) := by
    refine readIn_of_read ?_
    rw [read_write plain.isElement, plain.read_eq]
    rfl
  have parse_linked_collection (phrasing : Phrasing) : parse (phrasing.write (link name target))
      = pure (inContext isCollection (.collectionOf (wordType naming name))) := by
    refine readIn_of_read ?_
    rw [read_write (plain.isShown.isElement clean), plain.isShown.read_link clean plain.named?_eq]
    rfl
  have parse_enum : (parse (name ++ " enum".toList)).value
      = inContext isCollection (.object (some (.ofList (naming.normalize name))) true none) :=
    congrArg Audit.value (readIn_of_read plain.read_enum)
  refine ⟨parse_link.trans parse_name.symm, fun phrasing => ?_, ?_, ?_, ?_⟩
  · rw [parse_collection, parse_linked_collection]
  · rw [parse_name]
    exact readIn_of_read (plain.isShown.read_link_enum clean plain.named?_eq)
  · rw [parse_name, parse_enum]
    intro same
    have elements := congrArg ValueType.element same
    rw [Audit.value_pure, element_inContext (flat name), element_inContext rfl,
      wordType] at elements
    cases known : wellKnown? name with
    | none => simp [known] at elements
    | some type => simp [known] at elements
  · have parse_shown : parse (link (Phrasing.brackets.write name) target)
        = pure (inContext isCollection (wordType naming (Phrasing.brackets.write name))) :=
      readIn_of_read (plain.isShown_brackets.read_link clean plain.named?_brackets)
    rw [parse_shown, parse_collection, ← wordType_eq_iff plain.normalize_brackets_ne,
      ← inContext_eq_iff (flat _) (flat _)]
    exact ⟨fun same => congrArg Audit.value same, congrArg pure⟩

/-- A link to a type, by itself and as the elements of a collection. -/
theorem linked_color_read :
    let parse (text : String) := readIn ⟨none, []⟩ text false none
    link "color".toList "color.md".toList = "[color](color.md)".toList
      ∧ parse "[color](color.md)" = parse "color"
      ∧ parse "[color](color.md) collection" = parse "color collection" := by
  intro parse
  have letters : ∀ c ∈ "color".toList, Text.isAlphanumeric c = true ∨ c = '.' :=
    all_iff_forall_prop.1 (by decide +kernel)
  have clean : '<' ∉ "color.md".toList ∧ '\x60' ∉ "color.md".toList := by decide
  have read := links_read_as_names ⟨none, []⟩ (by decide) letters clean false none
  exact ⟨rfl, read.1, read.2.1 .noun⟩

/-- The enumeration behind a link is lost, and the collection in a link is one word. -/
theorem linked_enumeration_lost :
    let parse (text : String) := readIn ⟨none, []⟩ text false none
    (parse "[color](color.md) enum").value = .object (some "color") false none
      ∧ (parse "color enum").value = .object (some "color") true none
      ∧ parse "[color](color.md) enum" ≠ parse "color enum"
      ∧ (parse "[Collection(color)](color.md)").value
        = .object (some "collection(color)") false none
      ∧ (parse "Collection(color)").value = .collection (.object (some "color") false none) 1 := by
  refine ⟨rfl, rfl, fun same => ?_, rfl, rfl⟩
  have values : ValueType.object (some "color") false none = .object (some "color") true none :=
    congrArg Audit.value same
  cases values

end TypeDescription

end DocAudit
