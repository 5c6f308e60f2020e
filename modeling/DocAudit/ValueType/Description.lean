import DocAudit.Issue.Audit
import DocAudit.Page.Block
import DocAudit.TypeName
import DocAudit.ValueType.Literal

/-!
# Descriptions of types

Documentation describes types in prose: `String collection`, `Collection(foo.item)`,
`[identitySet](identityset.md)`, `color enum`.  `TypeDescription.read` finds the type.  A
description of a collection is peeled layer by layer; what is left is a name, perhaps written as a
link.
-/

namespace DocAudit.TypeDescription

/-! ## Collections -/

/-- What a description of a collection says about its elements. -/
def elementText? (description : List Char) : Option (List Char) :=
  let text := Text.trim description
  let inBrackets := do
    let rest ← Text.dropStartIgnoringAsciiCase? "collection(".toList text
    ([')'] : List Char).isSuffixOf? rest
  (inBrackets <|> Text.dropStartIgnoringAsciiCase? "collection of ".toList text <|>
    Text.dropEndIgnoringAsciiCase? " collection".toList text <|>
    "[]".toList.isSuffixOf? text).map Text.trim

theorem length_dropStart_lt {start text rest : List Char} (some_start : start ≠ [])
    (h : Text.dropStartIgnoringAsciiCase? start text = some rest) : rest.length < text.length := by
  have long := List.length_pos_iff.2 some_start
  simp only [Text.dropStartIgnoringAsciiCase?, Text.equalIgnoringAsciiCase, beq_iff_eq,
    Option.ite_none_right_eq_some, Option.some.injEq] at h
  have same := congrArg List.length h.1
  simp only [List.length_map, List.length_take] at same
  rw [← h.2, List.length_drop]
  omega

theorem length_dropEnd_lt {ending text rest : List Char} (some_ending : ending ≠ [])
    (h : Text.dropEndIgnoringAsciiCase? ending text = some rest) : rest.length < text.length := by
  have long := List.length_pos_iff.2 some_ending
  simp only [Text.dropEndIgnoringAsciiCase?, Bool.and_eq_true, decide_eq_true_eq,
    Option.ite_none_right_eq_some, Option.some.injEq] at h
  rw [← h.2, List.length_take]
  omega

/-- The description of the elements is shorter than that of the collection. -/
theorem length_elementText_lt {description text : List Char}
    (h : elementText? description = some text) : text.length < description.length := by
  simp only [elementText?, Option.map_eq_some_iff] at h
  obtain ⟨rest, found, rfl⟩ := h
  refine Nat.lt_of_le_of_lt (Text.length_trim_le rest)
    (Nat.lt_of_lt_of_le ?_ (Text.length_trim_le description))
  simp only [Option.orElse_eq_orElse, Option.orElse_eq_or, Option.or_eq_some_iff] at found
  have suffix_lt {ending text rest : List Char} (some_ending : ending ≠ [])
      (h : ending.isSuffixOf? text = some rest) : rest.length < text.length := by
    have long := List.length_pos_iff.2 some_ending
    rw [Text.eq_append_of_isSuffixOf? h, List.length_append]
    omega
  rcases found with found | ⟨-, found | ⟨-, found | ⟨-, found⟩⟩⟩
  · obtain ⟨opened, start, finish⟩ := Option.bind_eq_some_iff.1 found
    exact Nat.lt_trans (suffix_lt (by simp) finish) (length_dropStart_lt (by decide) start)
  · exact length_dropStart_lt (by decide) found
  · exact length_dropEnd_lt (by decide) found
  · exact suffix_lt (by decide) found

/-- How many layers of collections a description has, at most `bound`, and the description inside
them. -/
def peelAtMost : Nat → List Char → Nat × List Char
  | 0, description => (0, description)
  | bound + 1, description =>
    match elementText? (bareCell description) with
    | some inner => ((peelAtMost bound inner).1 + 1, (peelAtMost bound inner).2)
    | none => (0, description)

/-- How many layers of collections a description has, and the description inside them. -/
def peel (description : List Char) : Nat × List Char :=
  peelAtMost description.length description

theorem elementText?_peelAtMost (bound : Nat) (description : List Char)
    (enough : description.length ≤ bound) :
    elementText? (bareCell (peelAtMost bound description).2) = none := by
  fun_induction peelAtMost bound description with
  | case1 description =>
    rw [List.length_eq_zero_iff.1 (Nat.le_zero.1 enough)]
    rfl
  | case2 bound description inner found ih =>
    have shorter := length_elementText_lt found
    have noLonger := length_bareCell_le description
    exact ih (by omega)
  | case3 bound description none => exact none

/-- What is left describes no collection. -/
theorem elementText?_peel (description : List Char) :
    elementText? (bareCell (peel description).2) = none :=
  elementText?_peelAtMost _ description (Nat.le_refl _)

/-! ## Names -/

/-- The text of a link, if a description is one, else the description. -/
def withoutLink (description : List Char) : List Char :=
  let text := Text.trim description
  match text with
  | '[' :: rest =>
    match Text.cutFirst ']' rest with
    | some (shown, after) =>
      if after.isEmpty || after.head? == some '(' || after.head? == some '[' then Text.trim shown
      else text
    | none => text
  | _ => text

/-- The type that a name without `enum` behind it stands for by its words: a simple type, the type
of a literal, or a guess from what the name contains. -/
def wellKnown? (name : List Char) : Option SimpleType :=
  let lowered := Text.lower name
  let contains (part : String) := Text.occursIn part.toList lowered
  SimpleType.ofName? name <|> Literal.type? name <|>
    if "base64".toList.isPrefixOf lowered then some .binary
    else if contains "etag" || contains "string" then some .string
    else if contains "timestamp" then some .dateTimeOffset
    else none

/-- The object type with a name, if the name is a single word without slashes. -/
def object? (naming : TypeNaming) (name : List Char) (isEnum : Bool) : Option ValueType :=
  if name.isEmpty || name.any Text.isBlank || name.contains '/' then none
  else some (.object (some (.ofList (naming.normalize name))) isEnum none)

/-- The type with a name.  A name with `enum` behind it always names an enumeration. -/
def named? (naming : TypeNaming) (name : List Char) : Option ValueType :=
  match Text.dropEndIgnoringAsciiCase? " enum".toList name with
  | some base => object? naming (Text.trim base) true
  | none => (wellKnown? name).map .simple <|> object? naming name false

/-! ## Reading -/

/-- The type of a description that is not one of a collection.  If its name says nothing, `fallback`
is taken in its place, or else an object type with the whole text as its name. -/
def readElement (naming : TypeNaming) (description : List Char) (fallback : Option ValueType) :
    Audit ValueType :=
  match named? naming (withoutLink (bareCell description)) <|> fallback with
  | some type => pure type
  | none => do
    let text := String.ofList (Text.trim description)
    Audit.warning .typeParseFallback
      s!"Unable to parse type '{text}'; treating it as an object type"
    return .named text

/-- The type of a description.  The type to fall back on is that of the whole, so each layer of a
collection takes its element. -/
def read (naming : TypeNaming) (description : List Char) (fallback : Option ValueType) :
    Audit ValueType := do
  let (layers, inner) := peel description
  let element ← readElement naming inner (fallback.map (layers.repeat ValueType.element))
  return layers.repeat ValueType.collectionOf element

/-- The type of a description, which is a collection if the context says so. -/
def readIn (naming : TypeNaming) (description : String) (isCollection : Bool)
    (fallback : Option ValueType) : Audit ValueType := do
  let type ← read naming description.toList fallback
  return if isCollection && !type.isCollection then .collectionOf type else type

end DocAudit.TypeDescription
