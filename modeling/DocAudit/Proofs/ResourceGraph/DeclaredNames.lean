import DocAudit.Proofs.ResourceGraph.References
import DocAudit.Proofs.TypeName
import DocAudit.Proofs.ValueType.Description

/-!
# Declared names as types of properties

A property whose type is read from the very name of a resource or an enumeration.  Resources and
enumerations keep the names that they are declared with, but what is read is written as names are
compared.  So nothing is found about the property if the name is declared in the way in which names
are compared, and `declared_name_flagged_iff` says exactly when.  `capitalized_name_flagged` shows a
name that is not.
-/

namespace DocAudit.ResourceGraph

open List Definitions TypeDescription

variable {naming : TypeNaming} {definitions : List Resource} {enums : List String}
  {resource : Resource}
  {parameter : Parameter} {text : String} {isCollection : Bool} {fallback : Option ValueType}

/-- A name with a namespace is looked for as it is. -/
lemma recognized_dotted {space : List Char} (nonempty : space ≠ []) (rest : List Char)
    (role : String) :
    Recognized definitions enums resource ⟨role, .ofList (space ++ '.' :: rest)⟩ ↔
      Declared definitions enums (.ofList (space ++ '.' :: rest)) := by
  have asIs : TypeReference.qualified ⟨role, .ofList (space ++ '.' :: rest)⟩ resource
      = .ofList (space ++ '.' :: rest) := by
    obtain ⟨own, isSpace⟩ := Option.isSome_iff_exists.1 (TypeName.namespace?_dotted nonempty rest)
    rw [TypeReference.qualified, isSpace]
  rw [Recognized, asIs, or_self]

/-- Nothing is found about a property that is read from a plain name if this is a well-known type,
or is recognized as names are compared. -/
lemma not_flagsProperty_plain_iff (mem : resource ∈ (resolve definitions).value.resources)
    (isProperty : parameter ∈ resource.parameters)
    (isRead : parameter.type = (readIn naming text isCollection fallback).value)
    (plain : IsPlain text.toList) :
    ¬ FlagsProperty (resolve definitions).value enums resource parameter ↔
      (wellKnown? text.toList).isSome ∨ Recognized definitions enums resource
        ⟨"property type", .ofList (naming.normalize text.toList)⟩ := by
  rw [not_flagsProperty_iff mem isProperty, isRead, customName_readIn, nameRead_of_isPlain plain]
  cases (wellKnown? text.toList).isSome with
  | true => simp
  | false => simp

/-- **When a declared name is recognized as the type of a property.**

* The issues of a check are about the references to unknown types, one for each resource and type;
  the property is not one of them if and only if the name that is read, if there is one, is
  recognized.
* Of a plain name, the well-known types are read, or the name as names are compared.
* A plain name with a namespace is read with its name proper in lower camel case, unless that is
  excluded, and must be declared like this.
* So nothing is found if the name is declared as names are compared. -/
theorem declared_name_flagged_iff (mem : resource ∈ (resolve definitions).value.resources)
    (isProperty : parameter ∈ resource.parameters)
    (isRead : parameter.type = (readIn naming text isCollection fallback).value)
    (declared : (∃ definition ∈ definitions, definition.name = text) ∨ text ∈ enums) :
    let graph := (resolve definitions).value
    (graph.checkReferences enums
        = ((graph.flagged enums).eraseDupsBy fun a b => reportKey a == reportKey b).map
            fun entry => entry.2.unresolved (graph.knownNames enums) entry.1)
    ∧ (¬ FlagsProperty graph enums resource parameter ↔
        ∀ name, nameRead naming text.toList fallback = some name →
          Recognized definitions enums resource ⟨"property type", name⟩)
    ∧ (IsPlain text.toList →
        (¬ FlagsProperty graph enums resource parameter ↔
          (wellKnown? text.toList).isSome ∨ Recognized definitions enums resource
            ⟨"property type", .ofList (naming.normalize text.toList)⟩))
    ∧ (IsPlain text.toList →
        ∀ space own, text.toList = space ++ '.' :: own → space ≠ [] → '.' ∉ own →
          (¬ FlagsProperty graph enums resource parameter ↔
            (wellKnown? text.toList).isSome ∨
              Declared definitions enums (.ofList (space ++ '.' :: naming.ownName own))))
    ∧ (IsPlain text.toList → naming.normalize text.toList = text.toList →
        ¬ FlagsProperty graph enums resource parameter) := by
  intro graph
  refine ⟨checkReferences_eq graph enums, ?_,
    not_flagsProperty_plain_iff mem isProperty isRead, ?_, ?_⟩
  · rw [not_flagsProperty_iff mem isProperty, isRead, customName_readIn]
  · intro plain space own isDotted nonempty absent
    have noMark : '#' ∉ space := by
      refine fun inSpace => plain.mark_not_mem (show '#' ∈ marks by decide) ?_
      rw [isDotted]
      exact List.mem_append_left _ inSpace
    rw [not_flagsProperty_plain_iff mem isProperty isRead plain, isDotted,
      naming.normalize_dotted noMark nonempty absent, recognized_dotted nonempty]
  · intro plain same
    rw [not_flagsProperty_plain_iff mem isProperty isRead plain, same, String.ofList_toList]
    exact .inr (.inr (declared.imp_right .inl))

/-- A definition with one property. -/
def propertyDefinition (name : String) (type : ValueType) : Resource :=
  { bareDefinition name none "widget.md" with parameters := [.ofType "next" type .jsonObject] }

/-- A name that starts with a capital letter is recognized if it is excluded from lower camel
case. -/
theorem excluded_name_not_flagged :
    let type := (readIn ⟨none, ["Widget"]⟩ "foo.Widget" false none).value
    let widget := propertyDefinition "foo.Widget" type
    widget.name = "foo.Widget" ∧ type.customName = some "foo.Widget"
      ∧ ¬ FlagsProperty (resolve [widget]).value [] widget (.ofType "next" type .jsonObject) := by
  intro type widget
  have mem : widget ∈ (resolve [widget]).value.resources := List.mem_of_getElem? (i := 0) rfl
  have isProperty : .ofType "next" type .jsonObject ∈ widget.parameters :=
    List.mem_of_getElem? (i := 0) rfl
  have isRead : (Parameter.ofType "next" type .jsonObject).type
      = (readIn ⟨none, ["Widget"]⟩ "foo.Widget" false none).value := rfl
  have declared : (∃ definition ∈ [widget], definition.name = "foo.Widget") ∨ "foo.Widget" ∈ [] :=
    .inl ⟨widget, List.mem_of_getElem? (i := 0) rfl, rfl⟩
  have plain : IsPlain "foo.Widget".toList := isPlain_of_all (by decide) rfl (by decide)
  exact ⟨rfl, rfl, (declared_name_flagged_iff mem isProperty isRead declared).2.2.2.2 plain rfl⟩

/-- Otherwise it is not, although it is written as it is declared. -/
theorem capitalized_name_flagged :
    let type := (readIn ⟨none, []⟩ "foo.Widget" false none).value
    let widget := propertyDefinition "foo.Widget" type
    FlagsProperty (resolve [widget]).value [] widget (.ofType "next" type .jsonObject)
      ∧ (resolve [widget]).value.checkReferences [] = [⟨.error, .unresolvedTypeReference,
          some "widget.md",
          "Resource 'foo.Widget' references unknown property type 'foo.widget'."
            ++ " Did you mean 'foo.Widget'?", []⟩] := by
  refine ⟨⟨"foo.widget", rfl, List.mem_of_getElem? (i := 0) rfl⟩, by decide⟩

end DocAudit.ResourceGraph
