import DocAudit.Proofs.Parameter
import DocAudit.Proofs.Resource
import DocAudit.Proofs.Table

/-!
# Well-formed types and parameters

A type is well formed if its collections have dimensions and do not nest, and if the members of its
objects have different names and agree in what is required.  Types come from the values of examples
(`Property.isWellFormed_typeOf`) and from descriptions (`TypeDescription.isWellFormed_readIn`).  Of
two types joining keeps one, so lists of parameters stay well formed when rows are joined with them
(`Parameter.AreWellFormed.mergeLists`).
-/

namespace DocAudit

open List Audit

/-! ## Types -/

/-- Whether a parameter is optional is known with whether it is required, and is the opposite of
it. -/
def Parameter.Agrees (parameter : Parameter) : Prop :=
  parameter.optional = parameter.required.map (!·)

/-- A type whose collections and objects are well formed, however deep they stand in it. -/
inductive ValueType.IsWellFormed : ValueType → Prop where
  | simple (type : SimpleType) : IsWellFormed (.simple type)
  | collection {element : ValueType} {dimensions : Nat} (inside : element.IsWellFormed)
      (flat : element.isCollection = false) (positive : 0 < dimensions) :
      IsWellFormed (.collection element dimensions)
  | object (name : Option String) (isEnum : Bool) : IsWellFormed (.object name isEnum none)
  | shown {name : Option String} {isEnum : Bool} {members : List Parameter}
      (distinct : (members.map (·.name)).Nodup) (agree : ∀ member ∈ members, member.Agrees)
      (inside : ∀ member ∈ members, member.type.IsWellFormed) :
      IsWellFormed (.object name isEnum (some members))

namespace ValueType.IsWellFormed

variable {type : ValueType}

lemma collectionOf (h : type.IsWellFormed) : type.collectionOf.IsWellFormed := by
  cases h with
  | collection inside flat _ => exact .collection inside flat (Nat.succ_pos _)
  | simple type => exact .collection (.simple type) rfl Nat.one_pos
  | object name isEnum => exact .collection (.object name isEnum) rfl Nat.one_pos
  | shown distinct agree inside => exact .collection (.shown distinct agree inside) rfl Nat.one_pos

lemma element (h : type.IsWellFormed) : type.element.IsWellFormed := by
  cases h with
  | collection inside _ _ => exact inside
  | simple type => exact .simple type
  | object name isEnum => exact .object name isEnum
  | shown distinct agree inside => exact .shown distinct agree inside

/-- What a change keeps, repeating it keeps. -/
lemma repeated {change : ValueType → ValueType}
    (keeps : ∀ {type : ValueType}, type.IsWellFormed → (change type).IsWellFormed)
    (h : type.IsWellFormed)
    (layers : Nat) : (layers.repeat change type).IsWellFormed := by
  induction layers with
  | zero => exact h
  | succ layers ih => exact keeps ih

end ValueType.IsWellFormed

/-! ## Parameters -/

namespace Parameter

/-- A parameter with a well-formed type. -/
structure IsSound (parameter : Parameter) : Prop where
  agrees : parameter.Agrees
  type : parameter.type.IsWellFormed

/-- Parameters with different names that are all sound. -/
structure AreWellFormed (parameters : List Parameter) : Prop where
  distinct : (parameters.map (·.name)).Nodup
  sound : ∀ parameter ∈ parameters, parameter.IsSound

variable {a b row : Parameter} {known rows : List Parameter}

/-- Where `required` is filled in, `optional` is filled in from the same parameter. -/
lemma IsSound.merge (h : a.IsSound) (g : b.IsSound) : (a.merge b).value.IsSound where
  agrees := by
    have ha : a.optional = a.required.map (!·) := h.agrees
    have hb : b.optional = b.required.map (!·) := g.agrees
    show (a.optional <|> b.optional) = (a.required <|> b.required).map (!·)
    rw [ha, hb]
    cases a.required <;> rfl
  type := by
    rcases type_merge a b with same | same
    · rw [same]
      exact h.type
    · rw [same]
      exact g.type

namespace AreWellFormed

lemma nil : AreWellFormed [] :=
  ⟨nodup_nil, forall_mem_nil _⟩

/-- Rows may repeat names, but joined with well-formed parameters they give well-formed ones. -/
lemma mergeLists (h : AreWellFormed known) (ofRows : ∀ row ∈ rows, row.IsSound) :
    AreWellFormed (Parameter.mergeLists known rows).value where
  distinct := nodup_map_name_mergeLists h.distinct rows
  sound := forall_mem_mergeLists (fun ofKnown ofRow => ofKnown.merge ofRow) h.sound ofRows

/-- The members of an object make its type well formed. -/
lemma object (h : AreWellFormed known) (name : Option String) (isEnum : Bool) :
    (ValueType.object name isEnum (some known)).IsWellFormed :=
  .shown h.distinct (fun member mem => (h.sound member mem).agrees) fun member mem =>
    (h.sound member mem).type

end AreWellFormed

end Parameter

/-! ## Values of examples -/

namespace Property

open Parameter

variable {naming : TypeNaming} {members : List (String × Json.Value)} {value : Json.Value}
  {parameter : Parameter}

lemma exists_of_mem_ofMembers (mem : parameter ∈ ofMembers naming members) :
    ∃ member ∈ members, parameter = shown member.1 (typeOf naming member.2) member.2 := by
  induction members with
  | nil => cases mem
  | cons member rest ih =>
      rw [ofMembers] at mem
      split at mem
      · rcases mem_cons.1 mem with rfl | later
        · exact ⟨member, mem_cons_self, rfl⟩
        · exact (ih later).imp fun _ found => ⟨mem_cons_of_mem _ found.1, found.2⟩
      · exact (ih mem).imp fun _ found => ⟨mem_cons_of_mem _ found.1, found.2⟩

/-- An example does not tell what is required. -/
lemma areWellFormed_ofMembers_of (distinct : (members.map Prod.fst).Nodup)
    (types : ∀ member ∈ members, (typeOf naming member.2).IsWellFormed) :
    AreWellFormed (ofMembers naming members) where
  distinct := by
    rw [map_name_ofMembers]
    exact distinct.filter _
  sound := by
    intro parameter mem
    obtain ⟨member, isMember, rfl⟩ := exists_of_mem_ofMembers mem
    exact ⟨rfl, types member isMember⟩

/-- The type of a value is well formed if its objects do not repeat names. -/
lemma isWellFormed_typeOf (h : value.HasDistinctNames) : (typeOf naming value).IsWellFormed := by
  induction h with
  | null => exact .object none false
  | bool => exact .simple .boolean
  | number => exact .simple _
  | string text =>
      rw [typeOf, Literal.typeOfString]
      split
      · exact .simple _
      · exact .simple .string
  | @array items _ ih =>
      rw [typeOf]
      refine .collectionOf ?_
      cases items with
      | nil => exact .object none false
      | cons first rest => exact ih first mem_cons_self
  | object distinct _ ih =>
      rw [typeOf]
      split
      · exact .object _ false
      · exact (areWellFormed_ofMembers_of distinct ih).object none false

lemma areWellFormed_ofMembers (h : (Json.Value.object members).HasDistinctNames) :
    AreWellFormed (ofMembers naming members) := by
  cases h with
  | object distinct values =>
      exact areWellFormed_ofMembers_of distinct fun member mem =>
        isWellFormed_typeOf (values member mem)

end Property

/-- What a resource shows is well formed. -/
lemma Resource.areWellFormed_ofExample {naming : TypeNaming} {metadata : CodeMetadata}
    {json : String} {origin : BlockOrigin} {resource : Resource}
    (h : (ofExample naming metadata json origin).value = some resource) :
    Parameter.AreWellFormed resource.parameters := by
  have wellFormed :
      Parameter.AreWellFormed (Property.ofMembers naming (shownMembers metadata json)) :=
    Property.areWellFormed_ofMembers (hasDistinctNames_shownMembers metadata json)
  rw [(of_ofExample_eq_some h).2]
  refine ⟨?_, forall_mem_map.2 fun parameter mem => ?_⟩
  · rw [map_map]
    exact wellFormed.distinct
  · exact ⟨(wellFormed.sound parameter mem).agrees, (wellFormed.sound parameter mem).type⟩

/-! ## Descriptions -/

namespace TypeDescription

variable {naming : TypeNaming} {name : List Char} {fallback : Option ValueType} {type : ValueType}

lemma isWellFormed_of_object? {isEnum : Bool} (h : object? naming name isEnum = some type) :
    type.IsWellFormed := by
  rw [object?, Option.ite_none_left_eq_some] at h
  exact Option.some.inj h.2 ▸ .object _ isEnum

lemma isWellFormed_of_named? (h : named? naming name = some type) : type.IsWellFormed := by
  unfold named? at h
  split at h
  · exact isWellFormed_of_object? h
  · rw [Option.orElse_eq_orElse, Option.orElse_eq_or] at h
    rcases Option.or_eq_some_iff.1 h with known | ⟨-, word⟩
    · obtain ⟨simple, -, rfl⟩ := Option.map_eq_some_iff.1 known
      exact .simple simple
    · exact isWellFormed_of_object? word

variable (fallen : ∀ type ∈ fallback, type.IsWellFormed)
include fallen

lemma isWellFormed_readElement (description : List Char) :
    (readElement naming description fallback).value.IsWellFormed := by
  unfold readElement
  split
  · next type found =>
      rw [Option.orElse_eq_orElse, Option.orElse_eq_or] at found
      rcases Option.or_eq_some_iff.1 found with named | ⟨-, given⟩
      · exact isWellFormed_of_named? named
      · exact fallen type given
  · exact .object _ false

/-- The type of a description is well formed, and collections of collections are one. -/
lemma isWellFormed_readIn (description : String) (isCollection : Bool) :
    (readIn naming description isCollection fallback).value.IsWellFormed := by
  have whole : (read naming description.toList fallback).value.IsWellFormed := by
    refine .repeated (·.collectionOf) (isWellFormed_readElement ?_ _) _
    intro type fell
    obtain ⟨given, isGiven, rfl⟩ := Option.map_eq_some_iff.1 fell
    exact .repeated (·.element) (fallen given isGiven) _
  rw [readIn, value_bind, value_pure]
  split
  · exact whole.collectionOf
  · exact whole

end TypeDescription

/-! ## Rows of tables -/

namespace Table

variable {naming : TypeNaming}

lemma isSound_parameterOf (columns : ColumnWords) (shape : TableShape) (kind : TableKind)
    (key : String)
    (row : List String) : (parameterOf naming columns shape kind key row).value.IsSound := by
  have undescribed : ∀ type ∈ (none : Option ValueType), type.IsWellFormed := by
    simp
  simp only [parameterOf]
  split
  · exact ⟨rfl, .simple .string⟩
  · simp only [value_bind, value_pure, Parameter.ofType]
    refine ⟨rfl, ?_⟩
    dsimp only
    exact TypeDescription.isWellFormed_readIn undescribed ..

/-- The parameters in a table are sound. -/
lemma isSound_of_mem_read (rules : TableRules) (shape : TableShape) (titles : List String)
    (line : Nat) :
    ∀ row ∈ (read naming rules shape titles line).value.parameters, row.IsSound := by
  intro row mem
  obtain ⟨kind, key, cells, -, rfl⟩ := exists_of_mem_read mem
  exact isSound_parameterOf ..

end Table

end DocAudit
