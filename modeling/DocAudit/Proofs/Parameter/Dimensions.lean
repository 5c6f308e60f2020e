import DocAudit.Proofs.Json.Depth
import DocAudit.Proofs.Parameter.WellFormed

/-!
# Dimensions of collections

How many dimensions the collections in a type can have.  A type that an example shows has no more
than arrays may be nested in JSON (`Property.hasDimensions_ofExample`), and a description of a type
has fewer layers than characters (`TypeDescription.hasDimensions_readIn`).  Joining two types keeps
one of them, so no step of bringing a page together adds dimensions.
-/

namespace DocAudit

open List Audit

/-! ## Types -/

/-- No collection in a type has more than some dimensions, however deep it stands in it. -/
inductive ValueType.HasDimensions (limit : ℕ) : ValueType → Prop where
  | simple (type : SimpleType) : HasDimensions limit (.simple type)
  | collection {element : ValueType} {dimensions : ℕ} (inside : element.HasDimensions limit)
      (few : dimensions ≤ limit) : HasDimensions limit (.collection element dimensions)
  | object (name : Option String) (isEnum : Bool) : HasDimensions limit (.object name isEnum none)
  | shown {name : Option String} {isEnum : Bool} {members : List Parameter}
      (inside : ∀ member ∈ members, member.type.HasDimensions limit) :
      HasDimensions limit (.object name isEnum (some members))

namespace ValueType.HasDimensions

variable {type : ValueType} {limit more : ℕ}

lemma mono (h : type.HasDimensions limit) (grows : limit ≤ more) : type.HasDimensions more := by
  induction h with
  | simple type => exact .simple type
  | collection _ few ih => exact .collection ih (Nat.le_trans few grows)
  | object name isEnum => exact .object name isEnum
  | shown _ ih => exact .shown ih

/-- One more layer is at most one more dimension. -/
lemma collectionOf (h : type.HasDimensions limit) :
    type.collectionOf.HasDimensions (limit + 1) := by
  have inside : type.HasDimensions (limit + 1) := h.mono (Nat.le_succ limit)
  cases type with
  | collection element dimensions =>
      cases h with
      | collection _ few =>
          cases inside with
          | collection element _ => exact .collection element (Nat.succ_le_succ few)
  | simple type => exact .collection inside (by omega)
  | object name isEnum members => exact .collection inside (by omega)

lemma repeat_collectionOf (h : type.HasDimensions 0) (layers : ℕ) :
    (layers.repeat ValueType.collectionOf type).HasDimensions layers := by
  induction layers with
  | zero => exact h
  | succ layers ih => exact ih.collectionOf

end ValueType.HasDimensions

/-! ## Values of examples -/

namespace Property

variable {naming : TypeNaming} {members : List (String × Json.Value)} {value : Json.Value}
  {parameter : Parameter} {depth : ℕ}

/-- Collections in the type of a value have no more dimensions than arrays are nested in it. -/
lemma hasDimensions_typeOf (h : value.HasDepth depth) :
    (typeOf naming value).HasDimensions depth := by
  induction h with
  | null => exact .object none false
  | bool => exact .simple .boolean
  | number => exact .simple _
  | string text =>
      rw [typeOf, Literal.typeOfString]
      split
      · exact .simple _
      · exact .simple .string
  | @array depth items _ ih =>
      rw [typeOf]
      refine .collectionOf ?_
      cases items with
      | nil => exact .object none false
      | cons first rest => exact ih first mem_cons_self
  | object _ ih =>
      rw [typeOf]
      split
      · exact .object _ false
      · refine .shown fun parameter mem => ?_
        obtain ⟨member, isMember, rfl⟩ := exists_of_mem_ofMembers mem
        exact (ih member isMember).mono (Nat.le_succ _)

/-- The members of a value are nested less deeply than the value, so types of members have fewer
dimensions. -/
lemma hasDimensions_of_mem_ofMembers (h : (Json.Value.object members).HasDepth depth)
    (mem : parameter ∈ ofMembers naming members) : parameter.type.HasDimensions depth := by
  obtain ⟨member, isMember, rfl⟩ := exists_of_mem_ofMembers mem
  cases h with
  | object values => exact (hasDimensions_typeOf (values member isMember)).mono (Nat.le_succ _)

end Property

namespace Resource

variable {naming : TypeNaming} {metadata : CodeMetadata} {json : String} {origin : BlockOrigin}
  {resource : Resource}

lemma hasDepth_shownMembers (metadata : CodeMetadata) (json : String) :
    (Json.Value.object (shownMembers metadata json)).HasDepth Json.Written.maxDepth := by
  rcases shownMembers_cases metadata json with nothing | ⟨value, read, isShown⟩
  · rw [nothing]
    exact .object (forall_mem_nil _)
  · have deep := Json.Value.hasDepth_of_read read
    cases deep with
    | array items =>
        rw [exampleMembers?, Option.ite_none_right_eq_some] at isShown
        obtain ⟨first, isFirst, isObject⟩ := Option.bind_eq_some_iff.1 isShown.2
        cases first with
        | object _ =>
            cases isObject
            exact (items _ (mem_of_mem_head? isFirst)).mono (Nat.le_succ _)
        | _ => cases isObject
    | object values =>
        cases isShown
        exact .object values
    | _ => cases isShown

/-- The collections that an example shows have no more dimensions than arrays may be nested. -/
lemma hasDimensions_ofExample (h : (ofExample naming metadata json origin).value = some resource) :
    ∀ parameter ∈ resource.parameters, parameter.type.HasDimensions Json.Written.maxDepth := by
  rw [(of_ofExample_eq_some h).2, forall_mem_map]
  intro parameter mem
  have few := Property.hasDimensions_of_mem_ofMembers (hasDepth_shownMembers metadata json) mem
  exact few

end Resource

/-! ## Descriptions -/

namespace TypeDescription

variable {naming : TypeNaming}

/-- Every layer of a description takes at least one of its characters. -/
lemma fst_peelAtMost_le (bound : ℕ) (description : List Char) :
    (peelAtMost bound description).1 ≤ bound := by
  fun_induction peelAtMost bound description with
  | case1 description => exact Nat.le_refl 0
  | case2 bound description inner _ ih => exact Nat.succ_le_succ ih
  | case3 bound description _ => exact Nat.zero_le _

/-- A description without layers is not one of a collection. -/
lemma hasDimensions_readElement (description : List Char) :
    (readElement naming description none).value.HasDimensions 0 := by
  unfold readElement
  split
  · next type found =>
      rw [Option.orElse_eq_orElse, Option.orElse_eq_or, Option.or_none] at found
      unfold named? at found
      have word {name : List Char} {isEnum : Bool} (h : object? naming name isEnum = some type) :
          type.HasDimensions 0 := by
        rw [object?, Option.ite_none_left_eq_some] at h
        exact Option.some.inj h.2 ▸ .object _ isEnum
      split at found
      · exact word found
      · rw [Option.orElse_eq_orElse, Option.orElse_eq_or] at found
        rcases Option.or_eq_some_iff.1 found with known | ⟨-, isWord⟩
        · obtain ⟨simple, -, rfl⟩ := Option.map_eq_some_iff.1 known
          exact .simple simple
        · exact word isWord
  · exact .object _ false

/-- A collection that is described has no more dimensions than its description has characters. -/
lemma hasDimensions_readIn (description : String) :
    (readIn naming description false none).value.HasDimensions description.length := by
  have layers := fst_peelAtMost_le description.toList.length description.toList
  have whole : (read naming description.toList none).value.HasDimensions
      description.toList.length :=
    ((hasDimensions_readElement _).repeat_collectionOf _).mono layers
  rw [String.length_toList] at whole
  exact whole

end TypeDescription

/-! ## Rows of tables -/

namespace Table

variable {naming : TypeNaming} {limit : ℕ}

lemma length_cell_le {row : List String} (short : ∀ text ∈ row, text.length ≤ limit)
    (column : Option ℕ) :
    (cell row column).length ≤ limit := by
  unfold cell
  cases found : column.bind (row[·]?) with
  | none => exact Nat.zero_le limit
  | some text =>
      obtain ⟨position, -, isThere⟩ := Option.bind_eq_some_iff.1 found
      exact short text (mem_of_getElem? isThere)

lemma hasDimensions_parameterOf (columns : ColumnWords) (shape : TableShape) (kind : TableKind)
    (key : String) {row : List String} (short : ∀ text ∈ row, text.length ≤ limit) :
    (parameterOf naming columns shape kind key row).value.type.HasDimensions limit := by
  simp only [parameterOf]
  split
  · exact .simple .string
  · simp only [value_bind, value_pure, Parameter.ofType]
    exact (TypeDescription.hasDimensions_readIn _).mono (length_cell_le short _)

/-- The collections in a table have no more dimensions than its cells have characters. -/
lemma hasDimensions_of_mem_read {rules : TableRules} {shape : TableShape}
    {titles : List String} {line : ℕ}
    (short : ∀ row ∈ shape.rows, ∀ text ∈ row, text.length ≤ limit) :
    ∀ row ∈ (read naming rules shape titles line).value.parameters,
      row.type.HasDimensions limit := by
  intro row mem
  obtain ⟨kind, key, cells, isRow, rfl⟩ := exists_of_mem_read mem
  exact hasDimensions_parameterOf rules.columns shape kind key (short cells isRow)

end Table

end DocAudit
