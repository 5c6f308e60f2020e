import DocAudit.Proofs.Json.DistinctNames
import DocAudit.Resource

/-!
# Properties of an example

The properties of a resource are members of an object that was read, which does not repeat a name,
so a resource shows every property once (`Resource.of_ofExample`).
-/

namespace DocAudit

open List

lemma Property.map_name_ofMembers (naming : TypeNaming) (members : List (String × Json.Value)) :
    (ofMembers naming members).map (·.name) = (members.map Prod.fst).filter isProperty := by
  induction members with
  | nil => rfl
  | cons first rest ih =>
      obtain ⟨name, value⟩ := first
      by_cases isShown : isProperty name <;> simp [ofMembers, isShown, ih, shown, Parameter.ofType]

namespace Resource

variable {naming : TypeNaming} {metadata : CodeMetadata} {json : String}

/-- An example shows an object that no name is repeated in. -/
lemma hasDistinctNames_exampleMembers {value : Json.Value} {isCollection : Bool}
    {members : List (String × Json.Value)} (h : value.HasDistinctNames)
    (isShown : exampleMembers? isCollection value = some members) :
    (Json.Value.object members).HasDistinctNames := by
  cases h with
  | array items =>
      rw [exampleMembers?, Option.ite_none_right_eq_some] at isShown
      obtain ⟨first, isFirst, isObject⟩ := Option.bind_eq_some_iff.1 isShown.2
      cases first with
      | object _ =>
          cases isObject
          exact items _ (mem_of_mem_head? isFirst)
      | _ => cases isObject
  | object distinct values =>
      cases isShown
      exact .object distinct values
  | _ => cases isShown

/-- The members that the text of an example shows of a resource; none if it cannot be read. -/
def shownMembers (metadata : CodeMetadata) (json : String) : List (String × Json.Value) :=
  ((Json.Value.read? json.toList).bind (exampleMembers? metadata.isCollection)).getD []

lemma shownMembers_cases (metadata : CodeMetadata) (json : String) : shownMembers metadata json = []
    ∨ ∃ value, Json.Value.read? json.toList = some value
      ∧ exampleMembers? metadata.isCollection value = some (shownMembers metadata json) := by
  unfold shownMembers
  cases read : Json.Value.read? json.toList with
  | none => exact .inl rfl
  | some value =>
      cases isShown : exampleMembers? metadata.isCollection value with
      | none =>
          rw [Option.bind_some, isShown]
          exact .inl rfl
      | some members =>
          rw [Option.bind_some, isShown]
          exact .inr ⟨value, rfl, isShown⟩

lemma hasDistinctNames_shownMembers (metadata : CodeMetadata) (json : String) :
    (Json.Value.object (shownMembers metadata json)).HasDistinctNames := by
  rcases shownMembers_cases metadata json with nothing | ⟨value, read, isShown⟩
  · rw [nothing]
    exact .object nodup_nil (forall_mem_nil _)
  · exact hasDistinctNames_exampleMembers (Json.Value.hasDistinctNames_of_read read) isShown

/-- A resource stands where its example stands, and its properties are the members that the example
shows. -/
lemma of_ofExample_eq_some {origin : BlockOrigin} {resource : Resource}
    (h : (ofExample naming metadata json origin).value = some resource) :
    resource.file = origin.file
      ∧ resource.parameters = (Property.ofMembers naming (shownMembers metadata json)).map
        fun parameter =>
        { parameter with navigable := metadata.navigationProperties.contains parameter.name } := by
  simp only [ofExample] at h
  split at h
  · cases h
  · obtain ⟨parameters, isRead, rfl⟩ := Option.map_eq_some_iff.1 h
    refine ⟨rfl, ?_⟩
    unfold exampleProperties at isRead
    unfold shownMembers
    split at isRead
    · next value read =>
        rw [read, Option.bind_some]
        split at isRead
        · next members isShown =>
            cases isRead
            rw [isShown]
            rfl
        · cases isRead
    · next unread =>
        rw [unread]
        split at isRead
        · cases isRead
          rfl
        · cases isRead

/-- A resource shows every property once. -/
lemma of_ofExample {origin : BlockOrigin} {resource : Resource}
    (h : (ofExample naming metadata json origin).value = some resource) :
    resource.file = origin.file ∧ (resource.parameters.map (·.name)).Nodup := by
  obtain ⟨here, shown⟩ := of_ofExample_eq_some h
  refine ⟨here, ?_⟩
  rw [shown, map_map]
  change ((Property.ofMembers naming (shownMembers metadata json)).map (·.name)).Nodup
  rw [Property.map_name_ofMembers]
  cases hasDistinctNames_shownMembers metadata json with
  | object distinct _ => exact distinct.filter _

end Resource

end DocAudit
