import DocAudit.Proofs.ResourceGraph.BrokenReferences
import Mathlib.Data.List.Forall2

/-!
# Unresolved types

A definition lacks a type if it refers to one that nothing declares, be it as the base type that it
declares by itself or as the type of a property (`Lacks`).  Checking references says which types are
lacking and nothing else: there is one issue for each name of a resource and type that definitions
of this name lack, and it leads to the page of the first of them (`unresolvedType_reported`).

A base type that a definition only has because another one of its name declares it is not among its
references, so it is reported at most where it is declared.
-/

namespace DocAudit.ResourceGraph

open List Definitions

variable {definitions : List Resource} {enums : List String} {definition : Resource}
  {name type : String} {entry : Resource × TypeReference} {α β κ : Type}

/-! ## Types that definitions lack -/

/-- A definition refers to a type by a name, as the base type that it declares by itself or as the
type of a property or of its elements. -/
def RefersTo (definition : Resource) (name : String) : Prop :=
  definition.baseType = some name
    ∨ ∃ parameter ∈ definition.parameters, parameter.type.customName = some name

/-- What a name means in the definition of a resource: a name without a namespace is one in the
namespace of the resource, if that has one. -/
def meaning (resource name : String) : String :=
  match TypeName.namespace? name, TypeName.namespace? resource with
  | none, some space => s!"{space}.{name}"
  | _, _ => name

/-- A definition refers to a type that nothing declares, neither as it is meant nor as it is
written. -/
def Lacks (definitions : List Resource) (enums : List String) (definition : Resource)
    (type : String) : Prop :=
  ∃ name, RefersTo definition name ∧ meaning definition.name name = type
    ∧ ¬ Declared definitions enums type ∧ ¬ Declared definitions enums name

/-- A member of a list is the first one that something holds of. -/
def IsFirst (holds : α → Prop) (list : List α) (a : α) : Prop :=
  ∃ before after, list = before ++ a :: after ∧ holds a ∧ ∀ b ∈ before, ¬ holds b

/-- An issue is the report that definitions of a name lack a type. -/
structure Reports (definitions : List Resource) (enums : List String) (key : String × String)
    (issue : Issue) : Prop where
  code : issue.code = .unresolvedTypeReference
  severity : issue.severity = .error
  message : ∃ role hint : String,
    issue.message = s!"Resource '{key.1}' references unknown {role} '{key.2}'.{hint}"
  source : ∃ definition, issue.source = some definition.file
    ∧ IsFirst (fun other => other.name = key.1
      ∧ Lacks definitions enums other key.2) definitions definition

/-! ## Broken references of one definition -/

/-- The references of a definition to types that nothing declares. -/
def brokenOf (definitions : List Resource) (enums : List String) (definition : Resource) :
    List (Resource × TypeReference) :=
  ((TypeReference.ofResource definition.baseType definition).map fun reference =>
    (definition, reference)).filter
    fun entry => ¬ Recognized definitions enums entry.1 entry.2

lemma brokenReferences_eq :
    brokenReferences definitions enums = definitions.flatMap (brokenOf definitions enums) := by
  simp only [brokenReferences, madeReferences, filter_flatMap]
  rfl

lemma refersTo_iff :
    RefersTo definition name
      ↔ ∃ reference ∈ TypeReference.ofResource definition.baseType definition,
        reference.name = name := by
  simp only [RefersTo, TypeReference.ofResource, mem_append, mem_map, mem_filterMap,
    Option.mem_toList]
  constructor
  · rintro (declared | ⟨parameter, isParameter, named⟩)
    · exact ⟨⟨"base type", name⟩, .inl ⟨name, declared, rfl⟩, rfl⟩
    · refine ⟨⟨"property type", name⟩, .inr ⟨parameter, isParameter, ?_⟩, rfl⟩
      rw [named, Option.map_some]
  · rintro ⟨reference, ⟨base, declared, rfl⟩ | ⟨parameter, isParameter, named⟩, rfl⟩
    · exact .inl declared
    · obtain ⟨known, isName, rfl⟩ := Option.map_eq_some_iff.1 named
      exact .inr ⟨parameter, isParameter, isName⟩

lemma fst_of_mem_brokenOf (mem : entry ∈ brokenOf definitions enums definition) :
    entry.1 = definition := by
  obtain ⟨reference, -, rfl⟩ := mem_map.1 (mem_of_mem_filter mem)
  rfl

/-- A definition lacks the types that its broken references mean. -/
lemma lacks_iff :
    Lacks definitions enums definition type
      ↔ ∃ entry ∈ brokenOf definitions enums definition,
        reportKey entry = (definition.name, type) := by
  simp only [Lacks, refersTo_iff, brokenOf, mem_filter, mem_map, decide_eq_true_iff,
    Recognized, not_or]
  constructor
  · rintro ⟨name, ⟨reference, isReference, rfl⟩, rfl, unknown⟩
    exact ⟨(definition, reference), ⟨⟨reference, isReference, rfl⟩, unknown⟩, rfl⟩
  · rintro ⟨_, ⟨⟨reference, isReference, rfl⟩, unknown⟩, same⟩
    obtain rfl : reference.qualified definition = type := (Prod.mk.inj same).2
    exact ⟨reference.name, ⟨reference, isReference, rfl⟩, rfl, unknown⟩

/-- The first broken reference of a key is one of the first definition that lacks the type. -/
lemma isFirst_of_find?
    (found : (brokenReferences definitions enums).find? (reportKey · == (name, type))
      = some entry) :
    IsFirst (fun other => other.name = name
      ∧ Lacks definitions enums other type) definitions entry.1 := by
  rw [brokenReferences_eq, find?_flatMap, findSome?_eq_some_iff] at found
  obtain ⟨before, definition, after, cut, found, noneEarlier⟩ := found
  have mem := mem_of_find?_eq_some found
  have key := find?_some found
  rw [beq_iff_eq] at key
  obtain rfl := fst_of_mem_brokenOf mem
  obtain rfl : entry.1.name = name := (Prod.mk.inj key).1
  refine ⟨before, after, cut, ⟨rfl, lacks_iff.2 ⟨entry, mem, key⟩⟩, ?_⟩
  rintro earlier isBefore ⟨same, lacks⟩
  obtain ⟨other, isOther, otherKey⟩ := lacks_iff.1 lacks
  have differs := find?_eq_none.1 (noneEarlier earlier isBefore) other isOther
  rw [otherKey, same] at differs
  exact differs (beq_self_eq_true _)

/-! ## One issue for each key -/

/-- Where only the first entry of each key is kept, keys do not repeat. -/
lemma nodup_map_eraseDupsBy [BEq κ] [LawfulBEq κ] (key : α → κ) : ∀ list : List α,
    ((list.eraseDupsBy fun b c => key b == key c).map key).Nodup
  | [] => nodup_nil
  | first :: rest => by
      rw [eraseDupsBy_cons, map_cons, nodup_cons]
      refine ⟨fun again => ?_, nodup_map_eraseDupsBy key _⟩
      obtain ⟨later, mem, same⟩ := mem_map.1 again
      have isKept := mem_of_find?_eq_some ((mem_eraseDupsBy_iff key _).1 mem)
      simp [same] at isKept
termination_by list => list.length
decreasing_by exact Nat.lt_succ_of_le (length_filter_le _ rest)

/-- Keeping the first entry of each key does not depend on what else is in the entries. -/
lemma eraseDupsBy_map (change : α → β) (same : β → β → Bool) : ∀ list : List α,
    (list.map change).eraseDupsBy same
      = (list.eraseDupsBy fun a b => same (change a) (change b)).map change
  | [] => rfl
  | first :: rest => by
      rw [map_cons, eraseDupsBy_cons, eraseDupsBy_cons, map_cons, filter_map,
        eraseDupsBy_map change same]
      rfl
termination_by list => list.length
decreasing_by exact Nat.lt_succ_of_le (length_filter_le _ rest)

/-- The names of resources and types that issues are written about. -/
def unresolvedKeys (definitions : List Resource) (enums : List String) : List (String × String) :=
  ((brokenReferences definitions enums).eraseDupsBy fun a b =>
    reportKey a == reportKey b).map reportKey

lemma nodup_unresolvedKeys : (unresolvedKeys definitions enums).Nodup :=
  nodup_map_eraseDupsBy reportKey _

/-- Issues are written about the types that definitions lack. -/
lemma mem_unresolvedKeys :
    (name, type) ∈ unresolvedKeys definitions enums
      ↔ ∃ definition ∈ definitions, definition.name = name
        ∧ Lacks definitions enums definition type := by
  simp only [unresolvedKeys, mem_map, mem_eraseDupsBy_iff]
  constructor
  · rintro ⟨entry, found, key⟩
    rw [key] at found
    obtain ⟨before, after, cut, holds, -⟩ := isFirst_of_find? found
    refine ⟨entry.1, ?_, holds⟩
    rw [cut]
    exact mem_append_right before mem_cons_self
  · rintro ⟨definition, mem, rfl, lacks⟩
    obtain ⟨entry, isBroken, key⟩ := lacks_iff.1 lacks
    have isThere : ((brokenReferences definitions enums).find?
        (reportKey · == (definition.name, type))).isSome := by
      rw [find?_isSome, brokenReferences_eq]
      exact ⟨entry, mem_flatMap.2 ⟨definition, mem, isBroken⟩, by simp [key]⟩
    obtain ⟨first, found⟩ := Option.isSome_iff_exists.1 isThere
    have same := find?_some found
    rw [beq_iff_eq] at same
    exact ⟨first, same.symm ▸ found, same⟩

lemma checkReferences_resolve :
    (resolve definitions).value.checkReferences enums
      = ((brokenReferences definitions enums).eraseDupsBy fun a b => reportKey a == reportKey b).map
          fun entry =>
            entry.2.unresolved ((resolve definitions).value.knownNames enums) entry.1 := by
  rw [checkReferences_eq, flagged_resolve, eraseDupsBy_map, map_map]
  simp only [reportKey_placed, Function.comp_def, unresolved_placed]

/-- The issues are the reports about the keys, in this order. -/
lemma forall₂_reports :
    Forall₂ (Reports definitions enums) (unresolvedKeys definitions enums)
      ((resolve definitions).value.checkReferences enums) := by
  rw [checkReferences_resolve, unresolvedKeys, forall₂_map_left_iff,
    forall₂_map_right_iff, forall₂_same]
  intro entry kept
  have found := (mem_eraseDupsBy_iff reportKey _).1 kept
  exact ⟨rfl, rfl, ⟨entry.2.role, _, rfl⟩, entry.1, rfl, isFirst_of_find? found⟩

/-- **Checking references reports the types that definitions lack,** and nothing else.  The issues
correspond one to one to the names of resources and types such that some definition of the name
lacks the type.  Each of them is an error that tells the two names and leads to the page of the
first definition of the name that lacks the type. -/
theorem unresolvedType_reported (definitions : List Resource) (enums : List String) :
    ∃ keys : List (String × String), keys.Nodup
      ∧ (∀ name type, (name, type) ∈ keys ↔
          ∃ definition ∈ definitions, definition.name = name
            ∧ Lacks definitions enums definition type)
      ∧ Forall₂ (Reports definitions enums) keys
        ((resolve definitions).value.checkReferences enums) := by
  refine ⟨unresolvedKeys definitions enums, nodup_unresolvedKeys, ?_, forall₂_reports⟩
  intro name type
  exact mem_unresolvedKeys

/-- The page that declares the base type has the issue, and not the earlier one that takes it
over. -/
example :
    ((resolve [bareDefinition "foo.a" none "a.md",
    bareDefinition "foo.a" (some "b") "b.md"]).value.checkReferences
    []).map (·.source) = [some "b.md"] := rfl

end DocAudit.ResourceGraph
