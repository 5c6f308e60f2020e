import DocAudit.Json.Reader
import Mathlib.Data.List.Nodup

/-!
# Names in JSON objects

A text may repeat a name in an object, but the object that is read from it does not: the later value
takes the place of the earlier one.  This holds of every object in a value that was read, however
deep it stands (`Json.Value.hasDistinctNames_of_read`).
-/

namespace DocAudit.Json

open List

/-- No object in a value repeats a name. -/
inductive Value.HasDistinctNames : Value → Prop where
  | null : HasDistinctNames .null
  | bool (value : Bool) : HasDistinctNames (.bool value)
  | number (value : Number) : HasDistinctNames (.number value)
  | string (value : String) : HasDistinctNames (.string value)
  | array {items : List Value} (each : ∀ item ∈ items, item.HasDistinctNames) :
      HasDistinctNames (.array items)
  | object {members : List (String × Value)} (distinct : (members.map Prod.fst).Nodup)
      (values : ∀ member ∈ members, member.2.HasDistinctNames) : HasDistinctNames (.object members)

variable {members written : List (String × Value)} {member : String × Value} {name : String}
  {value : Value}

/-! ## Collecting members -/

/-- Setting a member adds its name at the end, unless the name is there. -/
lemma map_fst_insertMember : (Value.insertMember name value members).map Prod.fst
    = if name ∈ members.map Prod.fst then members.map Prod.fst else members.map Prod.fst
      ++ [name] := by
  induction members with
  | nil => rfl
  | cons first rest ih =>
      obtain ⟨known, old⟩ := first
      by_cases same : known = name
      · simp [Value.insertMember, same]
      · rw [Value.insertMember, if_neg same, map_cons, ih]
        have other : name ∈ map Prod.fst ((known, old) :: rest) ↔ name ∈ rest.map Prod.fst := by
          simp [Ne.symm same]
        simp only [other]
        split <;> simp

/-- A member has the value that was set, or was there before. -/
lemma of_mem_insertMember (mem : member ∈ Value.insertMember name value members) :
    member.2 = value ∨ member ∈ members := by
  induction members with
  | nil => exact .inl (congrArg Prod.snd (mem_singleton.1 mem))
  | cons first rest ih =>
      obtain ⟨known, old⟩ := first
      rw [Value.insertMember] at mem
      split at mem
      · rcases mem_cons.1 mem with rfl | later
        · exact .inl rfl
        · exact .inr (mem_cons_of_mem _ later)
      · rcases mem_cons.1 mem with rfl | later
        · exact .inr mem_cons_self
        · exact (ih later).imp_right (mem_cons_of_mem _)

/-- What holds of no members, and still holds when a written member is set, holds of the collected
members. -/
lemma collectMembers_induction {motive : List (String × Value) → Prop} (empty : motive [])
    (insert : ∀ members, motive members → ∀ member ∈ written,
      motive (Value.insertMember member.1 member.2 members)) :
    motive (Value.collectMembers written) :=
  foldlRecOn written _ empty insert

lemma nodup_collectMembers (written : List (String × Value)) :
    ((Value.collectMembers written).map Prod.fst).Nodup := by
  refine collectMembers_induction
    (motive := fun members => (members.map Prod.fst).Nodup) nodup_nil ?_
  intro members nodup member _
  rw [map_fst_insertMember]
  split
  · exact nodup
  · next new => exact nodup.append (nodup_singleton _) (disjoint_singleton.2 new)

/-- The value of a collected member was written, though it may have replaced another one. -/
lemma exists_written_of_mem_collectMembers (mem : member ∈ Value.collectMembers written) :
    ∃ part ∈ written, part.2 = member.2 := by
  refine collectMembers_induction
    (motive := fun members => ∀ member ∈ members, ∃ part ∈ written, part.2 = member.2)
    (forall_mem_nil _) (fun members known part isWritten => ?_) member mem
  intro member mem
  rcases of_mem_insertMember mem with same | before
  · exact ⟨part, isWritten, same.symm⟩
  · exact known member before

/-! ## Values of texts -/

mutual

lemma Written.hasDistinctNames_evaluate? : ∀ {text : Written} {value : Value},
    text.evaluate? = some value → value.HasDistinctNames
  | .null, _, rfl => .null
  | .bool value, _, rfl => .bool value
  | .number _, _, h => by
      obtain ⟨size, -, rfl⟩ := Option.map_eq_some_iff.1 h
      exact .number size
  | .string _, _, h => by
      obtain ⟨text, -, rfl⟩ := Option.map_eq_some_iff.1 h
      exact .string text
  | .array _, _, h => by
      obtain ⟨values, read, rfl⟩ := Option.map_eq_some_iff.1 h
      exact .array (hasDistinctNames_evaluateItems? read)
  | .object _, _, h => by
      obtain ⟨written, read, rfl⟩ := Option.map_eq_some_iff.1 h
      refine .object (nodup_collectMembers written) fun member mem => ?_
      obtain ⟨part, isWritten, same⟩ := exists_written_of_mem_collectMembers mem
      exact same ▸ hasDistinctNames_evaluateMembers? read part isWritten

lemma Written.hasDistinctNames_evaluateItems? : ∀ {items : List Written} {values : List Value},
    Written.evaluateItems? items = some values → ∀ value ∈ values, value.HasDistinctNames
  | [], _, rfl => fun _ mem => absurd mem not_mem_nil
  | _ :: _, _, h => by
      rw [Written.evaluateItems?] at h
      obtain ⟨first, isFirst, h⟩ := Option.bind_eq_some_iff.1 h
      obtain ⟨others, areOthers, h⟩ := Option.bind_eq_some_iff.1 h
      cases h
      exact forall_mem_cons.2
        ⟨hasDistinctNames_evaluate? isFirst, hasDistinctNames_evaluateItems? areOthers⟩

lemma Written.hasDistinctNames_evaluateMembers? : ∀ {parts : List (Option String × Written)}
    {members : List (String × Value)}, Written.evaluateMembers? parts = some members →
      ∀ member ∈ members, member.2.HasDistinctNames
  | [], _, rfl => fun _ mem => absurd mem not_mem_nil
  | _ :: _, _, h => by
      rw [Written.evaluateMembers?] at h
      obtain ⟨_, -, h⟩ := Option.bind_eq_some_iff.1 h
      obtain ⟨value, isValue, h⟩ := Option.bind_eq_some_iff.1 h
      obtain ⟨others, areOthers, h⟩ := Option.bind_eq_some_iff.1 h
      cases h
      exact forall_mem_cons.2
        ⟨hasDistinctNames_evaluate? isValue, hasDistinctNames_evaluateMembers? areOthers⟩

end

/-- No object in a value that was read repeats a name. -/
lemma Value.hasDistinctNames_of_read {text : List Char} (h : Value.read? text = some value) :
    value.HasDistinctNames := by
  obtain ⟨written, -, h⟩ := Option.bind_eq_some_iff.1 h
  rw [Written.value?, Option.ite_none_right_eq_some] at h
  exact Written.hasDistinctNames_evaluate? h.2

end DocAudit.Json
