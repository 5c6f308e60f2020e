import DocAudit.Proofs.Json.DistinctNames

/-!
# Depth of JSON values

Arrays and objects are nested in a value no deeper than in the text that it is read from, and a text
that is nested too deeply has no value (`Json.Value.hasDepth_of_read`).
-/

namespace DocAudit.Json

open List

/-- Arrays and objects are nested in a value at most to some depth. -/
inductive Value.HasDepth : ℕ → Value → Prop where
  | null {depth : ℕ} : HasDepth depth .null
  | bool {depth : ℕ} (value : Bool) : HasDepth depth (.bool value)
  | number {depth : ℕ} (value : Number) : HasDepth depth (.number value)
  | string {depth : ℕ} (value : String) : HasDepth depth (.string value)
  | array {depth : ℕ} {items : List Value} (each : ∀ item ∈ items, item.HasDepth depth) :
      HasDepth (depth + 1) (.array items)
  | object {depth : ℕ} {members : List (String × Value)}
      (values : ∀ member ∈ members, member.2.HasDepth depth) :
      HasDepth (depth + 1) (.object members)

lemma Value.HasDepth.mono {value : Value} {depth more : ℕ} (h : value.HasDepth depth)
    (grows : depth ≤ more) :
    value.HasDepth more := by
  induction h generalizing more with
  | null => exact .null
  | bool value => exact .bool value
  | number value => exact .number value
  | string value => exact .string value
  | array _ ih =>
      obtain ⟨more, rfl⟩ := Nat.exists_eq_succ_of_ne_zero (by omega : more ≠ 0)
      exact .array fun item mem => ih item mem (Nat.le_of_succ_le_succ grows)
  | object _ ih =>
      obtain ⟨more, rfl⟩ := Nat.exists_eq_succ_of_ne_zero (by omega : more ≠ 0)
      exact .object fun member mem => ih member mem (Nat.le_of_succ_le_succ grows)

mutual

/-- A value is nested as deeply as the text that it is read from. -/
lemma Written.hasDepth_evaluate? : ∀ {text : Written} {value : Value} {depth : ℕ},
    text.depth ≤ depth → text.evaluate? = some value → value.HasDepth depth
  | .null, _, _, _, rfl => .null
  | .bool value, _, _, _, rfl => .bool value
  | .number _, _, _, _, h => by
      obtain ⟨size, -, rfl⟩ := Option.map_eq_some_iff.1 h
      exact .number size
  | .string _, _, _, _, h => by
      obtain ⟨text, -, rfl⟩ := Option.map_eq_some_iff.1 h
      exact .string text
  | .array _, _, 0, shallow, _ => by
      rw [Written.depth] at shallow
      omega
  | .array _, _, _ + 1, shallow, h => by
      rw [Written.depth] at shallow
      obtain ⟨values, read, rfl⟩ := Option.map_eq_some_iff.1 h
      exact .array (hasDepth_evaluateItems? (Nat.le_of_succ_le_succ shallow) read)
  | .object _, _, 0, shallow, _ => by
      rw [Written.depth] at shallow
      omega
  | .object _, _, _ + 1, shallow, h => by
      rw [Written.depth] at shallow
      obtain ⟨written, read, rfl⟩ := Option.map_eq_some_iff.1 h
      refine .object fun member mem => ?_
      obtain ⟨part, isWritten, same⟩ := exists_written_of_mem_collectMembers mem
      exact same ▸ hasDepth_evaluateMembers? (Nat.le_of_succ_le_succ shallow) read part isWritten

lemma Written.hasDepth_evaluateItems? : ∀ {items : List Written} {values : List Value} {depth : ℕ},
    Written.depthOfItems items ≤ depth → Written.evaluateItems? items = some values →
      ∀ value ∈ values, value.HasDepth depth
  | [], _, _, _, rfl => fun _ mem => absurd mem not_mem_nil
  | _ :: _, _, _, shallow, h => by
      rw [Written.depthOfItems] at shallow
      rw [Written.evaluateItems?] at h
      obtain ⟨first, isFirst, h⟩ := Option.bind_eq_some_iff.1 h
      obtain ⟨others, areOthers, h⟩ := Option.bind_eq_some_iff.1 h
      cases h
      exact forall_mem_cons.2 ⟨hasDepth_evaluate? (Nat.max_le.1 shallow).1 isFirst,
        hasDepth_evaluateItems? (Nat.max_le.1 shallow).2 areOthers⟩

lemma Written.hasDepth_evaluateMembers? : ∀ {parts : List (Option String × Written)}
    {members : List (String × Value)} {depth : ℕ}, Written.depthOfMembers parts ≤ depth →
      Written.evaluateMembers? parts = some members → ∀ member ∈ members, member.2.HasDepth depth
  | [], _, _, _, rfl => fun _ mem => absurd mem not_mem_nil
  | (_, _) :: _, _, _, shallow, h => by
      rw [Written.depthOfMembers] at shallow
      rw [Written.evaluateMembers?] at h
      obtain ⟨_, -, h⟩ := Option.bind_eq_some_iff.1 h
      obtain ⟨value, isValue, h⟩ := Option.bind_eq_some_iff.1 h
      obtain ⟨others, areOthers, h⟩ := Option.bind_eq_some_iff.1 h
      cases h
      exact forall_mem_cons.2 ⟨hasDepth_evaluate? (Nat.max_le.1 shallow).1 isValue,
        hasDepth_evaluateMembers? (Nat.max_le.1 shallow).2 areOthers⟩

end

lemma Value.hasDepth_of_read {text : List Char} {value : Value}
    (h : Value.read? text = some value) :
    value.HasDepth Written.maxDepth := by
  obtain ⟨written, -, h⟩ := Option.bind_eq_some_iff.1 h
  rw [Written.value?, Option.ite_none_right_eq_some] at h
  exact Written.hasDepth_evaluate? h.1 h.2

end DocAudit.Json
