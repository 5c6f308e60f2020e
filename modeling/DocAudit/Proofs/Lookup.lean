import Mathlib.Data.List.Nodup

/-!
# Looking up keys

Looking up a key gives the first entry with the key, so something is found exactly if the key is
there (`isSome_lookup_iff`).  Where the keys are distinct, every entry is found by its key
(`lookup_of_mem`).
-/

namespace DocAudit

open List

variable {α β γ : Type} [BEq α] [LawfulBEq α] {key first : α} {value : β} {entries : List (α × β)}

lemma lookup_cons_of_ne (other : key ≠ first) :
    ((first, value) :: entries).lookup key = entries.lookup key := by
  rw [lookup_cons, beq_eq_false_iff_ne.2 other]

lemma mem_of_lookup (found : entries.lookup key = some value) : (key, value) ∈ entries := by
  obtain ⟨before, after, rfl, -⟩ := lookup_eq_some_iff.1 found
  exact mem_append_right _ mem_cons_self

lemma lookup_eq_none_iff_not_mem : entries.lookup key = none ↔ key ∉ entries.map (·.1) := by
  simp only [lookup_eq_none_iff, bne_iff_ne, mem_map, not_exists, not_and]
  exact forall₂_congr fun entry _ => ne_comm

lemma isSome_lookup_iff : (entries.lookup key).isSome = true ↔ key ∈ entries.map (·.1) := by
  rw [Option.isSome_iff_ne_none, ne_eq, lookup_eq_none_iff_not_mem, not_not]

lemma lookup_map_snd (change : β → γ) (entries : List (α × β)) (key : α) :
    (entries.map (Prod.map id change)).lookup key = (entries.lookup key).map change := by
  induction entries with
  | nil => rfl
  | cons entry rest ih =>
      obtain ⟨first, value⟩ := entry
      rw [map_cons, Prod.map_apply, id]
      by_cases same : key = first
      · rw [same, lookup_cons_self, lookup_cons_self, Option.map_some]
      · rw [lookup_cons_of_ne same, lookup_cons_of_ne same, ih]

/-- Looking up a key needs only the entries with keys of some kind, if the key is of this kind. -/
lemma lookup_filter_fst (isKind : α → Bool) (kind : isKind key = true) (entries : List (α × β)) :
    (entries.filter fun entry => isKind entry.1).lookup key = entries.lookup key := by
  induction entries with
  | nil => rfl
  | cons entry rest ih =>
      obtain ⟨first, value⟩ := entry
      by_cases same : key = first
      · subst same
        rw [filter_cons, if_pos kind, lookup_cons_self, lookup_cons_self]
      · rw [lookup_cons_of_ne same, filter_cons]
        split
        · rw [lookup_cons_of_ne same, ih]
        · exact ih

/-- Distinct keys hide no entry. -/
lemma lookup_of_mem (distinct : (entries.map (·.1)).Nodup) (mem : (key, value) ∈ entries) :
    entries.lookup key = some value := by
  obtain ⟨before, after, rfl⟩ := append_of_mem mem
  refine lookup_eq_some_iff.2 ⟨before, after, rfl, fun entry isBefore => bne_iff_ne.2 ?_⟩
  rintro rfl
  rw [map_append, map_cons, nodup_append] at distinct
  exact distinct.2.2 _ (mem_map_of_mem isBefore) _ mem_cons_self rfl

end DocAudit
