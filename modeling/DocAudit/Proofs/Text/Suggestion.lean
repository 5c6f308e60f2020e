import DocAudit.Text.Suggestion
import Mathlib.Data.List.Basic

/-!
# What is suggested

A suggestion is one of the candidates, and it is not empty (`mem_of_suggest`).
-/

namespace DocAudit.Text

open List

variable {lookup name : String} {candidates : List String}

/-- The nearest of some candidates is one of them, or the best one so far. -/
lemma foldl_nearest {near : List (Nat × String)} {best found : Option (Nat × String)}
    (isFound : near.foldl nearest best = found) :
    found = best ∨ ∃ candidate ∈ near, found = some candidate := by
  induction near generalizing best with
  | nil => exact .inl isFound.symm
  | cons candidate rest ih =>
      have kept : nearest best candidate = best ∨ nearest best candidate = some candidate := by
        cases best with
        | none => exact .inr rfl
        | some best => exact (ite_eq_or_eq ..).symm
      rcases ih isFound with same | ⟨later, mem, same⟩
      · rw [same]
        exact kept.imp_right fun taken => ⟨candidate, mem_cons_self, taken⟩
      · exact .inr ⟨later, mem_cons_of_mem _ mem, same⟩

/-- A suggestion is one of the candidates, and it is not empty. -/
theorem mem_of_suggest (suggested : suggest lookup candidates = some name) :
    name ∈ candidates ∧ name ≠ "" := by
  rw [suggest, Option.map_eq_some_iff] at suggested
  obtain ⟨⟨distance, candidate⟩, nearest, rfl⟩ := suggested
  rcases foldl_nearest nearest with isNone | ⟨found, mem, isFound⟩
  · cases isNone
  · obtain rfl := Option.some.inj isFound
    obtain ⟨original, isCandidate, kept⟩ := mem_filterMap.1 mem
    obtain ⟨isFit, same⟩ := (Option.ite_none_right_eq_some ..).1 kept
    obtain ⟨-, rfl⟩ := Prod.mk.inj (Option.some.inj same)
    rw [Bool.and_eq_true, Bool.not_eq_true', String.isEmpty_eq_false_iff] at isFit
    exact ⟨isCandidate, isFit.1⟩

end DocAudit.Text
