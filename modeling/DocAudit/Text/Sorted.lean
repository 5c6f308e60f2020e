/-!
# Sorted texts

Sets of texts that a report shows are written in the order of their characters, each text once.
-/

namespace DocAudit.Text

/-- Puts a text into a sorted list, unless it is there. -/
def insertSorted (text : String) : List String → List String
  | [] => [text]
  | first :: rest =>
    if text < first then text :: first :: rest
    else if text = first then first :: rest
    else first :: insertSorted text rest

/-- Some texts in order, each once. -/
def sorted (texts : List String) : List String :=
  texts.foldr insertSorted []

theorem mem_insertSorted {text other : String} {texts : List String} :
    other ∈ insertSorted text texts ↔ other = text ∨ other ∈ texts := by
  induction texts with
  | nil => simp [insertSorted]
  | cons first rest ih => grind [insertSorted]

/-- Sorting keeps all texts and adds none. -/
theorem mem_sorted {text : String} {texts : List String} : text ∈ sorted texts ↔ text ∈ texts := by
  induction texts with
  | nil => simp [sorted]
  | cons first rest ih =>
    rw [sorted, List.foldr_cons, ← sorted, mem_insertSorted, ih, List.mem_cons]

theorem pairwise_insertSorted {text : String} {texts : List String}
    (h : texts.Pairwise (· < ·)) : (insertSorted text texts).Pairwise (· < ·) := by
  induction texts with
  | nil => simp [insertSorted]
  | cons first rest ih =>
    obtain ⟨below, rest_sorted⟩ := List.pairwise_cons.1 h
    rw [insertSorted]
    split
    · next before =>
      refine List.pairwise_cons.2 ⟨fun other mem => ?_, h⟩
      rcases List.mem_cons.1 mem with rfl | mem
      · exact before
      · exact String.lt_trans before (below other mem)
    · next notBefore =>
      split
      · exact h
      · next different =>
        refine List.pairwise_cons.2 ⟨fun other mem => ?_, ih rest_sorted⟩
        rcases mem_insertSorted.1 mem with rfl | mem
        · exact Std.lt_of_le_of_ne (String.not_lt.1 notBefore) (Ne.symm different)
        · exact below other mem

/-- Sorted texts are in strict order. -/
theorem pairwise_sorted (texts : List String) : (sorted texts).Pairwise (· < ·) := by
  induction texts with
  | nil => exact List.Pairwise.nil
  | cons first rest ih => exact pairwise_insertSorted ih

/-- No text stands twice among sorted ones. -/
theorem nodup_sorted (texts : List String) : (sorted texts).Nodup := by
  refine (pairwise_sorted texts).imp fun before => ?_
  rintro rfl
  exact String.lt_irrefl _ before

end DocAudit.Text
