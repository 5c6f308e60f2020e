import DocAudit.Proofs.ResourceGraph.BrokenReferences
import DocAudit.Proofs.ResourceGraph.CircularBases

/-!
# Pages that findings about resources concern

Every finding about the definitions of a set leads to a page with one of them: either the page is
among those that the finding names (`exists_file_mem_pages`), or it is the source of the finding
(`exists_source_eq_file`).
-/

namespace DocAudit

open List Definitions

namespace ResourceGraph

variable {definitions resources : List Resource} {name : String} {issue : Issue}

/-! ## Names with definitions -/

/-- The pages of some names are not empty if one of them has a definition. -/
lemma exists_file_mem_pagesOf {names : List String} (mem : name ∈ names)
    (defined : name ∈ Definitions.names definitions) :
    ∃ definition ∈ definitions, definition.file ∈ pagesOf definitions names := by
  obtain ⟨definition, isDefinition, rfl⟩ := mem_names.1 defined
  exact ⟨definition, isDefinition, mem_pagesOf.2 ⟨definition, isDefinition, mem, rfl⟩⟩

lemma exists_file_of_mem_caseMismatches {seen rest : List String}
    (defined : rest ⊆ names definitions)
    (mem : issue ∈ (reportCaseMismatches definitions seen rest).issues) :
    ∃ definition ∈ definitions, definition.file ∈ issue.pages := by
  induction rest generalizing seen with
  | nil => simp [reportCaseMismatches] at mem
  | cons first rest ih =>
      obtain ⟨isDefined, others⟩ := cons_subset.1 defined
      rw [reportCaseMismatches] at mem
      split at mem
      · rcases mem_append.1 mem with new | old
        · obtain rfl := mem_singleton.1 new
          exact exists_file_mem_pagesOf mem_cons_self isDefined
        · exact ih others old
      · exact ih others mem

lemma exists_file_of_mem_conflict (defined : name ∈ names definitions)
    (mem : issue ∈ (reportConflict definitions name).issues) :
    ∃ definition ∈ definitions, definition.file ∈ issue.pages := by
  rw [reportConflict] at mem
  split at mem
  · obtain rfl := mem_singleton.1 mem
    exact exists_file_mem_pagesOf (mem_singleton_self name) defined
  · simp at mem

/-- The first name of a walk that is reported has a base type, so it has a definition. -/
lemma exists_file_of_mem_circularWalks {walk : List String}
    (kept : walk ∈ circularWalks definitions) :
    ∃ definition ∈ definitions, definition.file ∈ (circularIssue definitions walk).pages := by
  obtain ⟨⟨start, middle, rfl, chain⟩, -⟩ := closed_of_mem_circularWalks kept
  obtain ⟨second, rest, behind⟩ := exists_cons_of_ne_nil (append_ne_nil_of_right_ne_nil middle
    (cons_ne_nil start []))
  rw [behind, isChain_cons_cons] at chain
  obtain ⟨resource, mem, named, -⟩ := chain.1.1
  refine exists_file_mem_pagesOf mem_cons_self (mem_names.2 ?_)
  exact exists_resource_iff.1 ⟨resource, mem, named⟩

/-- A finding made when definitions are brought together names the page of one of them. -/
lemma exists_file_mem_pages (mem : issue ∈ (resolve definitions).issues) :
    ∃ definition ∈ definitions, definition.file ∈ issue.pages := by
  rw [issues_resolve, mem_append, mem_append] at mem
  rcases mem with (mismatch | conflict) | cycle
  · exact exists_file_of_mem_caseMismatches (Subset.refl _) mismatch
  · obtain ⟨name, defined, mem⟩ := mem_flatMap.1 conflict
    exact exists_file_of_mem_conflict defined mem
  · obtain ⟨walk, kept, rfl⟩ := mem_map.1 cycle
    exact exists_file_of_mem_circularWalks kept

/-! ## References -/

/-- A finding about a reference is made where the definition stands that refers. -/
lemma exists_source_eq_file {enums : List String}
    (mem : issue ∈ (resolve definitions).value.checkReferences enums) :
    ∃ definition ∈ definitions, issue.source = some definition.file := by
  obtain ⟨entry, broken, -, rfl⟩ := mem_checkReferences_iff.1 mem
  exact ⟨entry.1, (mem_brokenReferences_iff.1 broken).1, rfl⟩

/-! ## Codes -/

/-- What bringing definitions together can find. -/
def codes : List IssueCode :=
  [.resourceNameCaseMismatch, .baseTypeConflict, .circularBaseType]

lemma code_of_mem_resolve (mem : issue ∈ (resolve definitions).issues) : issue.code ∈ codes := by
  rw [issues_resolve, mem_append, mem_append] at mem
  rcases mem with (mismatch | conflict) | cycle
  · simp [codes, code_of_mem_caseMismatches mismatch]
  · obtain ⟨name, -, mem⟩ := mem_flatMap.1 conflict
    simp [codes, code_of_mem_conflict mem]
  · obtain ⟨walk, -, rfl⟩ := mem_map.1 cycle
    simp [codes, circularIssue, concerning, Issue.error]

lemma code_of_mem_checkReferences {enums : List String}
    (mem : issue ∈ (resolve definitions).value.checkReferences enums) :
    issue.code = .unresolvedTypeReference ∧ issue.isError = true := by
  obtain ⟨entry, -, -, rfl⟩ := mem_checkReferences_iff.1 mem
  exact ⟨rfl, rfl⟩

end ResourceGraph

end DocAudit
