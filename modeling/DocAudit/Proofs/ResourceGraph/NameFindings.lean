import DocAudit.Proofs.Issue.Codes
import DocAudit.Proofs.ResourceGraph.CircularBases
import Mathlib.Data.Finset.Card

/-!
# Findings about names

Bringing definitions together makes two kinds of findings about a name by itself: its definitions
declare different base types, or it differs only in case from an earlier name.  The former are made
exactly for the names with several base types (`filter_conflicts_resolve`).  Of the latter there are
as many as there are names more than names without regard to case (`length_caseMismatches_add`).
-/

namespace DocAudit.ResourceGraph

open List Definitions

variable {definitions : List Resource} {name : String}

/-! ## Base types that differ -/

/-- The issue for a name whose definitions declare different base types. -/
def conflictIssue (definitions : List Resource) (name : String) : Issue :=
  let described := (definitions.filter (·.name == name)).map fun definition =>
    let base := definition.baseType.getD "none"
    s!"{definition.file} ({base})"
  let list := ", ".intercalate described
  concerning definitions [name]
    (.error .baseTypeConflict s!"Resource '{name}' declares conflicting base types: {list}")

/-- The names whose definitions declare different base types. -/
def conflictingNames (definitions : List Resource) : List String :=
  (names definitions).filter fun name => (baseTypes definitions name).length > 1

lemma mem_conflictingNames : name ∈ conflictingNames definitions ↔
    (∃ definition ∈ definitions, definition.name = name)
      ∧ 1 < (baseTypes definitions name).length := by
  simp only [conflictingNames, mem_filter, mem_names, decide_eq_true_iff]

lemma nodup_conflictingNames : (conflictingNames definitions).Nodup :=
  nodup_names.filter _

lemma issues_reportConflict (definitions : List Resource) (name : String) :
    (reportConflict definitions name).issues
      = if (baseTypes definitions name).length > 1 then [conflictIssue definitions name]
        else [] := by
  unfold reportConflict
  split <;> rfl

/-! ## The findings of each kind -/

/-- The issues for names that differ only in case from an earlier one. -/
def caseMismatches (definitions : List Resource) : List Issue :=
  (reportCaseMismatches definitions [] (names definitions)).issues

lemma issues_resolve_eq : (resolve definitions).issues
    = caseMismatches definitions ++ (conflictingNames definitions).map (conflictIssue definitions)
      ++ (circularWalks definitions).map (circularIssue definitions) := by
  have conflicts : ((names definitions).flatMap fun name =>
      (reportConflict definitions name).issues)
      = (conflictingNames definitions).map (conflictIssue definitions) := by
    simp only [issues_reportConflict, conflictingNames]
    induction names definitions with
    | nil => rfl
    | cons first rest ih =>
        rw [flatMap_cons, ih, filter_cons]
        by_cases several : (baseTypes definitions first).length > 1
        · simp only [several, if_true, decide_true, map_cons, singleton_append]
        · simp only [several, if_false, decide_false, Bool.false_eq_true, nil_append]
  rw [issues_resolve, conflicts, caseMismatches]

/-- Every kind of finding has a code of its own. -/
lemma filter_code_resolve (code : IssueCode) : (resolve definitions).issues.filter (·.code == code)
    = (if code = .resourceNameCaseMismatch then caseMismatches definitions else [])
      ++ (if code = .baseTypeConflict
        then (conflictingNames definitions).map (conflictIssue definitions) else [])
      ++ (if code = .circularBaseType
        then (circularWalks definitions).map (circularIssue definitions)
          else []) := by
  have mismatch : ∀ issue ∈ caseMismatches definitions, issue.code = .resourceNameCaseMismatch :=
    fun issue mem => code_of_mem_caseMismatches mem
  have conflict : ∀ issue ∈ (conflictingNames definitions).map (conflictIssue definitions),
      issue.code = .baseTypeConflict := forall_mem_map.2 fun _ _ => rfl
  have cycle : ∀ issue ∈ (circularWalks definitions).map (circularIssue definitions),
      issue.code = .circularBaseType := forall_mem_map.2 fun _ _ => rfl
  rw [issues_resolve_eq, filter_append, filter_append, Issue.filter_of_code mismatch,
    Issue.filter_of_code conflict, Issue.filter_of_code cycle]

lemma filter_conflicts_resolve : (resolve definitions).issues.filter (·.code == .baseTypeConflict)
    = (conflictingNames definitions).map (conflictIssue definitions) := by
  simp [filter_code_resolve]

lemma filter_caseMismatches_resolve :
    (resolve definitions).issues.filter (·.code == .resourceNameCaseMismatch)
      = caseMismatches definitions := by
  simp [filter_code_resolve]

/-! ## Names that differ in case -/

/-- A name without regard to case. -/
def caseless (name : String) : List Char :=
  Text.lower name.toList

/-- Each name is either counted as new without regard to case, or has a finding. -/
lemma length_reportCaseMismatches (definitions : List Resource) (seen rest : List String) :
    (reportCaseMismatches definitions seen rest).issues.length
      + ((seen ++ rest).map caseless).toFinset.card
      = rest.length + (seen.map caseless).toFinset.card := by
  induction rest generalizing seen with
  | nil => simp [reportCaseMismatches]
  | cons name rest ih =>
      rw [reportCaseMismatches]
      split
      · next other found =>
          have known : caseless name ∈ seen.map caseless :=
            mem_map.2 ⟨other,
              mem_of_find?_eq_some found, by simpa [caseless] using find?_some found⟩
          have same : ((seen ++ name :: rest).map caseless).toFinset
              = ((seen ++ rest).map caseless).toFinset := by
            ext text
            simp only [map_append, map_cons, mem_toFinset, mem_append, mem_cons]
            constructor
            · rintro (old | rfl | later)
              · exact .inl old
              · exact .inl known
              · exact .inr later
            · exact Or.imp_right .inr
          have later := ih seen
          rw [Audit.issues_bind, length_append, same, length_cons]
          simp only [Audit.report, length_singleton]
          omega
      · next unseen =>
          have fresh : caseless name ∉ (seen.map caseless).toFinset := by
            rw [mem_toFinset, mem_map]
            rintro ⟨other, mem, same⟩
            exact find?_eq_none.1 unseen other mem (beq_iff_eq.2 same)
          have grown : ((seen ++ [name]).map caseless).toFinset.card
              = (seen.map caseless).toFinset.card + 1 := by
            rw [map_append, toFinset_append, map_singleton, toFinset_cons, toFinset_nil,
              insert_empty_eq, Finset.union_singleton, Finset.card_insert_of_notMem fresh]
          have later := ih (seen ++ [name])
          rw [append_assoc, singleton_append, grown] at later
          rw [length_cons]
          omega

/-- There are as many findings as there are names more than names without regard to case. -/
lemma length_caseMismatches_add (definitions : List Resource) :
    (caseMismatches definitions).length + ((names definitions).map caseless).toFinset.card
      = (names definitions).length := by
  have counted := length_reportCaseMismatches definitions [] (names definitions)
  simpa [caseMismatches] using counted

end DocAudit.ResourceGraph
