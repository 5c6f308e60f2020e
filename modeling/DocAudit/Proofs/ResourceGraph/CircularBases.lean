import DocAudit.Proofs.ResourceGraph.Definitions

/-!
# Circular base types

Which cycles of base types are reported.  The cycles that visiting keeps are the ones with an issue
(`circular_issues_resolve`), so what is known about kept cycles (`Visits.walk_of_mem_cycles`,
`Visits.exists_closing_step`, `Visits.length_cycles`) is known about reports:
`circularBaseType_reported`.

Where nothing is reported, base types stand before the names that have them, so going from a
definition to the one of its base type comes to an end (`exists_last_base`).
-/

namespace DocAudit.ResourceGraph

open List Relation Definitions

variable {definitions resources : List Resource} {name base : String}

/-! ## Reports -/

/-- The issue for a cycle. -/
def circularIssue (definitions : List Resource) (walk : List String) : Issue :=
  let shown := " -> ".intercalate walk
  concerning definitions walk (.error .circularBaseType s!"Circular base type dependency: {shown}")

/-- The walks for which `resolve` reports a cycle. -/
def circularWalks (definitions : List Resource) : List (List String) :=
  (Visits.ofNames (knownBases (reconciled definitions)) (names (reconciled definitions))).cycles

lemma code_of_mem_caseMismatches {seen rest : List String} {issue : Issue}
    (h : issue ∈ (reportCaseMismatches resources seen rest).issues) :
    issue.code = .resourceNameCaseMismatch := by
  induction rest generalizing seen with
  | nil => simp [reportCaseMismatches] at h
  | cons first rest ih =>
      rw [reportCaseMismatches] at h
      split at h
      · rcases List.mem_append.1 h with new | old
        · obtain rfl := List.mem_singleton.1 new
          rfl
        · exact ih old
      · exact ih h

lemma code_of_mem_conflict {issue : Issue} (h : issue ∈ (reportConflict resources name).issues) :
    issue.code = .baseTypeConflict := by
  rw [reportConflict] at h
  split at h
  · obtain rfl := List.mem_singleton.1 h
    rfl
  · simp at h

/-- The issues of `resolve`: names that differ in case, base types that differ, and cycles. -/
lemma issues_resolve : (resolve definitions).issues
    = (reportCaseMismatches definitions [] (names definitions)).issues
      ++ ((names definitions).flatMap fun name => (reportConflict definitions name).issues)
      ++ (circularWalks definitions).map (circularIssue definitions) := by
  have perCycle : ∀ walk, (reportCycle (reconciled definitions) walk).issues
      = [circularIssue definitions walk] := by
    intro walk
    simp only [reportCycle, concerning, circularIssue, reconciled,
      pagesOf_map name_agreed file_agreed]
    rfl
  rw [circularWalks, reconciled, names_map name_agreed, List.map_eq_flatMap, ← reconciled,
    ← funext perCycle, List.append_assoc, ← Audit.issues_forM, ← Audit.issues_forM]
  simp only [resolve, Audit.issues_bind, Audit.issues_pure, List.append_nil]
  rfl

/-- The issues with the code for cycles are those for the kept cycles. -/
lemma filter_issues_resolve : (resolve definitions).issues.filter (·.code == .circularBaseType)
    = (circularWalks definitions).map (circularIssue definitions) := by
  have noMismatch : (reportCaseMismatches definitions [] (names definitions)).issues.filter
      (·.code == .circularBaseType) = [] := by
    refine List.filter_eq_nil_iff.2 fun issue mem => ?_
    rw [code_of_mem_caseMismatches mem]
    decide
  have noConflict : ((names definitions).flatMap fun name =>
      (reportConflict definitions name).issues).filter (·.code == .circularBaseType) = [] := by
    refine List.filter_eq_nil_iff.2 fun issue mem => ?_
    obtain ⟨name, -, mem⟩ := List.mem_flatMap.1 mem
    rw [code_of_mem_conflict mem]
    decide
  rw [issues_resolve, List.filter_append, List.filter_append, noMismatch, noConflict,
    List.nil_append, List.nil_append, List.filter_eq_self]
  intro issue mem
  obtain ⟨walk, -, rfl⟩ := List.mem_map.1 mem
  rfl

/-! ## With cycles -/

/-- A kept walk is closed and meets no name twice. -/
lemma closed_of_mem_circularWalks {walk : List String} (kept : walk ∈ circularWalks definitions) :
    IsClosedWalk (HasBase (resolve definitions).value.resources) walk ∧ walk.tail.Nodup := by
  rw [hasBase_eq]
  exact Visits.walk_of_mem_cycles known_names kept

/-- Every cycle takes the last step of a kept walk. -/
lemma exists_closing_walk {walk : List String}
    (closed : IsClosedWalk (HasBase (resolve definitions).value.resources) walk) :
    ∃ kept ∈ circularWalks definitions, ∃ name base, [name, base] <:+ kept
      ∧ [name, base] <:+: walk := by
  rw [hasBase_eq] at closed
  exact Visits.exists_closing_step known_names closed

/-- If no name has two base types, as many walks are kept as there are cycles. -/
lemma length_circularWalks (functional : ∀ name base other,
    HasBase (resolve definitions).value.resources name base →
      HasBase (resolve definitions).value.resources name other → base = other) :
    (circularWalks definitions).length
      = (simpleCycles (HasBase (resolve definitions).value.resources)).ncard := by
  rw [hasBase_eq] at functional ⊢
  exact Visits.length_cycles known_names functional (fun _ => nodup_knownBases) nodup_names

/-! ## Without cycles -/

/-- If something falls with every step, steps come to an end. -/
lemma exists_last {step : Resource → Option Resource} {resources : List Resource}
    (measure : Resource → ℕ)
    (falls : ∀ a ∈ resources, ∀ b, step a = some b → b ∈ resources ∧ measure b < measure a)
    {first : Resource} (mem : first ∈ resources) :
    ∃ last ∈ resources, ReflTransGen (fun a b => step a = some b) first last
      ∧ step last = none := by
  induction height : measure first using Nat.strong_induction_on generalizing first with
  | h _ ih =>
      subst height
      cases next : step first with
      | none => exact ⟨first, mem, .refl, next⟩
      | some second =>
          obtain ⟨inside, lower⟩ := falls first mem second next
          obtain ⟨last, isLast, steps, ends⟩ := ih _ lower inside rfl
          exact ⟨last, isLast, .head next steps, ends⟩

/-- Without cycles, a base type stands before the name that has it. -/
lemma pair_sublist_of_circularWalks_eq_nil (acyclic : circularWalks definitions = [])
    (hasBase : HasBase (resolve definitions).value.resources name base) :
    [base, name] <+ (resolve definitions).value.sortedNames := by
  rw [hasBase_eq] at hasBase
  have known : Visits.Known (knownBases (reconciled definitions))
      (names (reconciled definitions)) :=
    known_names
  have inv := Visits.invariant_ofNames known
  rw [sortedNames_resolve]
  refine (inv.settled name ?_ base hasBase).resolve_right ?_
  · exact (Visits.mem_finished known).2 (known name base hasBase).1
  · rintro ⟨walk, kept, -⟩
    rw [circularWalks] at acyclic
    simp [acyclic] at kept

/-- Without cycles, going from definitions to those of their base types comes to an end, at a
definition without one. -/
lemma exists_last_base (acyclic : circularWalks definitions = []) {resource : Resource}
    (mem : resource ∈ (resolve definitions).value.resources) :
    ∃ last ∈ (resolve definitions).value.resources,
      ReflTransGen (fun a b => (resolve definitions).value.baseOf? a = some b) resource last
        ∧ last.base = none := by
  have falls : ∀ a ∈ (resolve definitions).value.resources, ∀ b,
      (resolve definitions).value.baseOf? a = some b → b ∈ (resolve definitions).value.resources
        ∧ (resolve definitions).value.sortedNames.idxOf b.name
          < (resolve definitions).value.sortedNames.idxOf a.name := by
    intro a isIn b isBase
    obtain ⟨inside, declared⟩ := of_baseOf?_eq_some isIn isBase
    refine ⟨inside, idxOf_lt_of_pair_sublist nodup_sortedNames ?_⟩
    exact pair_sublist_of_circularWalks_eq_nil acyclic ⟨⟨a, isIn, rfl, declared⟩, b, inside, rfl⟩
  obtain ⟨last, isLast, steps, ends⟩ := exists_last _ falls mem
  exact ⟨last, isLast, steps, base_eq_none isLast ends⟩

/-! ## What is reported -/

/-- **Circular base types are reported,** whatever the definitions are.  The issues with the code
for cycles are those for some walks along base types, so that the following holds.

* There is such an issue if and only if there is a cycle.
* Each of the walks comes back to its first name and meets no name twice otherwise; the pages of its
  issue are those that define names of the walk.
* Every cycle takes the last step of one of the walks.
* If no name has two base types, there are as many issues as cycles.
* If there is no issue, then going from a definition to that of its base type comes to an end, at a
  definition without one. -/
theorem circularBaseType_reported (definitions : List Resource) :
    let graph := (resolve definitions).value
    let issues := (resolve definitions).issues.filter (·.code == .circularBaseType)
    ∃ walks : List (List String), issues = walks.map (circularIssue definitions)
      ∧ (issues ≠ [] ↔ ∃ walk, IsClosedWalk (HasBase graph.resources) walk)
      ∧ (∀ walk ∈ walks, IsClosedWalk (HasBase graph.resources) walk ∧ walk.tail.Nodup
          ∧ ∀ page, page ∈ (circularIssue definitions walk).pages ↔
              ∃ definition ∈ definitions, definition.name ∈ walk ∧ definition.file = page)
      ∧ (∀ walk, IsClosedWalk (HasBase graph.resources) walk →
          ∃ kept ∈ walks, ∃ name base, [name, base] <:+ kept ∧ [name, base] <:+: walk)
      ∧ ((∀ name base base', HasBase graph.resources name base →
        HasBase graph.resources name base' →
            base = base') → issues.length = (simpleCycles (HasBase graph.resources)).ncard)
      ∧ (issues = [] → ∀ resource ∈ graph.resources, ∃ last ∈ graph.resources,
          ReflTransGen (fun a b => graph.baseOf? a = some b) resource last ∧ last.base = none) := by
  intro graph issues
  have isIssues : issues = (circularWalks definitions).map (circularIssue definitions) :=
    filter_issues_resolve
  refine ⟨circularWalks definitions, isIssues, ⟨?_, ?_⟩, ?_, fun _ => exists_closing_walk, ?_, ?_⟩
  · intro reported
    rw [isIssues, Ne, List.map_eq_nil_iff] at reported
    obtain ⟨walk, kept⟩ := List.exists_mem_of_ne_nil _ reported
    exact ⟨walk, (closed_of_mem_circularWalks kept).1⟩
  · rintro ⟨walk, closed⟩
    obtain ⟨kept, mem, -⟩ := exists_closing_walk closed
    rw [isIssues]
    exact List.ne_nil_of_mem (List.mem_map_of_mem mem)
  · intro walk kept
    obtain ⟨closed, distinct⟩ := closed_of_mem_circularWalks kept
    exact ⟨closed, distinct, fun page => mem_pagesOf⟩
  · intro functional
    rw [isIssues, List.length_map]
    exact length_circularWalks functional
  · intro silent resource mem
    rw [isIssues, List.map_eq_nil_iff] at silent
    exact exists_last_base silent mem

end DocAudit.ResourceGraph
