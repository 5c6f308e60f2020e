import DocAudit.Issue.Audit
import Mathlib.Data.List.Basic

/-!
# The codes of findings

Which kinds of findings a step can make.  Each kind is made in few places, so a list of codes for
every step tells where a finding cannot come from (`Audit.HasCodes.filter_eq_nil`).
-/

namespace DocAudit

@[simp] lemma Issue.code_within (context : Option String) (issue : Issue) :
    (issue.within context).code = issue.code := by
  unfold Issue.within
  split <;> rfl

/-- Giving findings a source does not change which of them have a code. -/
lemma Issue.filter_map_within (context : Option String) (code : IssueCode) (issues : List Issue) :
    (issues.map (·.within context)).filter (·.code == code)
      = (issues.filter (·.code == code)).map (·.within context) := by
  rw [List.filter_map]
  refine congrArg _ (List.filter_congr fun issue _ => ?_)
  rw [Function.comp_apply, Issue.code_within]

/-- Of findings with one code, all or none have a code. -/
lemma Issue.filter_of_code {issues : List Issue} {code : IssueCode}
    (all : ∀ issue ∈ issues, issue.code = code) (other : IssueCode) :
    issues.filter (·.code == other) = if other = code then issues else [] := by
  split
  · next same => exact List.filter_eq_self.2 fun issue mem => by simp [all issue mem, same]
  · next different =>
      exact List.filter_eq_nil_iff.2 fun issue mem => by simp [all issue mem, Ne.symm different]

namespace Audit

/-- All findings of a step have one of some codes. -/
structure HasCodes (codes : List IssueCode) (step : Audit α) : Prop where
  mem : ∀ issue ∈ step.issues, issue.code ∈ codes

namespace HasCodes

variable {α β : Type} {codes more : List IssueCode} {code : IssueCode}

/-! ## Single steps -/

lemma pure (a : α) : HasCodes codes (Pure.pure a) :=
  ⟨List.forall_mem_nil _⟩

lemma report {issue : Issue} (listed : issue.code ∈ codes) : HasCodes codes (report issue) :=
  ⟨List.forall_mem_singleton.2 listed⟩

lemma error (message : String) (listed : code ∈ codes) : HasCodes codes (error code message) :=
  report listed

lemma warning (message : String) (listed : code ∈ codes) : HasCodes codes (warning code message) :=
  report listed

lemma note (message : String) (listed : code ∈ codes) :
    HasCodes codes (Audit.report (.note code message)) :=
  report listed

lemma mono {step : Audit α} (h : HasCodes codes step) (grows : codes ⊆ more) : HasCodes more step :=
  ⟨fun issue mem => grows (h.mem issue mem)⟩

lemma within {step : Audit α} (h : HasCodes codes step) (context : Option String) :
    HasCodes codes (step.within context) := by
  refine ⟨List.forall_mem_map.2 fun issue mem => ?_⟩
  rw [Issue.code_within]
  exact h.mem issue mem

/-! ## Chains and loops -/

lemma bind {step : Audit α} {next : α → Audit β} (h : HasCodes codes step)
    (after : ∀ a, HasCodes codes (next a)) : HasCodes codes (step >>= next) :=
  ⟨List.forall_mem_append.2 ⟨h.mem, (after step.value).mem⟩⟩

lemma forM {step : α → Audit Unit} {list : List α} (h : ∀ a ∈ list, HasCodes codes (step a)) :
    HasCodes codes (list.forM step) := by
  refine ⟨fun issue mem => ?_⟩
  rw [issues_forM] at mem
  obtain ⟨a, isMember, mem⟩ := List.mem_flatMap.1 mem
  exact (h a isMember).mem issue mem

lemma foldlM {step : β → α → Audit β} (h : ∀ b a, HasCodes codes (step b a)) (start : β)
    (list : List α) :
    HasCodes codes (list.foldlM step start) := by
  induction list generalizing start with
  | nil => exact .pure start
  | cons a rest ih =>
      rw [List.foldlM_cons]
      exact (h start a).bind ih

lemma mapM {step : α → Audit β} (h : ∀ a, HasCodes codes (step a)) (list : List α) :
    HasCodes codes (list.mapM step) := by
  refine ⟨fun issue mem => ?_⟩
  rw [issues_mapM] at mem
  obtain ⟨a, -, mem⟩ := List.mem_flatMap.1 mem
  exact (h a).mem issue mem

/-! ## Findings with a code -/

/-- No finding has a code that is not listed. -/
lemma filter_eq_nil {step : Audit α} (h : HasCodes codes step) (absent : code ∉ codes) :
    step.issues.filter (·.code == code) = [] := by
  refine List.filter_eq_nil_iff.2 fun issue mem => ?_
  rw [beq_iff_eq]
  rintro rfl
  exact absent (h.mem issue mem)

end HasCodes

end Audit

end DocAudit
