import DocAudit.Issue.Log

/-!
# Values with findings

A step of checking computes a value and makes findings on the way.  `Audit` pairs the two; steps are
chained in order, and the findings of a chain are those of its steps one after the other.
-/

namespace DocAudit

/-- A value and the findings made while it was computed. -/
structure Audit (α : Type) where
  value : α
  issues : List Issue
  deriving Repr

namespace Audit

/-- One finding. -/
def report (issue : Issue) : Audit Unit := ⟨(), [issue]⟩

/-- One error. -/
def error (code : IssueCode) (message : String) : Audit Unit :=
  report (.error code message)

/-- One warning. -/
def warning (code : IssueCode) (message : String) : Audit Unit :=
  report (.warning code message)

instance : Monad Audit where
  pure value := ⟨value, []⟩
  bind step next :=
    let after := next step.value
    ⟨after.value, step.issues ++ after.issues⟩

/-- The same value, where findings without a source get one. -/
def within (context : Option String) (step : Audit α) : Audit α :=
  ⟨step.value, step.issues.map (·.within context)⟩

/-! ## Values and findings of a chain -/

@[simp] theorem value_pure (a : α) : (pure a : Audit α).value = a := rfl

@[simp] theorem issues_pure (a : α) : (pure a : Audit α).issues = [] := rfl

@[simp] theorem value_bind (step : Audit α) (next : α → Audit β) :
    (step >>= next).value = (next step.value).value := rfl

@[simp] theorem issues_bind (step : Audit α) (next : α → Audit β) :
    (step >>= next).issues = step.issues ++ (next step.value).issues := rfl

/-- It does not matter how the steps of a chain are grouped. -/
theorem bind_assoc (step : Audit α) (next : α → Audit β) (last : β → Audit γ) :
    step >>= next >>= last = step >>= fun a => next a >>= last := by
  change (⟨_, step.issues ++ _ ++ _⟩ : Audit γ) = ⟨_, step.issues ++ (_ ++ _)⟩
  rw [List.append_assoc]
  rfl

instance : LawfulMonad Audit :=
  .mk' Audit
    (fun step => congrArg (Audit.mk step.value) (List.append_nil step.issues))
    (fun _ _ => rfl)
    bind_assoc

@[simp] theorem value_map (change : α → β) (step : Audit α) :
    (change <$> step).value = change step.value := rfl

@[simp] theorem issues_map (change : α → β) (step : Audit α) :
    (change <$> step).issues = step.issues :=
  List.append_nil step.issues

@[simp] theorem value_within (context : Option String) (step : Audit α) :
    (step.within context).value = step.value := rfl

@[simp] theorem issues_within (context : Option String) (step : Audit α) :
    (step.within context).issues = step.issues.map (·.within context) := rfl

/-! ## Values and findings of a loop -/

theorem issues_forM (step : α → Audit Unit) (list : List α) :
    (list.forM step).issues = list.flatMap fun a => (step a).issues := by
  induction list with
  | nil => rfl
  | cons a rest ih =>
    rw [List.flatMap_cons, ← ih]
    rfl

/-- The value of a loop does not depend on findings. -/
theorem value_foldlM (step : β → α → Audit β) (start : β) (list : List α) :
    (list.foldlM step start).value = list.foldl (fun b a => (step b a).value) start := by
  induction list generalizing start with
  | nil => rfl
  | cons a rest ih => rw [List.foldlM_cons, value_bind, ih, List.foldl_cons]

theorem value_mapM (step : α → Audit β) (list : List α) :
    (list.mapM step).value = list.map fun a => (step a).value := by
  induction list with
  | nil => rfl
  | cons a rest ih =>
    rw [List.mapM_cons, value_bind, value_bind, ih, List.map_cons]
    rfl

theorem issues_mapM (step : α → Audit β) (list : List α) :
    (list.mapM step).issues = list.flatMap fun a => (step a).issues := by
  induction list with
  | nil => rfl
  | cons a rest ih =>
    rw [List.mapM_cons, issues_bind, issues_bind, ih, List.flatMap_cons, issues_pure,
      List.append_nil]

end Audit

end DocAudit
