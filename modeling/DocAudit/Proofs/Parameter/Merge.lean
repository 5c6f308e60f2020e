import DocAudit.Proofs.Parameter
import DocAudit.Proofs.ValueType.Specificity

/-!
# Two descriptions of a parameter

What `Parameter.merge` makes of an example and a row of a table.  The types of the two decide on the
finding, and there are four ways in which they can be related (`TypesJoined`).  That the ways
exclude each other is what the order of types is good for: a type that says less than another one is
not equal to it, and does not say more.

Joining takes nothing away from the first description (`Keeps`), and joining with the second one
again adds nothing (`merge_merge`).
-/

namespace DocAudit.Parameter

open ValueType

variable {name : String} {given documented joined : ValueType} {codes : List IssueCode}

/-! ## Types -/

/-- How two types are joined: the type that is kept, and the codes of the findings. -/
inductive TypesJoined (given documented : ValueType) : ValueType → List IssueCode → Prop where
  /-- The documented type says nothing new. -/
  | kept (nothingNew : given.same documented = true ∨ documented.same .untyped = true) :
      TypesJoined given documented given []
  /-- The documented type says more. -/
  | refined (less : given.isLessSpecific documented = true) :
      TypesJoined given documented documented []
  /-- The documented type says less, but not nothing. -/
  | downgraded (known : documented.same .untyped = false)
      (more : documented.isLessSpecific given = true) :
      TypesJoined given documented given [.typeSpecificityDowngrade]
  /-- Neither type says more than the other one. -/
  | unrelated (apart : given.same documented = false) (known : documented.same .untyped = false)
      (notLess : given.isLessSpecific documented = false)
      (notMore : documented.isLessSpecific given = false) :
      TypesJoined given documented documented [.parameterTypeMismatch]

lemma typesJoined (name : String) (given documented : ValueType) :
    TypesJoined given documented (mergeType name given documented).value
      ((mergeType name given documented).issues.map (·.code)) := by
  unfold mergeType
  split
  · next nothingNew => exact .kept (by simpa using nothingNew)
  · next someNews =>
      obtain ⟨apart, known⟩ : given.same documented = false ∧ documented.same .untyped = false := by
        simpa using someNews
      split
      · next less => exact .refined less
      · next notLess =>
          split
          · next more => exact .downgraded known more
          · next notMore =>
              exact .unrelated apart known (Bool.eq_false_iff.2 notLess)
                (Bool.eq_false_iff.2 notMore)

/-- A documented type that says less says something else. -/
lemma same_eq_false_of_more (more : documented.isLessSpecific given = true) :
    given.same documented = false := by
  rw [same_comm]
  exact (isLessSpecific_iff.1 more).not_same

namespace TypesJoined

/-- The type that is kept says less than neither of the two. -/
lemma not_less (h : TypesJoined given documented joined codes) :
    joined.isLessSpecific given = false ∧ joined.isLessSpecific documented = false := by
  cases h with
  | kept nothingNew =>
      refine ⟨isLessSpecific_irrefl given, ?_⟩
      rw [Bool.eq_false_iff, Ne, isLessSpecific_iff]
      intro less
      rcases nothingNew with same | untyped
      · simp [less.not_same] at same
      · simp [less.known] at untyped
  | refined less => exact ⟨isLessSpecific_asymm less, isLessSpecific_irrefl documented⟩
  | downgraded _ more => exact ⟨isLessSpecific_irrefl given, isLessSpecific_asymm more⟩
  | unrelated _ _ _ notMore => exact ⟨notMore, isLessSpecific_irrefl documented⟩

/-- There is no finding if the documented type says nothing new or more. -/
lemma codes_eq_nil_iff (h : TypesJoined given documented joined codes) : codes = [] ↔
    given.same documented = true ∨ documented.same .untyped = true
      ∨ given.isLessSpecific documented = true := by
  cases h with
  | kept nothingNew => exact iff_of_true rfl (or_assoc.1 (.inl nothingNew))
  | refined less => exact iff_of_true rfl (.inr (.inr less))
  | downgraded known more => simp [known, same_eq_false_of_more more, isLessSpecific_asymm more]
  | unrelated apart known notLess _ => simp [apart, known, notLess]

/-- The finding is a downgrade if the documented type says less, but not nothing. -/
lemma codes_eq_downgrade_iff (h : TypesJoined given documented joined codes) :
    codes = [.typeSpecificityDowngrade] ↔
      documented.same .untyped = false ∧ documented.isLessSpecific given = true := by
  cases h with
  | kept nothingNew =>
      refine iff_of_false (by simp) ?_
      rintro ⟨known, more⟩
      simp [known, same_eq_false_of_more more] at nothingNew
  | refined less => simp [isLessSpecific_asymm less]
  | downgraded known more => exact iff_of_true rfl ⟨known, more⟩
  | unrelated _ _ _ notMore => simp [notMore]

/-- What is found is nothing, a downgrade or a mismatch. -/
lemma codes_cases (h : TypesJoined given documented joined codes) :
    codes = [] ∨ codes = [.typeSpecificityDowngrade] ∨ codes = [.parameterTypeMismatch] := by
  cases h <;> simp

end TypesJoined

/-! ## What is kept -/

/-- A description of the same parameter that says all that another one says, but for the type. -/
structure Keeps (known merged : Parameter) : Prop where
  name : merged.name = known.name
  location : merged.location = known.location
  title : ∀ text ∈ known.title, text ∈ merged.title
  description : ∀ text ∈ known.description, text ∈ merged.description
  required : ∀ flag ∈ known.required, flag ∈ merged.required
  optional : ∀ flag ∈ known.optional, flag ∈ merged.optional
  writtenValue : ∀ text ∈ known.writtenValue, text ∈ merged.writtenValue
  navigable : known.navigable = true → merged.navigable = true

lemma mem_orElse {α : Type} {first second : Option α} {a : α} (mem : a ∈ first) :
    a ∈ (first <|> second) := by
  cases mem
  rfl

lemma keeps_merge (a b : Parameter) : Keeps a (a.merge b).value where
  name := rfl
  location := rfl
  title _ := mem_orElse
  description _ := mem_orElse
  required _ := mem_orElse
  optional _ := mem_orElse
  writtenValue _ := mem_orElse
  navigable shown := by
    show (a.navigable || b.navigable) = true
    rw [shown, Bool.true_or]

/-! ## Joining again -/

/-- The type that was kept is kept again. -/
lemma mergeType_again (a b : Parameter) :
    (mergeType a.name (a.merge b).value.type b.type).value = (a.merge b).value.type := by
  rcases type_merge a b with isFirst | isSecond
  · rw [isFirst]
    exact isFirst
  · rw [isSecond]
    simp [mergeType]

/-- What was filled in once is there, so joining again fills in nothing. -/
lemma merge_merge (a b : Parameter) : ((a.merge b).value.merge b).value = (a.merge b).value := by
  have fields (joined : Parameter) : (joined.merge b).value = { joined with
      title := joined.title <|> b.title
      description := joined.description <|> b.description
      type := (mergeType joined.name joined.type b.type).value
      required := joined.required <|> b.required
      optional := joined.optional <|> b.optional
      writtenValue := joined.writtenValue <|> b.writtenValue
      navigable := joined.navigable || b.navigable } := rfl
  rw [fields (a.merge b).value, name_merge, mergeType_again]
  simp only [fields a, Option.orElse_eq_orElse, Option.orElse_eq_or, Option.or_assoc,
    Option.or_self, Bool.or_assoc, Bool.or_self]

/-! ## Both descriptions -/

lemma issues_merge (a b : Parameter) :
    (a.merge b).issues = (mergeType a.name a.type b.type).issues := by
  simp only [merge, Audit.issues_bind, Audit.issues_pure, List.append_nil]

/-- **Joining two descriptions loses nothing.**

* The type of one of them is kept, and it says less than neither.
* There is at most one finding.  There is none if the types are equal, the second one is an untyped
  object, or the first one says less; it is a downgrade if the second one is not untyped and says
  less, and a mismatch otherwise.
* Name and place are those of the first one, and all that it says stays.
* Joining with the second one again changes nothing. -/
theorem merge_loses_nothing (a b : Parameter) :
    let merged := (a.merge b).value
    let issues := (a.merge b).issues
    ((merged.type = a.type ∨ merged.type = b.type)
      ∧ merged.type.isLessSpecific a.type = false ∧ merged.type.isLessSpecific b.type = false)
    ∧ (issues.length ≤ 1
      ∧ (issues = [] ↔
          a.type.same b.type = true ∨ b.type.same .untyped = true
            ∨ a.type.isLessSpecific b.type = true)
      ∧ (issues.map (·.code) = [.typeSpecificityDowngrade] ↔
          b.type.same .untyped = false ∧ b.type.isLessSpecific a.type = true)
      ∧ (issues.map (·.code) = [.parameterTypeMismatch] ↔
          ¬ (a.type.same b.type = true ∨ b.type.same .untyped = true
            ∨ a.type.isLessSpecific b.type = true)
            ∧ ¬ (b.type.same .untyped = false ∧ b.type.isLessSpecific a.type = true)))
    ∧ Keeps a merged
    ∧ (merged.merge b).value = merged := by
  intro merged issues
  have isIssues : issues = (mergeType a.name a.type b.type).issues := issues_merge a b
  have joined : TypesJoined a.type b.type merged.type (issues.map (·.code)) := by
    rw [isIssues]
    exact typesJoined a.name a.type b.type
  have silentIff : issues = [] ↔ issues.map (·.code) = [] := List.map_eq_nil_iff.symm
  refine ⟨⟨type_merge a b, joined.not_less⟩, ⟨?_, ?_, joined.codes_eq_downgrade_iff, ?_⟩,
    keeps_merge a b,
    merge_merge a b⟩
  · rw [← List.length_map (·.code)]
    rcases joined.codes_cases with codes | codes | codes <;> simp [codes]
  · rw [silentIff]
    exact joined.codes_eq_nil_iff
  · rw [← joined.codes_eq_nil_iff, ← joined.codes_eq_downgrade_iff]
    rcases joined.codes_cases with codes | codes | codes <;> simp [codes]

end DocAudit.Parameter
