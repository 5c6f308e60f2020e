import DocAudit.ValueType.Basic
import Mathlib.Data.Nat.Notation
import Mathlib.Tactic.Lemma

/-!
# The order of types

Some types say less than others.  `LessSpecific` lists the reasons for it, so that an argument about
the order goes by reasons: a type never says less than an equal one (`LessSpecific.not_same`),
nothing says less than an untyped object (`LessSpecific.known`), and reasons can be chained
(`LessSpecific.trans`).

Types are equal if they are the same without the members that examples show (`same_iff`), and
reasons do not depend on those members (`LessSpecific.congr`).  So equal types may replace each
other on both sides.  `specificity_strictOrder` says all of it.
-/

namespace DocAudit.ValueType

variable {a b c : ValueType} {type : ValueType}

/-! ## Equal types -/

/-- A type without the members that examples show. -/
def bare : ValueType → ValueType
  | .simple type => .simple type
  | .collection element dimensions => .collection element.bare dimensions
  | .object name isEnum _ => .object name isEnum none

/-- Types are equal if they differ in nothing but members. -/
lemma same_iff : a.same b = true ↔ a.bare = b.bare := by
  fun_induction same a b with
  | case1 a b => simp [bare]
  | case2 a m b n ih => simp [bare, ih, and_comm]
  | case3 a aEnum _ b bEnum _ => simp [bare]
  | case4 a b noSimple noCollection noObject => cases a <;> cases b <;> grind [bare]

@[simp] lemma same_self (type : ValueType) : type.same type = true :=
  same_iff.2 rfl

lemma same_comm (a b : ValueType) : a.same b = b.same a := by
  rw [Bool.eq_iff_iff, same_iff, same_iff, eq_comm]

@[simp] lemma bare_bare (type : ValueType) : type.bare.bare = type.bare := by
  fun_induction bare type with
  | case1 type => rfl
  | case2 element dimensions ih => rw [bare, ih]
  | case3 name isEnum _ => rfl

lemma same_bare (a b : ValueType) : a.bare.same b.bare = a.same b := by
  rw [Bool.eq_iff_iff, same_iff, same_iff, bare_bare, bare_bare]

/-! ## Reasons to say less -/

/-- Why a type says less than another one. -/
inductive LessSpecific : ValueType → ValueType → Prop where
  /-- Of an untyped object nothing is known. -/
  | untyped {members : Option (List Parameter)} {type : ValueType}
      (known : type.same .untyped = false) :
      LessSpecific (.object none false members) type
  /-- Some simple types have special cases. -/
  | simple {a b : SimpleType} (less : simpleLess a b = true) : LessSpecific (.simple a) (.simple b)
  /-- A string may be one of an enumeration. -/
  | enumeration {name : Option String} {members : Option (List Parameter)} :
      LessSpecific string (.object name true members)
  /-- The elements of a collection say less than those of one with as many dimensions. -/
  | collection {a b : ValueType} {dimensions : ℕ} (less : LessSpecific a b) :
      LessSpecific (.collection a dimensions) (.collection b dimensions)

lemma isLessSpecific_iff : a.isLessSpecific b = true ↔ LessSpecific a b := by
  constructor
  · intro h
    fun_induction isLessSpecific a b with
    | case1 members type => exact .untyped (by simpa using h)
    | case2 a b => exact .simple h
    | case3 name isEnum members =>
        subst h
        exact .enumeration
    | case4 a m b n ih =>
        obtain ⟨same, less⟩ := Bool.and_eq_true_iff.1 h
        obtain rfl := beq_iff_eq.1 same
        exact .collection (ih less)
    | case5 a b => cases h
  · intro h
    induction h with
    | untyped known => simp [isLessSpecific, known]
    | simple less => exact less
    | enumeration => rfl
    | collection _ ih => simp [isLessSpecific, ih]

/-! ## Simple types -/

lemma simpleLess_irrefl (type : SimpleType) : simpleLess type type = false := by
  cases type <;> rfl

/-- Only three simple types have special cases. -/
lemma general_of_simpleLess {a b : SimpleType} (h : simpleLess a b = true) :
    a = .string ∨ a = .int64 ∨ a = .double := by
  unfold simpleLess at h
  split at h <;> simp_all

/-- Of the types with special cases only `double` is itself one, of `int64`, which has its special
cases as well. -/
lemma simpleLess_trans {a b c : SimpleType} (h : simpleLess a b = true)
    (h' : simpleLess b c = true) :
    simpleLess a c = true := by
  rcases general_of_simpleLess h' with rfl | rfl | rfl
  · cases a <;> cases h
  · cases a <;> cases h
  · have whole : a = .int64 := by cases a <;> first | rfl | cases h
    subst whole
    cases c <;> simp_all [simpleLess]

/-! ## Chains of reasons -/

namespace LessSpecific

/-- No type says less than one that is equal to it. -/
lemma not_same (h : LessSpecific a b) : a.same b = false := by
  induction h with
  | @untyped members type known =>
      have same : type.same (.object none false members) = type.same .untyped := by
        rw [← same_bare, ← same_bare type]
        rfl
      rw [same_comm, same, known]
  | @simple a b less =>
      have different : a ≠ b := by
        rintro rfl
        simp [simpleLess_irrefl] at less
      simpa [same] using different
  | enumeration => rfl
  | collection _ ih => simp [same, ih]

/-- Nothing says less than an untyped object. -/
lemma known (h : LessSpecific a b) : b.same .untyped = false := by
  cases h with
  | untyped known => exact known
  | simple => rfl
  | enumeration => simp [same, ValueType.untyped]
  | collection => rfl

/-- Reasons can be chained. -/
lemma trans (h : LessSpecific a b) (h' : LessSpecific b c) : LessSpecific a c := by
  induction h generalizing c with
  | untyped _ => exact .untyped h'.known
  | simple less =>
      cases h' with
      | simple less' => exact .simple (simpleLess_trans less less')
      | enumeration => simp [simpleLess] at less
  | enumeration => cases h'
  | collection _ ih =>
      cases h' with
      | collection less' => exact .collection (ih less')

/-- A reason does not depend on members. -/
lemma congr {a' b' : ValueType} (h : LessSpecific a b) (same : a.bare = a'.bare)
    (same' : b.bare = b'.bare) :
    LessSpecific a' b' := by
  induction h generalizing a' b' with
  | untyped known =>
      cases a' <;> cases same
      rw [← same_bare, same', same_bare] at known
      exact .untyped known
  | simple less =>
      cases a' <;> cases same
      cases b' <;> cases same'
      exact .simple less
  | enumeration =>
      cases a' <;> cases same
      cases b' <;> cases same'
      exact .enumeration
  | collection _ ih =>
      cases a' <;> simp only [bare, collection.injEq, reduceCtorEq] at same
      cases b' <;> simp only [bare, collection.injEq, reduceCtorEq] at same'
      obtain ⟨same, rfl⟩ := same
      obtain ⟨same', rfl⟩ := same'
      exact .collection (ih same same')

end LessSpecific

/-! ## Members and layers -/

/-- Equal types may replace each other. -/
lemma isLessSpecific_congr {a' b' : ValueType} (same : a.same a' = true)
    (same' : b.same b' = true) :
    a.isLessSpecific b = a'.isLessSpecific b' := by
  rw [same_iff] at same same'
  rw [Bool.eq_iff_iff, isLessSpecific_iff, isLessSpecific_iff]
  exact ⟨fun h => h.congr same same', fun h => h.congr same.symm same'.symm⟩

/-- Layers around a type that is no collection are dimensions of one collection. -/
lemma repeat_succ_collectionOf (flat : type.isCollection = false) (layers : ℕ) :
    (layers + 1).repeat collectionOf type = .collection type (layers + 1) := by
  induction layers with
  | zero =>
      cases type with
      | collection element dimensions => cases flat
      | simple type => rfl
      | object name isEnum members => rfl
  | succ layers ih => rw [Nat.repeat, ih, collectionOf]

/-! ## The order -/

lemma isLessSpecific_irrefl (type : ValueType) : type.isLessSpecific type = false := by
  rw [Bool.eq_false_iff, Ne, isLessSpecific_iff]
  intro less
  simpa using less.not_same

lemma isLessSpecific_trans (h : a.isLessSpecific b = true) (h' : b.isLessSpecific c = true) :
    a.isLessSpecific c = true :=
  isLessSpecific_iff.2 ((isLessSpecific_iff.1 h).trans (isLessSpecific_iff.1 h'))

lemma isLessSpecific_asymm (h : a.isLessSpecific b = true) : b.isLessSpecific a = false := by
  rw [Bool.eq_false_iff]
  intro h'
  have around := isLessSpecific_trans h h'
  rw [isLessSpecific_irrefl] at around
  cases around

/-- **Saying less is a strict partial order of types.**

* No type says less than itself, no two types say less than each other, and what says less than a
  type says less than all that the type says less than.
* Equal types may replace each other on both sides: the members that an example shows do not count.
* An untyped object says less than every type that is not equal to it.
* Between types that are no collections the order is that between collections of them, with as many
  dimensions around both. -/
theorem specificity_strictOrder :
    (∀ type : ValueType, type.isLessSpecific type = false)
    ∧ (∀ a b : ValueType, a.isLessSpecific b = true → b.isLessSpecific a = false)
    ∧ (∀ a b c : ValueType, a.isLessSpecific b = true → b.isLessSpecific c = true →
      a.isLessSpecific c = true)
    ∧ (∀ a a' b b' : ValueType, a.same a' = true → b.same b' = true →
        a.isLessSpecific b = a'.isLessSpecific b')
    ∧ (∀ type : ValueType, untyped.isLessSpecific type = !type.same untyped)
    ∧ (∀ a b : ValueType, a.isCollection = false → b.isCollection = false → ∀ layers, 1 ≤ layers →
        (layers.repeat collectionOf a).isLessSpecific (layers.repeat collectionOf b)
          = a.isLessSpecific b) := by
  refine ⟨isLessSpecific_irrefl, fun _ _ => isLessSpecific_asymm, fun _ _ _ => isLessSpecific_trans,
    fun _ _ _ _ => isLessSpecific_congr, fun _ => rfl, ?_⟩
  intro a b flat flat' layers positive
  obtain ⟨fewer, rfl⟩ := Nat.exists_eq_add_of_le' positive
  rw [repeat_succ_collectionOf flat, repeat_succ_collectionOf flat', isLessSpecific,
    beq_self_eq_true, Bool.true_and]

/-- Of three kinds of numbers the first says less than the last, also with three layers around
both. -/
theorem numbers_ordered :
    (simple .int64).isLessSpecific (.simple .double) = true
      ∧ (simple .double).isLessSpecific (.simple .single) = true
      ∧ (simple .int64).isLessSpecific (.simple .single) = true
      ∧ (Nat.repeat collectionOf 3 (.simple .int64)).isLessSpecific
          (Nat.repeat collectionOf 3 (.simple .single)) = true := by
  obtain ⟨-, -, trans, -, -, layered⟩ := specificity_strictOrder
  have less := trans (.simple .int64) (.simple .double) (.simple .single) rfl rfl
  have inLayers := layered (.simple .int64) (.simple .single) rfl rfl 3 (by decide)
  exact ⟨rfl, rfl, less, inLayers.trans less⟩

end DocAudit.ValueType
