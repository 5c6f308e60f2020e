import Mathlib.Data.List.Basic
import DocAudit.Proofs.Text.Cleaning
import DocAudit.Proofs.Text.Lowercase
import DocAudit.Proofs.Text.Split
import DocAudit.Settings.Validity
import DocAudit.TypeName

/-!
# Dotted names

A dotted name is a namespace, a point and the name proper, which has no point.  Cutting such a name
at its last point gives the two back (`Text.cutLast_append`), so a dotted name without number signs
keeps its namespace when names are compared, and only its name proper is changed
(`normalize_dotted`).

However names are compared, the end of a name stays what it is (`exists_ownName`).  So a name that
ends with a bracket is never the same as one without brackets (`normalize_bracket_ne`).

Names that are written as they are compared have a form of their own (`TypeNaming.IsNormal`).  Every
name gets it, and what has it stays as it is: `normalize_normalize`.
-/

namespace DocAudit

open List

variable {space own : List Char}

/-! ## Cutting at a point -/

/-- A point that has something before it has it before the last point as well. -/
lemma exists_cutLast {c : Char} (nonempty : space ≠ []) (rest : List Char) :
    ∃ front own, Text.cutLast c (space ++ c :: rest) = some (front, own) ∧ front ≠ [] := by
  by_cases more : c ∈ rest
  · obtain ⟨inner, last, rfl, absent⟩ := Text.exists_last_place more
    refine ⟨space ++ c :: inner, last, ?_, by simp⟩
    rw [← List.cons_append, ← List.append_assoc]
    exact Text.cutLast_append absent _
  · exact ⟨space, rest, Text.cutLast_append more space, nonempty⟩

/-! ## Names as they are compared -/

/-- A name starts with no number sign exactly if leaving them out changes nothing. -/
lemma TypeName.withoutMark_eq_self_iff {name : List Char} :
    TypeName.withoutMark name = name ↔ ∀ c ∈ name.head?, c ≠ '#' := by
  simp only [TypeName.withoutMark, Text.trimStartBy_eq_self_iff, beq_eq_false_iff_ne]

lemma TypeName.head?_withoutMark (name : List Char) :
    ∀ c ∈ (TypeName.withoutMark name).head?, c ≠ '#' := by
  intro c first
  rw [TypeName.withoutMark, Text.trimStartBy, Option.mem_def] at first
  have head := head?_dropWhile_not (· == '#') name
  rw [first] at head
  simpa using head

/-- A dotted name keeps its namespace when it is written for comparison. -/
lemma TypeNaming.normalize_dotted (naming : TypeNaming) (noMark : '#' ∉ space)
    (nonempty : space ≠ []) (absent : '.' ∉ own) :
    naming.normalize (space ++ '.' :: own) = space ++ '.' :: naming.ownName own := by
  have unmarked : TypeName.withoutMark (space ++ '.' :: own) = space ++ '.' :: own := by
    refine TypeName.withoutMark_eq_self_iff.2 ?_
    rintro _ first rfl
    rw [head?_append_of_ne_nil _ nonempty] at first
    exact noMark (mem_of_mem_head? first)
  rw [TypeNaming.normalize, unmarked]
  simp only [Text.cutLast_append absent]

/-- What has a point behind a name has a namespace. -/
lemma TypeName.namespace?_dotted (nonempty : space ≠ []) (rest : List Char) :
    (TypeName.namespace? (.ofList (space ++ '.' :: rest))).isSome := by
  obtain ⟨front, own, isCut, notEmpty⟩ := exists_cutLast (c := '.') nonempty rest
  rw [TypeName.namespace?, TypeName.splitNamespace, String.toList_ofList, isCut]
  simp [notEmpty]

namespace TypeNaming

variable {naming : TypeNaming} {name : List Char}

/-- What becomes of a name: without number signs, a dotted name keeps its namespace, and a bare one
gets the default namespace if there is one. -/
lemma normalize_cases (naming : TypeNaming) (name : List Char) : ∃ own, '.' ∉ own ∧
    ((∃ space, TypeName.withoutMark name = space ++ '.' :: own
        ∧ naming.normalize name = space ++ '.' :: naming.ownName own)
      ∨ TypeName.withoutMark name = own
        ∧ naming.normalize name
          = TypeName.qualify (naming.ownName own) naming.defaultNamespace) := by
  rw [normalize]
  by_cases point : '.' ∈ TypeName.withoutMark name
  · obtain ⟨space, own, whole, absent⟩ := Text.exists_last_place point
    refine ⟨own, absent, .inl ⟨space, whole, ?_⟩⟩
    rw [whole, Text.cutLast_append absent]
  · refine ⟨_, point, .inr ⟨rfl, ?_⟩⟩
    rw [Text.cutLast_eq_none point]

/-! ## Names proper -/

/-- No mark comes into a name proper. -/
lemma mark_not_mem_ownName {mark : Char} (early : mark.toNat < 0x80)
    (noLetter : mark.isAlpha = false)
    (absent : mark ∉ own) : mark ∉ naming.ownName own := by
  rw [ownName]
  split
  · exact absent
  · cases own with
    | nil => exact absent
    | cons c rest =>
        rw [mem_cons, not_or] at absent
        rw [TypeName.lowerCamel, mem_append, not_or]
        exact ⟨Text.mark_not_mem_lowerChar early noLetter (Ne.symm absent.1), absent.2⟩

/-- A name proper starts with a mark only if it did before. -/
lemma head?_ownName {mark : Char} (early : mark.toNat < 0x80) (noLetter : mark.isAlpha = false)
    (starts : (naming.ownName own).head? = some mark) : own.head? = some mark := by
  rw [ownName] at starts
  split at starts
  · exact starts
  · cases own with
    | nil => exact starts
    | cons c rest =>
        have lowers := Text.lowers_lowerChar c
        rw [TypeName.lowerCamel, head?_append_of_ne_nil _ lowers.ne_nil] at starts
        rw [head?_cons, lowers.eq_of_mem (mem_of_mem_head? starts) early noLetter]

/-- The first character in lower case is its own lower case, also where it has become two. -/
lemma lowerCamel_lowerCamel (own : List Char) :
    TypeName.lowerCamel (TypeName.lowerCamel own) = TypeName.lowerCamel own := by
  cases own with
  | nil => rfl
  | cons c rest =>
      have lowers := Text.lowers_lowerChar c
      obtain ⟨first, more, isLower⟩ := exists_cons_of_ne_nil lowers.ne_nil
      rw [isLower] at lowers
      have settled : Text.lowerChar first = [first] :=
        Text.lowerChar_of_isSettled (lowers.isSettled mem_cons_self)
      rw [TypeName.lowerCamel, isLower, cons_append, TypeName.lowerCamel, settled]
      rfl

lemma ownName_ownName (naming : TypeNaming) (own : List Char) :
    naming.ownName (naming.ownName own) = naming.ownName own := by
  by_cases excluded : naming.exclusions.contains (.ofList own)
  · have stays : naming.ownName own = own := if_pos excluded
    rw [stays, stays]
  · have lowered : naming.ownName own = TypeName.lowerCamel own := if_neg excluded
    rw [lowered, ownName, lowerCamel_lowerCamel, ite_self]

/-! ## Brackets in names -/

lemma getLast?_ownName_bracket : (naming.ownName (own ++ [')'])).getLast? = some ')' := by
  rw [ownName]
  split
  · exact getLast?_concat
  · cases own with
    | nil => decide
    | cons c rest => rw [cons_append, TypeName.lowerCamel, ← append_assoc, getLast?_concat]

/-- What stands before the name proper, as it is written and as it is compared, is nothing or ends
with a point. -/
lemma exists_ownName (naming : TypeNaming) (unmarked : ∀ c ∈ name.head?, c ≠ '#') :
    ∃ before own space, name = before ++ own ∧ naming.normalize name = space ++ naming.ownName own
      ∧ (before = [] ∨ before.getLast? = some '.') ∧ (space = [] ∨ space.getLast? = some '.') := by
  obtain ⟨own, -, dotted | bare⟩ := naming.normalize_cases name
  · obtain ⟨space, whole, same⟩ := dotted
    rw [TypeName.withoutMark_eq_self_iff.2 unmarked] at whole
    refine ⟨space ++ ['.'], own, space ++ ['.'], ?_, ?_, .inr getLast?_concat, .inr getLast?_concat⟩
    · simpa using whole
    · simpa using same
  · obtain ⟨whole, same⟩ := bare
    rw [TypeName.withoutMark_eq_self_iff.2 unmarked] at whole
    rw [same]
    unfold TypeName.qualify
    split
    · next space _ =>
        split
        · exact ⟨[], own, space.toList ++ ['.'], whole, by simp, .inl rfl, .inr getLast?_concat⟩
        · exact ⟨[], own, [], whole, rfl, .inl rfl, .inl rfl⟩
    · exact ⟨[], own, [], whole, rfl, .inl rfl, .inl rfl⟩

/-- As names are compared, one with a bracket at the end is not the same as one without brackets. -/
lemma normalize_bracket_ne (naming : TypeNaming) {other : List Char}
    (unmarked : ∀ c ∈ name.head?, c ≠ '#')
    (absent : ')' ∉ name) (bracket : other.getLast? = some ')')
    (otherUnmarked : ∀ c ∈ other.head?, c ≠ '#') :
    naming.normalize other ≠ naming.normalize name := by
  have ends : (naming.normalize other).getLast? = some ')' := by
    obtain ⟨before, own, space, rfl, same, written, -⟩ := naming.exists_ownName otherUnmarked
    rw [getLast?_append] at bracket
    rcases Option.or_eq_some_iff.1 bracket with here | ⟨-, point⟩
    · obtain ⟨front, rfl⟩ := getLast?_eq_some_iff.1 here
      rw [same, getLast?_append, getLast?_ownName_bracket]
      rfl
    · rcases written with rfl | isPoint
      · cases point
      · rw [isPoint] at point
        cases point
  have endsNot : (naming.normalize name).getLast? ≠ some ')' := by
    obtain ⟨before, own, space, rfl, same, -, compared⟩ := naming.exists_ownName unmarked
    rw [mem_append, not_or] at absent
    rw [same, getLast?_append]
    intro last
    rcases Option.or_eq_some_iff.1 last with here | ⟨-, point⟩
    · exact mark_not_mem_ownName (by decide) (by decide) absent.2 (mem_of_getLast? here)
    · rcases compared with rfl | isPoint
      · cases point
      · rw [isPoint] at point
        cases point
  intro same
  exact endsNot (same ▸ ends)

/-! ## Names that stay as they are -/

/-- A name is written as it is compared: it does not start with a number sign, its name proper is as
it is compared, and it has a point if there is a default namespace. -/
structure IsNormal (naming : TypeNaming) (name : List Char) : Prop where
  unmarked : ∀ c ∈ name.head?, c ≠ '#'
  named : ∃ own, '.' ∉ own ∧ naming.ownName own = own ∧
    ((∃ space, name = space ++ '.' :: own) ∨ naming.defaultNamespace = none ∧ name = own)

lemma IsNormal.point_mem (normal : naming.IsNormal name)
    (default : naming.defaultNamespace.isSome) : '.' ∈ name := by
  obtain ⟨own, -, -, ⟨space, rfl⟩ | ⟨noDefault, -⟩⟩ := normal.named
  · exact mem_append_right _ mem_cons_self
  · rw [noDefault] at default
    cases default

lemma IsNormal.normalize_eq (normal : naming.IsNormal name) : naming.normalize name = name := by
  have same := TypeName.withoutMark_eq_self_iff.2 normal.unmarked
  obtain ⟨own, absent, stays, ⟨space, rfl⟩ | ⟨noDefault, rfl⟩⟩ := normal.named
  · rw [normalize, same]
    simp only [Text.cutLast_append absent, stays]
  · rw [normalize, same]
    simp only [Text.cutLast_eq_none absent, stays, noDefault, TypeName.qualify]

/-- A default namespace without a fault is not empty. -/
lemma toList_ne_nil_of_valid {space : String} (valid : Settings.namespaceFault? space = none) :
    space.toList ≠ [] := by
  intro empty
  simp [Settings.namespaceFault?, empty] at valid

/-- A default namespace without a fault is put before every bare name. -/
lemma qualify_of_valid {space : String} (valid : Settings.namespaceFault? space = none)
    (absent : '.' ∉ own) :
    TypeName.qualify own (some space) = space.toList ++ '.' :: own := by
  have nonempty : space ≠ "" := by simpa using toList_ne_nil_of_valid valid
  simp [TypeName.qualify, absent, nonempty]

/-- Names are normal as they are compared, if the default namespace is one and does not start with a
number sign. -/
lemma isNormal_normalize (valid : naming.defaultNamespace.bind Settings.namespaceFault? = none)
    (unmarked : ∀ space ∈ naming.defaultNamespace, space.toList.head? ≠ some '#')
    (name : List Char) :
    naming.IsNormal (naming.normalize name) := by
  obtain ⟨own, absent, dotted | bare⟩ := naming.normalize_cases name
  all_goals have absent : '.' ∉ naming.ownName own :=
    mark_not_mem_ownName (by decide) (by decide) absent
  · obtain ⟨space, whole, same⟩ := dotted
    have first := TypeName.head?_withoutMark name
    rw [same]
    -- the first character is that of the name without number signs, also where the namespace is
    -- empty
    refine ⟨?_, _, absent, naming.ownName_ownName own, .inl ⟨space, rfl⟩⟩
    rw [whole] at first
    cases space with
    | nil => simp
    | cons c rest => exact first
  · obtain ⟨whole, same⟩ := bare
    rw [same]
    cases default : naming.defaultNamespace with
    | none =>
        refine ⟨?_, _, absent, naming.ownName_ownName own, .inr ⟨default, rfl⟩⟩
        rintro _ first rfl
        exact TypeName.head?_withoutMark name '#'
          (whole ▸ head?_ownName (by decide) (by decide) first) rfl
    | some space =>
        rw [default] at valid
        rw [qualify_of_valid valid absent]
        refine ⟨?_, _, absent, naming.ownName_ownName own, .inl ⟨_, rfl⟩⟩
        rintro _ first rfl
        rw [head?_append_of_ne_nil _ (toList_ne_nil_of_valid valid)] at first
        exact unmarked space default first

/-- **Names that are written as they are compared stay so.**  If the default namespace, if there is
one, is valid and does not start with a number sign, writing a name for comparison a second time
changes nothing; and if there is one, every name has a point. -/
theorem normalize_normalize (naming : TypeNaming)
    (valid : naming.defaultNamespace.bind Settings.namespaceFault? = none)
    (unmarked : ∀ space ∈ naming.defaultNamespace, space.toList.head? ≠ some '#')
    (name : List Char) :
    naming.normalize (naming.normalize name) = naming.normalize name
      ∧ (naming.defaultNamespace.isSome → '.' ∈ naming.normalize name) := by
  have normal := isNormal_normalize valid unmarked name
  exact ⟨normal.normalize_eq, normal.point_mem⟩

/-- A first letter that becomes two characters is changed once, and a bare name gets the default
namespace once. -/
theorem dotted_letter_normalize :
    let naming : TypeNaming := ⟨some "foo.bar", ["IPRange"]⟩
    let name := "#İtem".toList
    naming.defaultNamespace.bind Settings.namespaceFault? = none
      ∧ (∀ space ∈ naming.defaultNamespace, space.toList.head? ≠ some '#')
      ∧ naming.normalize name = "foo.bar.i\u0307tem".toList
      ∧ naming.normalize (naming.normalize name) = naming.normalize name
        ∧ '.' ∈ naming.normalize name := by
  intro naming name
  have valid : naming.defaultNamespace.bind Settings.namespaceFault? = none := by decide +kernel
  have unmarked : ∀ space ∈ naming.defaultNamespace,
      space.toList.head? ≠ some '#' := by decide +kernel
  obtain ⟨same, point⟩ := normalize_normalize naming valid unmarked name
  exact ⟨valid, unmarked, by decide +kernel, same, point rfl⟩

end TypeNaming

end DocAudit
