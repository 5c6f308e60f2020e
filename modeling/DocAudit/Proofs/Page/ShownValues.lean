import DocAudit.Page.Reconciliation
import DocAudit.Proofs.Text.Split
import DocAudit.Resource
import Mathlib.Data.Finset.Card

/-!
# Values that a text shows

A text shows several values if it has different ones between bars
(`Page.two_le_length_shownValues`).  Of the plain values of an example only strings can do so,
because numbers and truth values are written without bars (`Property.eq_string_of_several`).  When
such a text names members of no one enumeration it is reported
(`Page.mem_issues_reportMissingEnum`).
-/

namespace DocAudit

open List Audit

namespace Page

variable {text value : String} {members : List EnumMember}

/-! ## Values between bars -/

/-- Whether a text shows a value: the value stands between bars of the text, with nothing but blank
characters around it. -/
def IsShownIn (text value : String) : Prop :=
  value ≠ "" ∧ ∃ part ∈ Text.splitAt '|' text.toList, .ofList (Text.trim part) = value

lemma mem_shownValues : value ∈ shownValues text ↔ IsShownIn text value := by
  have isEmpty (part : List Char) : (!part.isEmpty) = true ↔ String.ofList part ≠ "" := by
    simp
  simp only [shownValues, IsShownIn, Text.mem_sorted, mem_map, mem_filter, isEmpty]
  constructor
  · rintro ⟨part, ⟨⟨piece, isPiece, rfl⟩, nonempty⟩, rfl⟩
    exact ⟨nonempty, piece, isPiece, rfl⟩
  · rintro ⟨nonempty, piece, isPiece, rfl⟩
    exact ⟨Text.trim piece, ⟨⟨piece, isPiece, rfl⟩, nonempty⟩, rfl⟩

lemma two_le_length_shownValues : 2 ≤ (shownValues text).length ↔
    ∃ first second, first ≠ second ∧ IsShownIn text first ∧ IsShownIn text second := by
  have count : (shownValues text).toFinset.card = (shownValues text).length :=
    toFinset_card_of_nodup (Text.nodup_sorted _)
  rw [← count, Nat.succ_le_iff, Finset.one_lt_card]
  simp only [mem_toFinset, mem_shownValues]
  constructor
  · rintro ⟨first, isFirst, second, isSecond, different⟩
    exact ⟨first, second, different, isFirst, isSecond⟩
  · rintro ⟨first, second, different, isFirst, isSecond⟩
    exact ⟨first, isFirst, second, isSecond, different⟩

lemma bar_mem_of_several (several : 2 ≤ (shownValues text).length) : '|' ∈ text.toList := by
  obtain ⟨first, second, different, ⟨-, isFirst⟩, -, isSecond⟩ :=
    two_le_length_shownValues.1 several
  by_contra absent
  rw [Text.splitAt_of_not_mem absent] at isFirst isSecond
  simp only [mem_singleton, exists_eq_left] at isFirst isSecond
  exact different (isFirst.symm.trans isSecond)

end Page

/-! ## Plain values -/

lemma bar_not_mem_toDigits (n : ℕ) : '|' ∉ Nat.toDigits 10 n := by
  intro mem
  have isDigit : Char.isDigit '|' = true := Nat.isDigit_of_mem_toDigits (by decide) (by decide) mem
  exact absurd isDigit (by decide)

lemma Binary64.bar_not_mem_text (number : Binary64) : '|' ∉ number.text.toList := by
  have digits := bar_not_mem_toDigits
  have taken (n count : ℕ) : '|' ∉ (Nat.toDigits 10 n).take count :=
    fun mem => digits n (mem_of_mem_take mem)
  have dropped (n count : ℕ) : '|' ∉ (Nat.toDigits 10 n).drop count :=
    fun mem => digits n (mem_of_mem_drop mem)
  simp only [text, Decimal.text]
  split
  · decide
  · split
    · split
      · simp [digits]
      · split
        · simp [digits]
        · simp [taken, dropped]
    · split <;> split <;> simp [taken, dropped, digits, -drop_one]

lemma Json.Number.bar_not_mem_text (number : Number) : '|' ∉ number.text.toList := by
  cases number with
  | integer value =>
      cases value with
      | ofNat n =>
          show '|' ∉ n.repr.toList
          simp [Nat.repr_eq_ofList_toDigits, bar_not_mem_toDigits]
      | negSucc n =>
          show '|' ∉ ("-" ++ n.succ.repr).toList
          simp [Nat.repr_eq_ofList_toDigits, bar_not_mem_toDigits]
  | real negative size =>
      cases negative <;> simp [text, Binary64.bar_not_mem_text]

/-- Numbers and truth values are written without bars, so what shows several values is a string. -/
lemma Property.eq_string_of_several {value : Json.Value} {text : String}
    (written : writtenText value = some text)
    (several : 2 ≤ (Page.shownValues text).length) : value = .string text := by
  have bar := Page.bar_mem_of_several several
  cases value with
  | string same => exact congrArg Json.Value.string (Option.some.inj written)
  | number number =>
      obtain rfl := Option.some.inj written
      exact absurd bar number.bar_not_mem_text
  | bool truth =>
      obtain rfl := Option.some.inj written
      cases truth
      · exact absurd bar (by decide)
      · exact absurd bar (by decide)
  | _ => cases written

/-! ## Texts without enumerations -/

namespace Page

/-- Whether a text shows several values, and no one enumeration has all of them as members. -/
structure IsUndeclared (members : List EnumMember) (text : String) : Prop where
  several : ∃ first second, first ≠ second ∧ IsShownIn text first ∧ IsShownIn text second
  undeclared : ∀ known ∈ members, ∃ value, IsShownIn text value
    ∧ ∀ member ∈ members, member.identifier = known.identifier → member.member ≠ value

lemma isUndeclared_iff : IsUndeclared members text ↔
    2 ≤ (shownValues text).length ∧ declares members (shownValues text) = false := by
  have missing : declares members (shownValues text) = false ↔
      ∀ known ∈ members, ∃ value, IsShownIn text value
      ∧ ∀ member ∈ members, member.identifier = known.identifier → member.member ≠ value := by
    simp [declares, mem_shownValues]
  rw [two_le_length_shownValues, missing]
  exact ⟨fun h => ⟨h.several, h.undeclared⟩, fun h => ⟨h.1, h.2⟩⟩

/-- The warning that no enumeration declares the values of a property. -/
def missingEnumIssue (resource property text : String) : Issue :=
  .warning .missingEnumDeclaration
    (s!"Property '{property}' of {resource} shows values '{text}' but no "
      ++ "enumeration declares them")

lemma mem_issues_reportMissingEnum {resource : Resource} {parameter : Parameter} {issue : Issue} :
    issue ∈ (reportMissingEnum members resource parameter).issues ↔ ∃ text,
      parameter.writtenValue = some text ∧ IsUndeclared members text
        ∧ issue = missingEnumIssue resource.name parameter.name text := by
  unfold reportMissingEnum
  cases parameter.writtenValue with
  | none => simp
  | some text =>
      have test : (decide ((shownValues text).length ≥ 2) && !declares members (shownValues text))
          = true ↔
          IsUndeclared members text := by
        simp [isUndeclared_iff]
      simp only [Option.some.injEq, exists_eq_left']
      by_cases undeclared : IsUndeclared members text
      · rw [if_pos (test.2 undeclared), and_iff_right undeclared]
        exact mem_singleton
      · rw [if_neg (mt test.1 undeclared)]
        simp [undeclared]

end Page

end DocAudit
