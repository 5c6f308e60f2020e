import DocAudit.Proofs.Page.KeptLists
import DocAudit.Proofs.Page.ShownValues
import DocAudit.Proofs.Table

/-!
# Missing enumerations

Which texts are checked for values that no enumeration declares.  The text of a property is the
plain value that the example shows of it.  Where the example shows none, and the rows of tables are
joined with the resource, it is the text of the type in a row (`Page.missing_enums_reported`), so a
warning need not be about a value in an example (`Page.type_text_reported`).
-/

namespace DocAudit

open List Audit

/-! ## Values in examples -/

namespace Property

variable {naming : TypeNaming} {members : List (String × Json.Value)} {name text : String}

/-- The value that an example with these members shows of a property. -/
def valueIn? (members : List (String × Json.Value)) (name : String) : Option Json.Value :=
  if isProperty name then members.lookup name else none

lemma writtenFor_ofMembers : Parameter.writtenFor name (ofMembers naming members)
    = (valueIn? members name).bind writtenText := by
  unfold valueIn?
  induction members with
  | nil => simp [ofMembers, Parameter.writtenFor]
  | cons first rest ih =>
      obtain ⟨known, value⟩ := first
      rw [ofMembers]
      by_cases same : known = name
      · subst same
        by_cases shows : isProperty known
        · simp [shows, Parameter.writtenFor_cons, shown, Parameter.ofType]
        · simpa [shows] using ih
      · have later : ((known, value) :: rest).lookup name = rest.lookup name := by
          rw [lookup_cons, beq_false_of_ne (Ne.symm same)]
        rw [later, ← ih]
        split
        · have other : (shown known (typeOf naming value) value).name ≠ name := same
          rw [Parameter.writtenFor_cons, if_neg other]
        · rfl

end Property

namespace Page

variable {settings : Settings} {context : Option String} {path : String}
  {blocks : List Block} {page : Page}
  {resource : Resource} {members : List (String × Json.Value)} {name text : String} {issue : Issue}

/-- A block of code is an example of a resource, and shows these members. -/
def IsExampleOf (settings : Settings) (blocks : List Block) (resource : Resource)
    (members : List (String × Json.Value)) : Prop :=
  ∃ block ∈ blocks, block.kind = .code ∧ ∃ metadata origin,
    (Resource.ofExample settings.naming metadata block.content origin).value = some resource
      ∧ Resource.shownMembers metadata block.content = members

lemma exists_isExampleOf (mem : resource ∈ (Page.scan settings path blocks).value.resources) :
    ∃ members, IsExampleOf settings blocks resource members := by
  obtain ⟨block, isBlock, isCode, metadata, origin, read⟩ :=
    (isReadFrom_scan settings path blocks).resources resource mem
  exact ⟨_, block, isBlock, isCode, metadata, origin, read, rfl⟩

/-- What is written for a property of a resource is the plain value that the example shows. -/
lemma IsExampleOf.writtenFor (h : IsExampleOf settings blocks resource members) (name : String) :
    Parameter.writtenFor name resource.parameters
      = (Property.valueIn? members name).bind Property.writtenText := by
  obtain ⟨block, -, -, metadata, origin, read, rfl⟩ := h
  rw [(Resource.of_ofExample_eq_some read).2]
  refine Eq.trans (Parameter.writtenFor_map ?_ ?_ _) Property.writtenFor_ofMembers
  · exact fun _ => rfl
  · exact fun _ => rfl

/-! ## Texts of types -/

/-- A row of some table has a text in its column of types. -/
def HasTypeText (settings : Settings) (blocks : List Block) (text : String) : Prop :=
  ∃ block ∈ blocks, ∃ shape, block.kind = .table shape ∧ ∃ cells ∈ shape.rows,
    .ofList (Text.trim (Table.cell cells (shape.column? settings.tables.columns.type)).toList)
      = text

lemma hasTypeText_of_firstWritten
    (written : Parameter.firstWritten name (Page.scan settings path blocks).value.propertyRows
      = some text) :
    HasTypeText settings blocks text := by
  obtain ⟨row, mem, written⟩ := exists_of_findSome?_eq_some written
  obtain ⟨table, isTable, isRow⟩ := mem_flatMap.1 (mem_of_mem_filter mem)
  obtain ⟨block, isBlock, shape, isShape, titles, rfl⟩ :=
    (isReadFrom_scan settings path blocks).tables table (mem_of_mem_filter isTable)
  obtain ⟨kind, key, cells, isCells, rfl⟩ := Table.exists_of_mem_read isRow
  exact ⟨block, isBlock, shape, isShape, cells, isCells,
    Table.eq_of_writtenValue_parameterOf written⟩

lemma firstWritten_joinedRows : Parameter.firstWritten name page.joinedRows = some text ↔
    page.resources.length = 1 ∧ Parameter.firstWritten name page.propertyRows = some text := by
  unfold joinedRows
  split
  · next one => exact (and_iff_right one).symm
  · next notOne => exact iff_of_false (by simp [Parameter.firstWritten]) fun found => notOne found.1

/-! ## Findings -/

lemma filter_missing_checkEnumerations :
    page.checkEnumerations.issues.filter (·.code == .missingEnumDeclaration)
    = page.resources.flatMap fun resource => resource.parameters.flatMap fun parameter =>
      (reportMissingEnum page.enumMembers resource parameter).issues := by
  have missing : HasCodes [.missingEnumDeclaration] (page.resources.forM fun resource =>
      resource.parameters.forM (reportMissingEnum page.enumMembers resource)) :=
    .forM fun _ _ => .forM fun _ _ => hasCodes_reportMissingEnum ..
  have undeclared (names : List String) :
      HasCodes [.possibleUndeclaredEnum] (page.allParameters.forM (reportUndeclaredEnum names)) :=
    .forM fun _ _ => hasCodes_reportUndeclaredEnum ..
  have all : (page.resources.forM fun resource =>
      resource.parameters.forM (reportMissingEnum page.enumMembers resource)).issues.filter
        (·.code == .missingEnumDeclaration)
      = page.resources.flatMap fun resource => resource.parameters.flatMap fun parameter =>
        (reportMissingEnum page.enumMembers resource parameter).issues := by
    rw [Issue.filter_of_code fun issue mem => mem_singleton.1 (missing.mem issue mem),
      if_pos rfl, issues_forM]
    simp only [issues_forM]
  simp only [checkEnumerations]
  split
  · rw [issues_bind, filter_append, (undeclared _).filter_eq_nil (by decide), nil_append]
    exact all
  · exact all

lemma mem_filter_missing_reconcile :
    issue ∈ (page.reconcile settings context).issues.filter (·.code == .missingEnumDeclaration) ↔
      ∃ resource ∈ page.resources,
        ∃ parameter ∈ (Parameter.mergeLists resource.parameters page.joinedRows).value,
        ∃ text, parameter.writtenValue = some text
          ∧ IsUndeclared (page.reconcile settings context).value.enumMembers text
          ∧ issue = missingEnumIssue resource.name parameter.name text := by
  rw [filter_issues_reconcile_of_enumeration (by decide), filter_missing_checkEnumerations,
    resources_reconcile, flatMap_map]
  simp only [mem_flatMap, mem_issues_reportMissingEnum]

/-- **Texts without enumerations are reported.**  When a page is reconciled, the warnings about
missing enumerations are those about texts that show several values, which no one enumeration of the
page has all as members.  Such a text is the string that the example of a resource shows of a
property.  If the example shows no plain value of it, and the resource is the only one of the page,
it is the text of the type in the first row of the property that has one. -/
theorem missing_enums_reported (settings : Settings) (context : Option String) (path : String)
    (blocks : List Block) (links : List Markdown.Link) (issue : Issue) :
    let page := { (Page.scan settings path blocks).value with links }
    let reconciled := page.reconcile settings context
    issue ∈ reconciled.issues.filter (·.code == .missingEnumDeclaration) ↔
      ∃ resource ∈ page.resources, ∃ members, IsExampleOf settings blocks resource members
        ∧ ∃ name text,
        issue = missingEnumIssue resource.name name text
          ∧ IsUndeclared reconciled.value.enumMembers text
          ∧ (Property.valueIn? members name = some (.string text)
            ∨ (Property.valueIn? members name).bind Property.writtenText = none
              ∧ page.resources = [resource]
              ∧ Parameter.firstWritten name page.propertyRows = some text
                ∧ HasTypeText settings blocks text) := by
  intro page reconciled
  have distinct : ∀ resource ∈ page.resources,
      ((Parameter.mergeLists resource.parameters page.joinedRows).value.map (·.name)).Nodup := by
    intro resource mem
    exact Parameter.nodup_map_name_mergeLists
      ((isAsRead_scan settings path blocks).distinct resource mem) _
  rw [mem_filter_missing_reconcile]
  constructor
  · rintro ⟨resource, mem, parameter, isParameter, text, written, undeclared, rfl⟩
    obtain ⟨members, isExample⟩ := exists_isExampleOf mem
    refine ⟨resource, mem, members, isExample, parameter.name, text, rfl, undeclared, ?_⟩
    have found := (Parameter.writtenFor_eq_some (distinct resource mem)).2 ⟨parameter,
      isParameter, rfl, written⟩
    rw [Parameter.writtenFor_mergeLists, isExample.writtenFor, Option.or_eq_some_iff,
      firstWritten_joinedRows] at found
    refine found.imp ?_ ?_
    · intro shown
      obtain ⟨value, isValue, plain⟩ := Option.bind_eq_some_iff.1 shown
      rw [isValue, Property.eq_string_of_several plain (isUndeclared_iff.1 undeclared).1]
    · rintro ⟨nothing, one, first⟩
      obtain ⟨only, isOnly⟩ := length_eq_one_iff.1 one
      obtain rfl : resource = only := mem_singleton.1 (isOnly ▸ mem)
      exact ⟨nothing, isOnly, first, hasTypeText_of_firstWritten first⟩
  · rintro ⟨resource, mem, members, isExample, name, text, rfl, undeclared, shown⟩
    have found : Parameter.writtenFor name
        (Parameter.mergeLists resource.parameters page.joinedRows).value
        = some text := by
      rw [Parameter.writtenFor_mergeLists, isExample.writtenFor, Option.or_eq_some_iff,
        firstWritten_joinedRows]
      refine shown.imp ?_ ?_
      · intro isString
        rw [isString]
        rfl
      · rintro ⟨nothing, only, first, -⟩
        exact ⟨nothing, length_eq_one_iff.2 ⟨resource, only⟩, first⟩
    obtain ⟨parameter, isParameter, rfl, written⟩ :=
      (Parameter.writtenFor_eq_some (distinct resource mem)).1 found
    exact ⟨resource, mem, parameter, isParameter, text, written, undeclared, rfl⟩

/-- A resource with a property that only a table lists, where the type is written as a choice of
two. -/
def lampBlocks : List Block :=
  [⟨.comment, "<!-- \x7b \"blockType\": \"resource\", \"@odata.type\": \"foo.lamp\" \x7d -->",
      1, none⟩,
   ⟨.code, "\x7b \"id\": \"x\" \x7d", 2, some "json"⟩,
   ⟨.table ⟨["Property", "Type"], [["id", "String"], ["owner", "String \\| Null"]]⟩, "", 7, none⟩]

/-- No string in the example shows several values, whatever the example is annotated with. -/
lemma not_isUndeclared_of_isExampleOf_lamp
    (isExample : IsExampleOf .stock lampBlocks resource members)
    (isString : Property.valueIn? members name = some (.string text)) (declared : List EnumMember) :
    ¬ IsUndeclared declared text := by
  obtain ⟨block, isBlock, isCode, metadata, origin, -, rfl⟩ := isExample
  have single : ∀ block ∈ lampBlocks, block.kind = .code → ∀ isCollection : Bool,
      (((Json.Value.read? block.content.toList).bind
        (Resource.exampleMembers? isCollection)).getD []).all
        (fun member => member.2.string?.all fun text => (shownValues text).length < 2) = true := by
    decide +kernel
  rw [Property.valueIn?, Option.ite_none_right_eq_some] at isString
  obtain ⟨before, after, shown, -⟩ := lookup_eq_some_iff.1 isString.2
  have isMember : (name, Json.Value.string text) ∈ Resource.shownMembers metadata
      block.content := by
    rw [shown]
    simp
  have few : (decide ((shownValues text).length < 2)) = true :=
    all_eq_true.1 (single block isBlock isCode metadata.isCollection) _ isMember
  intro undeclared
  have several := (isUndeclared_iff.1 undeclared).1
  rw [decide_eq_true_iff] at few
  omega

/-- The text of a type is reported as if an example showed it. -/
theorem type_text_reported :
    let page := { (Page.scan .stock "lamp.md" lampBlocks).value with links := [] }
    let reconciled := page.reconcile .stock none
    ∃ issue ∈ reconciled.issues.filter (·.code == .missingEnumDeclaration),
      ¬ ∃ resource ∈ page.resources, ∃ members, IsExampleOf .stock lampBlocks resource members
        ∧ ∃ name text,
        Property.valueIn? members name = some (.string text)
          ∧ issue = missingEnumIssue resource.name name text
          ∧ IsUndeclared reconciled.value.enumMembers text := by
  intro page reconciled
  have reported : reconciled.issues.filter (·.code == .missingEnumDeclaration)
      = [missingEnumIssue "foo.lamp" "owner" "String \\| Null"] := by
    decide +kernel
  refine ⟨_, reported ▸ mem_singleton_self _, ?_⟩
  rintro ⟨resource, -, members, isExample, name, text, isString, -, undeclared⟩
  exact not_isUndeclared_of_isExampleOf_lamp isExample isString _ undeclared

end Page

end DocAudit
