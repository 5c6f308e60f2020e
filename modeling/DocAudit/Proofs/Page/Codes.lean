import DocAudit.Link.Check
import DocAudit.Page.Check
import DocAudit.Proofs.Issue.Codes

/-!
# Which findings a page can have

The codes of the findings of every step in which a page is checked.  Reading a page, bringing its
parts together, comparing its headings and following its links have codes of their own, and none of
them is a code of the set as a whole (`Page.check_hasCodes`, `LinkIndex.code_of_mem_checkPage`).
-/

namespace DocAudit

open Audit

/-! ## Types and tables -/

lemma TypeDescription.hasCodes_readIn (naming : TypeNaming) (description : String)
    (isCollection : Bool) (fallback : Option ValueType) :
    HasCodes [.typeParseFallback] (readIn naming description isCollection fallback) := by
  refine .bind (.bind ?_ fun _ => .pure _) fun _ => .pure _
  unfold readElement
  split
  · exact .pure _
  · exact .bind (.warning _ (by decide)) fun _ => .pure _

namespace Table

/-- What reading a table can find. -/
def codes : List IssueCode :=
  [.tableParseError, .unrecognizedTable, .typeParseFallback]

lemma hasCodes_parameterOf (naming : TypeNaming) (columns : ColumnWords) (shape : TableShape)
    (kind : TableKind) (key : String) (row : List String) :
    HasCodes codes (parameterOf naming columns shape kind key row) := by
  have type (text : String) : HasCodes codes (TypeDescription.readIn naming text false none) :=
    (TypeDescription.hasCodes_readIn ..).mono (by decide)
  simp only [parameterOf]
  split
  · exact .pure _
  · exact (type _).bind fun _ => .pure _

lemma hasCodes_readRows (naming : TypeNaming) (columns : ColumnWords) (shape : TableShape)
    (titles : List String) (line : Nat) (kind : TableKind) (column : Nat) :
    HasCodes codes (readRows naming columns shape titles line kind column) := by
  unfold readRows
  split
  · exact .pure _
  · exact .pure _
  · exact .pure _
  · split
    · exact .pure _
    · exact .bind (.error _ (by decide)) fun _ => .pure _
  · exact .bind (.mapM (fun _ => hasCodes_parameterOf ..) _) fun _ => .pure _

lemma hasCodes_read (naming : TypeNaming) (rules : TableRules) (shape : TableShape)
    (titles : List String) (line : Nat) : HasCodes codes (read naming rules shape titles line) := by
  refine .bind ?_ fun _ => .pure _
  unfold rowsOf
  split
  · exact .bind (.note _ (by decide)) fun _ => .pure _
  · split
    · exact hasCodes_readRows ..
    · exact .bind (.error _ (by decide)) fun _ => .pure _

end Table

/-! ## Reading a page -/

namespace Scan

/-- What reading a page can find. -/
def codes : List IssueCode :=
  [.metadataParseError, .unknownBlockType, .missingResourceName, .jsonWithoutMetadata,
   .resourceJsonInvalid, .responseWithoutRequest, .requestNotFound, .duplicateResponse,
   .requestParseError, .duplicatePageMetadata, .info] ++ Table.codes

/-- What reading code can find. -/
def codeCodes : List IssueCode :=
  [.metadataParseError, .unknownBlockType, .missingResourceName, .jsonWithoutMetadata,
    .resourceJsonInvalid,
   .responseWithoutRequest, .requestNotFound, .duplicateResponse, .requestParseError, .info]

lemma hasCodes_ofExample (naming : TypeNaming) (metadata : CodeMetadata) (json : String)
    (origin : BlockOrigin) : HasCodes [.missingResourceName, .resourceJsonInvalid, .info]
      (Resource.ofExample naming metadata json origin) := by
  have properties : HasCodes [.missingResourceName, .resourceJsonInvalid,
      .info] (Resource.exampleProperties naming metadata
      (Resource.nameIn metadata) origin.line json) := by
    unfold Resource.exampleProperties
    split
    · split
      · exact .pure _
      · exact .bind (.error _ (by decide)) fun _ => .pure _
    · split
      · exact .bind (.note _ (by decide)) fun _ => .pure _
      · exact .bind (.error _ (by decide)) fun _ => .pure _
  simp only [Resource.ofExample]
  split
  · exact .bind (.error _ (by decide)) fun _ => .pure _
  · exact properties.bind fun _ => .pure _

variable {scan : Scan} {metadata : CodeMetadata} {block : Block}

lemma hasCodes_comment : HasCodes [.duplicatePageMetadata] (scan.comment block) := by
  unfold comment
  split
  · exact .pure _
  · split
    · exact .bind (.warning _ (by decide)) fun _ => .pure _
    · exact .pure _

lemma hasCodes_request : HasCodes [.requestParseError] (scan.request metadata block) := by
  simp only [request]
  split
  · exact .bind (.error _ (by decide)) fun _ => .pure _
  · exact .pure _

lemma hasCodes_responseTargets (names : List String) (line : Nat) :
    HasCodes codeCodes (scan.responseTargets names line) := by
  induction names with
  | nil => exact .pure _
  | cons name rest ih =>
      unfold responseTargets
      split
      · exact ih.bind fun _ => .pure _
      · exact .bind (.error _ (by decide)) fun _ => ih

lemma hasCodes_respond (response : Response) (line : Nat) (position : Nat) :
    HasCodes codeCodes (respond response line scan position) := by
  unfold respond
  split
  · exact .pure _
  · split
    · exact .bind (.error _ (by decide)) fun _ => .pure _
    · exact .pure _

lemma hasCodes_response : HasCodes codeCodes (scan.response metadata block) := by
  unfold response
  split
  · exact .bind (.error _ (by decide)) fun _ => .pure _
  · have respond (targets : List Nat) : HasCodes codeCodes
        (targets.foldlM (respond ⟨block.content, metadata⟩ block.line) scan) :=
      .foldlM (fun _ _ => hasCodes_respond ..) ..
    dsimp only
    split
    · exact .bind (.pure _) respond
    · exact (hasCodes_responseTargets ..).bind respond

lemma hasCodes_changeLatest (message : String) (change : Method → Method) :
    HasCodes codeCodes (scan.changeLatest message change) := by
  unfold changeLatest
  split
  · exact .bind (.error _ (by decide)) fun _ => .pure _
  · exact .pure _

lemma hasCodes_codeWithRole (settings : Settings) (role : BlockRole) :
    HasCodes codeCodes (scan.codeWithRole settings metadata block role) := by
  cases role with
  | resource =>
      refine .bind ((hasCodes_ofExample ..).mono (by decide)) fun found => ?_
      cases found <;> exact .pure _
  | request => exact hasCodes_request.mono (by decide)
  | response => exact hasCodes_response
  | simulatedResponse => exact hasCodes_changeLatest ..
  | testParams => exact hasCodes_changeLatest ..
  | _ => exact .pure _

lemma hasCodes_code (settings : Settings) (previous : Option Block) :
    HasCodes codeCodes (scan.code settings previous block) := by
  unfold code
  split
  · unfold annotatedCode
    split
    · exact .bind (.error _ (by decide)) fun _ => .pure _
    · split
      · exact .bind (.error _ (by decide)) fun _ => .pure _
      · exact hasCodes_codeWithRole ..
  · split
    · exact .bind (.error _ (by decide)) fun _ => .pure _
    · exact .pure _

lemma hasCodes_step (settings : Settings) (previous next : Option Block) :
    HasCodes codes (scan.step settings previous block next) := by
  unfold step
  split
  · exact .pure _
  · exact .pure _
  · split
    · exact .pure _
    · exact hasCodes_comment.mono (by decide)
  · exact (hasCodes_code ..).mono (by decide)
  · exact .bind ((Table.hasCodes_read ..).mono (by decide)) fun _ => .pure _
  · exact .pure _

lemma hasCodes_run (settings : Settings) (scan : Scan) (previous : Option Block)
    (blocks : List Block) :
    HasCodes codes (run settings scan previous blocks) := by
  induction blocks generalizing scan previous with
  | nil => exact .pure _
  | cons block rest ih => exact .bind (hasCodes_step ..) fun _ => ih ..

end Scan

namespace Page

lemma hasCodes_scan (settings : Settings) (path : String) (blocks : List Block) :
    HasCodes Scan.codes (Page.scan settings path blocks) :=
  .bind (Scan.hasCodes_run ..) fun _ => .pure _

/-! ## Bringing the parts of a page together -/

/-- What joining two descriptions of a parameter can find. -/
def typeCodes : List IssueCode :=
  [.typeSpecificityDowngrade, .parameterTypeMismatch]

lemma hasCodes_mergeInto (row : Parameter) (parameters : List Parameter) :
    HasCodes typeCodes (row.mergeInto parameters) := by
  have merge (known : Parameter) : HasCodes typeCodes (known.merge row) := by
    refine .bind ?_ fun _ => .pure _
    unfold Parameter.mergeType
    split
    · exact .pure _
    · split
      · exact .pure _
      · split
        · exact .bind (.warning _ (by decide)) fun _ => .pure _
        · exact .bind (.warning _ (by decide)) fun _ => .pure _
  induction parameters with
  | nil => exact .pure _
  | cons known rest ih =>
      unfold Parameter.mergeInto
      split
      · exact (merge known).bind fun _ => .pure _
      · exact ih.bind fun _ => .pure _

lemma hasCodes_mergeLists (existing incoming : List Parameter) :
    HasCodes typeCodes (Parameter.mergeLists existing incoming) :=
  .foldlM (fun _ _ => hasCodes_mergeInto ..) ..

lemma hasCodes_resolveNamespace (settings : Settings) (page : Page) :
    HasCodes [.namespaceMismatch] (page.resolveNamespace settings) := by
  simp only [resolveNamespace]
  split
  · split
    · exact .bind (.error _ (by decide)) fun _ => .pure _
    · exact .pure _
  · exact .pure _

/-- What joining tables of properties with a resource can find. -/
def propertyCodes : List IssueCode :=
  [.additionalPropertyDetected, .propertyMissingFromTable,
    .multipleResourcesInDocument] ++ typeCodes

lemma hasCodes_mergeRow (resource : Resource) (row : Parameter) :
    HasCodes (.additionalPropertyDetected :: typeCodes) (mergeRow resource row) := by
  have joined : HasCodes (.additionalPropertyDetected :: typeCodes)
      (row.mergeInto resource.parameters) :=
    (hasCodes_mergeInto ..).mono (List.subset_cons_self ..)
  simp only [mergeRow]
  split
  · exact joined.bind fun _ => .pure _
  · split
    · exact .bind (.note _ (by decide)) fun _ => joined.bind fun _ => .pure _
    · exact .bind (.warning _ (by decide)) fun _ => joined.bind fun _ => .pure _

lemma hasCodes_reportUndocumented (rows : List Parameter) (parameter : Parameter) :
    HasCodes [.propertyMissingFromTable] (reportUndocumented rows parameter) := by
  unfold reportUndocumented
  split
  · exact .pure _
  · exact .warning _ (by decide)

lemma hasCodes_mergeResourceTables (context : Option String) (page : Page) :
    HasCodes propertyCodes (page.mergeResourceTables context) := by
  simp only [mergeResourceTables]
  split
  · exact .pure _
  · split
    · exact .pure _
    · refine .bind (.within ?_ _) fun _ => .pure _
      refine .bind ((HasCodes.foldlM hasCodes_mergeRow ..).mono (by decide)) fun merged => ?_
      dsimp only
      split
      · exact .pure _
      · refine .bind (.forM fun _ _ => ?_) fun _ => .pure _
        exact (hasCodes_reportUndocumented ..).mono (by decide)
    · exact .bind (.warning _ (by decide)) fun _ => .pure _

/-- What joining tables of requests with methods can find. -/
def methodCodes : List IssueCode :=
  .ambiguousTableMapping :: typeCodes

lemma hasCodes_applyTable (table : Table) (method : Method) :
    HasCodes typeCodes (applyTable table method) := by
  unfold applyTable
  split
  · exact .pure _
  · exact (hasCodes_mergeLists ..).bind fun _ => .pure _
  · exact (hasCodes_mergeLists ..).bind fun _ => .pure _
  · exact (hasCodes_mergeLists ..).bind fun _ => .pure _
  · exact (hasCodes_mergeLists ..).bind fun _ => .pure _
  · exact .pure _

lemma hasCodes_mergeMethodTables (context : Option String) (page : Page) :
    HasCodes methodCodes (page.mergeMethodTables context) := by
  simp only [mergeMethodTables]
  split
  · exact .pure _
  · split
    · exact .bind (.warning _ (by decide)) fun _ => .pure _
    · refine .bind (.mono (.foldlM (fun _ _ => ?_) ..) (List.subset_cons_self ..)) fun _ => .pure _
      exact .mapM (fun _ => (hasCodes_applyTable ..).within _) _

/-- What comparing parameters with enumerations can find. -/
def enumerationCodes : List IssueCode :=
  [.possibleUndeclaredEnum, .missingEnumDeclaration]

lemma hasCodes_reportUndeclaredEnum (members : List String) (parameter : Parameter) :
    HasCodes [.possibleUndeclaredEnum] (reportUndeclaredEnum members parameter) := by
  simp only [reportUndeclaredEnum]
  split
  · split
    · exact .warning _ (by decide)
    · exact .pure _
  · exact .pure _

lemma hasCodes_reportMissingEnum (members : List EnumMember) (resource : Resource)
    (parameter : Parameter) :
    HasCodes [.missingEnumDeclaration] (reportMissingEnum members resource parameter) := by
  simp only [reportMissingEnum]
  split
  · split
    · exact .warning _ (by decide)
    · exact .pure _
  · exact .pure _

lemma hasCodes_checkEnumerations (page : Page) :
    HasCodes enumerationCodes page.checkEnumerations := by
  have shown : HasCodes enumerationCodes (page.resources.forM fun resource =>
      resource.parameters.forM (reportMissingEnum page.enumMembers resource)) :=
    .forM fun _ _ => .forM fun _ _ => (hasCodes_reportMissingEnum ..).mono (by decide)
  simp only [checkEnumerations]
  split
  · exact .bind (.forM fun _ _ => (hasCodes_reportUndeclaredEnum ..).mono (by decide))
      fun _ => shown
  · exact shown

lemma hasCodes_reportUnused (table : Table) : HasCodes [.unusedTable] (reportUnused table) := by
  unfold reportUnused
  split
  · exact .warning _ (by decide)
  · exact .pure _

/-- What bringing the parts of a page together can find. -/
def reconcileCodes : List IssueCode :=
  [.namespaceMismatch] ++ propertyCodes ++ methodCodes ++ enumerationCodes ++ [.unusedTable]

lemma hasCodes_reconcile (settings : Settings) (context : Option String) (page : Page) :
    HasCodes reconcileCodes (page.reconcile settings context) := by
  refine .bind ((hasCodes_resolveNamespace ..).mono (by decide)) fun _ => ?_
  refine .bind ((hasCodes_mergeResourceTables ..).mono (by decide)) fun _ => ?_
  refine .bind ((hasCodes_mergeMethodTables ..).mono (by decide)) fun _ => ?_
  refine .bind ((hasCodes_checkEnumerations ..).mono (by decide)) fun _ => ?_
  exact .bind (.forM fun _ _ => (hasCodes_reportUnused ..).mono (by decide)) fun _ => .pure _

end Page

/-! ## Comparing headings -/

namespace Conformity

/-- What comparing headings with a template can find. -/
def codes : List IssueCode :=
  [.requiredHeaderMissing, .headerWrongCase, .misspelledHeader, .headerInWrongPosition,
   .misspelledHeaderInWrongPosition, .extraHeaderFound]

lemma hasCodes_reportExtra (tree : HeadingTree) : HasCodes codes (reportExtra tree) :=
  .warning _ (by decide)

lemma hasCodes_reportPassed (slots : List Slot) (slot : Slot) (tree : HeadingTree) :
    HasCodes codes (reportPassed slots slot tree) := by
  unfold reportPassed
  split
  · exact .warning _ (by decide)
  · exact .warning _ (by decide)
  · exact hasCodes_reportExtra tree

lemma hasCodes_reportTaken (slot : Slot) (tree : HeadingTree) :
    HasCodes codes (reportTaken slot tree) := by
  unfold reportTaken
  split
  · exact .error _ (by decide)
  · exact .error _ (by decide)
  · exact .pure _

lemma hasCodes_reportMissing (slot : Slot) : HasCodes codes (reportMissing slot) := by
  unfold reportMissing
  split
  · exact .error _ (by decide)
  · exact .pure _

mutual

lemma hasCodes_walk (slots : List Slot) : ∀ (item : TemplateItem) (found : List HeadingTree),
    HasCodes codes (walk slots item found)
  | .slot slot, found => by
      rw [walk]
      exact hasCodes_walkSlot slots slot found
  | .all items, found => by
      rw [walk]
      exact hasCodes_walkAll slots items found
  | .oneOf items, found => by
      rw [walk]
      exact hasCodes_walkOne slots items _ found

lemma hasCodes_walkSlot (slots : List Slot) : ∀ (slot : Slot) (found : List HeadingTree),
    HasCodes codes (walkSlot slots slot found)
  | ⟨level, title, required, repeatable, children⟩, found => by
      rw [walkSlot]
      refine .bind (.forM fun _ _ => hasCodes_reportPassed ..) fun _ => ?_
      refine .bind (.forM fun tree _ => .bind (hasCodes_reportTaken ..) fun _ => ?_) fun _ => ?_
      · split
        · exact .pure _
        · refine .bind (hasCodes_walkAll _ children tree.children) fun _ => ?_
          exact .forM fun _ _ => hasCodes_reportExtra _
      · split
        · exact .bind (hasCodes_reportMissing _) fun _ => .pure _
        · exact .pure _

lemma hasCodes_walkAll (slots : List Slot) :
    ∀ (items : List TemplateItem) (found : List HeadingTree),
    HasCodes codes (walkAll slots items found)
  | [], found => by
      rw [walkAll]
      exact .pure _
  | item :: rest, found => by
      rw [walkAll]
      exact .bind (hasCodes_walk slots item found) fun _ => hasCodes_walkAll slots rest _

lemma hasCodes_walkOne (slots : List Slot) : ∀ (items : List TemplateItem) (position : Nat)
    (found : List HeadingTree), HasCodes codes (walkOne slots items position found)
  | [], position, found => by
      rw [walkOne]
      exact .pure _
  | item :: _, 0, found => by
      rw [walkOne]
      exact hasCodes_walk slots item found
  | _ :: rest, position + 1, found => by
      rw [walkOne]
      exact hasCodes_walkOne slots rest position found

end

lemma hasCodes_checkOutline (template : List TemplateItem) (found : List HeadingTree) :
    HasCodes codes (checkOutline template found) :=
  .bind (hasCodes_walkAll ..) fun _ => .forM fun _ _ => hasCodes_reportExtra _

end Conformity

/-! ## Whole pages -/

namespace Page

/-- What checking a page by itself can find. -/
def codes : List IssueCode :=
  Scan.codes ++ reconcileCodes ++ Conformity.codes

theorem check_hasCodes (settings : Settings) (checksOutline : Bool) (path text : String) :
    HasCodes codes (Page.check settings checksOutline path text) := by
  refine .within (.bind ((hasCodes_scan ..).mono (by decide)) fun _ => ?_) _
  refine .bind ((hasCodes_reconcile ..).mono (by decide)) fun page => ?_
  have headings : HasCodes codes (page.checkHeadings settings) := by
    unfold checkHeadings
    split
    · exact (Conformity.hasCodes_checkOutline ..).mono (by decide)
    · exact .pure _
  dsimp only
  split
  · exact headings.bind fun _ => .pure _
  · exact .pure _

end Page

namespace LinkIndex

/-- What following links can find. -/
def codes : List IssueCode :=
  [.linkExternalSkipped, .linkBookmarkMissing, .linkBookmarkSkipped, .linkDestinationNotFound,
   .linkOutsideDocSet, .linkFormatInvalid]

theorem code_of_mem_checkPage {index : LinkIndex} {rules : LinkRules} {page : Page} {issue : Issue}
    (mem : issue ∈ index.checkPage rules page) : issue.code ∈ codes := by
  obtain ⟨link, -, found⟩ := List.mem_filterMap.1 mem
  unfold LinkResult.issue? at found
  split at found
  · cases found
  · split at found
    · exact Option.some.inj found ▸ .head _
    · cases found
  · exact Option.some.inj found ▸ .tail _ (.head _)
  all_goals
    rw [← Option.some.inj found]
    simp [codes, Issue.error, Issue.note]

end LinkIndex

end DocAudit
