/-!
# Kinds of findings

Every finding has a code.  Its name is a stable identifier: a reader of a report may rely on it,
while the wording of a message may change.
-/

namespace DocAudit

/-- The kinds of findings. -/
inductive IssueCode where
  -- reading annotated blocks and tables
  | metadataParseError
  | unknownBlockType
  | missingResourceName
  | jsonWithoutMetadata
  | resourceJsonInvalid
  | responseWithoutRequest
  | requestNotFound
  | duplicateResponse
  | requestParseError
  | duplicatePageMetadata
  | tableParseError
  | unrecognizedTable
  -- types, and what a page says twice
  | typeParseFallback
  | typeSpecificityDowngrade
  | parameterTypeMismatch
  | additionalPropertyDetected
  | propertyMissingFromTable
  | multipleResourcesInDocument
  | ambiguousTableMapping
  | unusedTable
  | namespaceMismatch
  | possibleUndeclaredEnum
  | missingEnumDeclaration
  -- resources of the whole set
  | resourceNameCaseMismatch
  | baseTypeConflict
  | circularBaseType
  | unresolvedTypeReference
  -- headings
  | requiredHeaderMissing
  | headerWrongCase
  | misspelledHeader
  | headerInWrongPosition
  | misspelledHeaderInWrongPosition
  | extraHeaderFound
  -- links
  | linkExternalSkipped
  | linkBookmarkMissing
  | linkBookmarkSkipped
  | linkDestinationNotFound
  | linkOutsideDocSet
  | linkFormatInvalid
  | orphanedPage
  -- the set as a whole
  | emptyDocSet
  | documentReadError
  | info
  deriving DecidableEq, Repr

namespace IssueCode

/-- The identifier of a kind. -/
def name : IssueCode → String
  | metadataParseError => "metadata-parse-error"
  | unknownBlockType => "unknown-block-type"
  | missingResourceName => "missing-resource-name"
  | jsonWithoutMetadata => "json-without-metadata"
  | resourceJsonInvalid => "resource-json-invalid"
  | responseWithoutRequest => "response-without-request"
  | requestNotFound => "request-not-found"
  | duplicateResponse => "duplicate-response"
  | requestParseError => "request-parse-error"
  | duplicatePageMetadata => "duplicate-page-annotation"
  | tableParseError => "table-parse-error"
  | unrecognizedTable => "unrecognized-table"
  | typeParseFallback => "type-parse-fallback"
  | typeSpecificityDowngrade => "type-specificity-downgrade"
  | parameterTypeMismatch => "parameter-type-mismatch"
  | additionalPropertyDetected => "additional-property-detected"
  | propertyMissingFromTable => "property-missing-from-table"
  | multipleResourcesInDocument => "multiple-resources-in-document"
  | ambiguousTableMapping => "ambiguous-table-mapping"
  | unusedTable => "unused-table"
  | namespaceMismatch => "namespace-mismatch"
  | possibleUndeclaredEnum => "possible-undeclared-enum"
  | missingEnumDeclaration => "missing-enum-declaration"
  | resourceNameCaseMismatch => "resource-name-case-mismatch"
  | baseTypeConflict => "base-type-conflict"
  | circularBaseType => "circular-base-type"
  | unresolvedTypeReference => "unresolved-type-reference"
  | requiredHeaderMissing => "required-header-missing"
  | headerWrongCase => "header-wrong-case"
  | misspelledHeader => "misspelled-header"
  | headerInWrongPosition => "header-in-wrong-position"
  | misspelledHeaderInWrongPosition => "misspelled-header-in-wrong-position"
  | extraHeaderFound => "extra-header-found"
  | linkExternalSkipped => "link-external-skipped"
  | linkBookmarkMissing => "link-bookmark-missing"
  | linkBookmarkSkipped => "link-bookmark-skipped"
  | linkDestinationNotFound => "link-destination-not-found"
  | linkOutsideDocSet => "link-outside-doc-set"
  | linkFormatInvalid => "link-format-invalid"
  | orphanedPage => "orphaned-page"
  | emptyDocSet => "empty-doc-set"
  | documentReadError => "document-read-error"
  | info => "info"

/-- All kinds. -/
def all : List IssueCode :=
  [metadataParseError, unknownBlockType, missingResourceName, jsonWithoutMetadata,
   resourceJsonInvalid, responseWithoutRequest, requestNotFound, duplicateResponse,
   requestParseError, duplicatePageMetadata, tableParseError, unrecognizedTable,
   typeParseFallback, typeSpecificityDowngrade, parameterTypeMismatch,
   additionalPropertyDetected, propertyMissingFromTable, multipleResourcesInDocument,
   ambiguousTableMapping, unusedTable, namespaceMismatch, possibleUndeclaredEnum,
   missingEnumDeclaration, resourceNameCaseMismatch, baseTypeConflict, circularBaseType,
   unresolvedTypeReference, requiredHeaderMissing, headerWrongCase, misspelledHeader,
   headerInWrongPosition, misspelledHeaderInWrongPosition, extraHeaderFound,
   linkExternalSkipped, linkBookmarkMissing, linkBookmarkSkipped, linkDestinationNotFound,
   linkOutsideDocSet, linkFormatInvalid, orphanedPage, emptyDocSet, documentReadError, info]

/-- The kind with an identifier. -/
def ofName? (name : String) : Option IssueCode :=
  all.find? (·.name == name)

/-- Every kind is found by its identifier, so no two kinds share one. -/
theorem ofName?_name (code : IssueCode) : ofName? code.name = some code := by
  cases code <;> decide

end IssueCode

end DocAudit
