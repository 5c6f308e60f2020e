import DocAudit.Issue.Basic
import DocAudit.Json.Printer

/-!
# Reports

The outcome of checking a set of pages: for every page that is reported its findings, the findings
about the set as a whole, and the names of the resources, base types first.  A report is written as
lines of text or as JSON.
-/

namespace DocAudit

/-- The findings on one page. -/
structure PageReport where
  path : String
  title : Option String
  resources : Nat
  methods : Nat
  issues : List Issue
  deriving DecidableEq, Repr

/-- The outcome of checking a set of pages. -/
structure Report where
  root : String
  pages : List PageReport
  issues : List Issue
  resourceOrder : List String
  passed : Bool
  deriving DecidableEq, Repr

namespace Report

/-- All findings. -/
def allIssues (report : Report) : List Issue :=
  report.pages.flatMap (·.issues) ++ report.issues

/-- The number of errors. -/
def errorCount (report : Report) : Nat :=
  report.allIssues.countP Issue.isError

/-- The number of warnings. -/
def warningCount (report : Report) : Nat :=
  report.allIssues.countP Issue.isWarning

end Report

/-! ## Lines of text -/

/-- A line for a finding, without the page at the start of its source. -/
def Issue.lineOn (issue : Issue) (page : String) : String :=
  issue.lineWith (match issue.source with
    | none => none
    | some source =>
      if source = page then none
      else
        match (page ++ sourceSeparator).toList.isPrefixOf? source.toList with
        | some inner => some (.ofList inner)
        | none => some source)

namespace Report

/-- A line deeper than the ones around it. -/
def indented (line : String) : String := "    " ++ line

/-- A number of things. -/
def counted (count : Nat) (noun : String) : String :=
  if count = 1 then s!"{count} {noun}" else s!"{count} {noun}s"

/-- The number of a page, with three digits at least. -/
def pageNumber (number : Nat) : String :=
  let digits := toString number
  .ofList (List.replicate (3 - digits.length) '0') ++ digits

/-- Whether a finding is shown.  Notes are shown only in a verbose report. -/
def isShown (verbose : Bool) (issue : Issue) : Bool :=
  verbose || issue.severity != .message

/-- The line above the findings on a page. -/
def pageHeader (number : Nat) (page : PageReport) : String :=
  match page.title.filter (!·.isEmpty) with
  | some title => s!"{pageNumber number} {title} ({page.path})"
  | none => s!"{pageNumber number} {page.path}"

/-- The lines about a page.  Without findings to show, there are some only in a verbose report. -/
def pageLines (verbose : Bool) (number : Nat) (page : PageReport) : List String :=
  let shown := page.issues.filter (isShown verbose)
  if shown.isEmpty && !verbose then []
  else
    pageHeader number page ::
      (if verbose then
        [indented (counted page.resources "resource" ++ ", " ++ counted page.methods "method")]
      else []) ++
      shown.map fun issue => indented (issue.lineOn page.path)

/-- The lines about pages that are numbered from `number` on. -/
def linesOfPages (verbose : Bool) (number : Nat) : List PageReport → List String
  | [] => []
  | page :: rest => pageLines verbose number page ++ linesOfPages verbose (number + 1) rest

/-- The last line. -/
def summary (report : Report) : String :=
  let outcome := if report.passed then "Passed" else "FAILED"
  "Checked " ++ counted report.pages.length "document" ++ ": " ++
    counted report.errorCount "error" ++ ", " ++ counted report.warningCount "warning" ++ ". " ++
    outcome

/-- The lines of a part with its heading, if there are any. -/
def part (heading : String) (lines : List String) : List String :=
  if lines.isEmpty then [] else heading :: lines

/-- Parts one below the other with an empty line between each two, leaving out empty ones. -/
def stacked (parts : List (List String)) : List String :=
  [""].intercalate (parts.filter (!·.isEmpty))

/-- The lines of a report. -/
def lines (verbose : Bool) (report : Report) : List String :=
  let issues := report.issues.filter (isShown verbose)
  stacked
    [part "Documents" (linesOfPages verbose 1 report.pages),
     part "Documentation set" (issues.map fun issue => indented issue.line),
     part "Resources (base types first)"
       (if verbose then report.resourceOrder.map indented else []),
     [report.summary]]

end Report

/-! ## JSON -/

open Json (Value)

/-- A list of texts in JSON. -/
def textsToJson (texts : List String) : Value :=
  .array (texts.map .string)

/-- A finding in JSON; what is missing has no member. -/
def Issue.toJson (issue : Issue) : Value :=
  .object ([("severity", .string issue.severity.name), ("code", .string issue.code.name)] ++
    issue.source.toList.map (fun source => ("source", .string source)) ++
    [("message", .string issue.message)] ++
    if issue.pages.isEmpty then [] else [("pages", textsToJson issue.pages)])

/-- A number of things in JSON. -/
def countToJson (count : Nat) : Value :=
  .number (.integer count)

/-- The findings on a page in JSON. -/
def PageReport.toJson (page : PageReport) : Value :=
  .object ([("path", .string page.path)] ++
    page.title.toList.map (fun title => ("title", .string title)) ++
    [("resources", countToJson page.resources), ("methods", countToJson page.methods),
     ("issues", .array (page.issues.map Issue.toJson))])

/-- A report in JSON. -/
def Report.toJson (report : Report) : Value :=
  .object
    [("root", .string report.root), ("documents", .array (report.pages.map PageReport.toJson)),
     ("set_issues", .array (report.issues.map Issue.toJson)),
     ("resource_order", textsToJson report.resourceOrder), ("passed", .bool report.passed)]

end DocAudit
