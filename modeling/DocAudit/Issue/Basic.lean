import DocAudit.Issue.Code

/-!
# Findings

A finding about the documentation is data, not a failure: whatever a page says, checking it ends
with a list of issues.  A run fails only if one of them is an error.
-/

namespace DocAudit

/-- How grave a finding is. -/
inductive Severity where
  | error
  | warning
  | message
  deriving DecidableEq, Repr

/-- The word for a severity in the data of a report. -/
def Severity.name : Severity → String
  | .error => "error"
  | .warning => "warning"
  | .message => "message"

/-- The word for a severity in a line of text. -/
def Severity.label : Severity → String
  | .error => "error"
  | .warning => "warning"
  | .message => "note"

/-- A finding.  Its source is where it was found, from the page inwards; `pages` are further pages
that it concerns. -/
structure Issue where
  severity : Severity
  code : IssueCode
  source : Option String
  message : String
  pages : List String
  deriving DecidableEq, Repr

namespace Issue

/-- An error without a source. -/
def error (code : IssueCode) (message : String) : Issue :=
  ⟨.error, code, none, message, []⟩

/-- A warning without a source. -/
def warning (code : IssueCode) (message : String) : Issue :=
  ⟨.warning, code, none, message, []⟩

/-- A note with a code and without a source. -/
def note (code : IssueCode) (message : String) : Issue :=
  ⟨.message, code, none, message, []⟩

/-- Whether a finding is an error. -/
def isError (issue : Issue) : Bool :=
  issue.severity == .error

/-- Whether a finding is a warning. -/
def isWarning (issue : Issue) : Bool :=
  issue.severity == .warning

/-- What stands between the parts of a source. -/
def sourceSeparator : String := " > "

/-- Whether a finding was made on a page, or names it among its pages. -/
def concerns (issue : Issue) (page : String) : Bool :=
  (issue.source.any fun source =>
    source == page || (page ++ sourceSeparator).toList.isPrefixOf source.toList) ||
    issue.pages.contains page

/-- A line of text for a finding with a source of its own. -/
def lineWith (issue : Issue) (source : Option String) : String :=
  let label := s!"{issue.severity.label}[{issue.code.name}] "
  match source with
  | some source => s!"{label}{source}: {issue.message}"
  | none => s!"{label}{issue.message}"

/-- A line of text for a finding. -/
def line (issue : Issue) : String :=
  issue.lineWith issue.source

/-- A finding with a source, unless it has one already. -/
def within (context : Option String) (issue : Issue) : Issue :=
  match issue.source with
  | some _ => issue
  | none => { issue with source := context }

end Issue

end DocAudit
