import DocAudit.Issue.Basic

/-!
# Logs

A log collects findings in order.  It may have a context, such as a page or a resource of a page; a
finding without a source gets the context as its source when it is recorded.  A log for a narrower
context is started with `narrowed` and joined with the wider one by `absorb`.
-/

namespace DocAudit

/-- Findings in the order in which they were recorded, and the context that they belong to. -/
structure IssueLog where
  context : Option String
  issues : List Issue
  deriving DecidableEq, Repr

namespace IssueLog

/-- A log without context and findings. -/
def empty : IssueLog := ⟨none, []⟩

/-- The context inside a wider one. -/
def nested (outer : Option String) (inner : String) : String :=
  match outer with
  | some outer => outer ++ Issue.sourceSeparator ++ inner
  | none => inner

/-- A log without findings for a context inside that of another log. -/
def narrowed (log : IssueLog) (context : String) : IssueLog :=
  ⟨some (nested log.context context), []⟩

/-- Adds a finding at the end. -/
def record (log : IssueLog) (issue : Issue) : IssueLog :=
  { log with issues := log.issues ++ [issue.within log.context] }

/-- Adds findings at the end. -/
def extend (log : IssueLog) (issues : List Issue) : IssueLog :=
  issues.foldl record log

/-- Adds the findings of a log for a narrower context as they are. -/
def absorb (log inner : IssueLog) : IssueLog :=
  { log with issues := log.issues ++ inner.issues }

/-- The number of errors. -/
def errorCount (log : IssueLog) : Nat :=
  log.issues.countP Issue.isError

/-- The number of warnings. -/
def warningCount (log : IssueLog) : Nat :=
  log.issues.countP Issue.isWarning

/-- Whether there is an error. -/
def hasErrors (log : IssueLog) : Bool :=
  log.issues.any Issue.isError

/-- Whether there is a finding of a kind. -/
def hasCode (log : IssueLog) (code : IssueCode) : Bool :=
  log.issues.any (·.code == code)

end IssueLog

end DocAudit
