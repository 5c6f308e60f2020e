import DocAudit.DocSet.Discovery
import DocAudit.DocSet.Report
import DocAudit.Link.Check
import DocAudit.Page.Check
import DocAudit.ResourceGraph.Reference

/-!
# Checking a set of pages

First every page is checked by itself.  Then the set is checked as a whole: the resources of all
pages are brought together, references to types are looked up, links are followed, and orphaned
pages are found.

A check may be limited to some pages.  All pages are read all the same, since they define what the
others refer to, but only findings that concern the selected pages are reported.
-/

namespace DocAudit

/-- What is checked: whether links are, whether headings are, and the pages to report on, where no
page means all of them. -/
structure CheckOptions where
  checksLinks : Bool
  checksOutline : Bool
  pages : List String
  deriving DecidableEq, Repr

/-- Why a set cannot be checked. -/
inductive DocSetError where
  | rootNotFound (root : String)
  | pageNotFound (page : String)
  deriving DecidableEq, Repr

/-- What is said about a set that cannot be checked. -/
def DocSetError.message : DocSetError → String
  | rootNotFound root => s!"Documentation root not found: {root}"
  | pageNotFound page => s!"Page is not part of the documentation set: {page}"

/-- A page with the findings on it. -/
structure CheckedPage where
  page : Page
  issues : List Issue
  deriving Repr

/-- A checked set: its pages, its resources, the findings about the set as a whole, and the pages
that are reported on, if not all are. -/
structure DocSet where
  root : String
  pages : List CheckedPage
  graph : ResourceGraph
  issues : List Issue
  selected : Option (List String)
  deriving Repr

namespace CheckedPage

/-! ## Single pages -/

/-- A page that is no text. -/
def unreadable (path : String) : CheckedPage :=
  { page := .empty path
    issues := [{ Issue.error .documentReadError
        "Could not read document: stream did not contain valid UTF-8" with source := some path }] }

/-- Checks the page at a path by itself. -/
def read (settings : Settings) (options : CheckOptions) (root : FileTree) (path : String) :
    CheckedPage :=
  let bytes := (root.follow? (LinkTarget.segments path.toList)).bind (·.bytes?)
  match bytes.bind String.fromUTF8? with
  | some text =>
    let checked := Page.check settings options.checksOutline path text
    ⟨checked.value, checked.issues⟩
  | none => unreadable path

/-- Adds the findings about the links of a page. -/
def withLinks (index : LinkIndex) (rules : LinkRules) (checked : CheckedPage) :
    CheckedPage :=
  let found := (index.checkPage rules checked.page).map (·.within (some checked.page.path))
  { checked with issues := checked.issues ++ found }

/-- The report on a page. -/
def report (checked : CheckedPage) : PageReport :=
  { path := checked.page.path
    title := checked.page.title
    resources := checked.page.resources.length
    methods := checked.page.methods.length
    issues := checked.issues }

end CheckedPage

namespace DocSet

/-! ## The set as a whole -/

/-- The names of all enumerations. -/
def enumNames (pages : List CheckedPage) : List String :=
  pages.flatMap fun checked => checked.page.enumMembers.map (·.identifier)

/-- A set without pages. -/
def emptyIssue (root : String) : Issue :=
  .error .emptyDocSet s!"No Markdown documents found under {root}"

/-- The findings about orphaned pages. -/
def orphanIssues (index : LinkIndex) (rules : LinkRules) (pages : List CheckedPage) : List Issue :=
  let incoming := pages.flatMap fun checked => index.destinations checked.page
  (orphanedPages rules incoming (pages.map (·.page.path))).map orphanIssue

/-- Checks the pages in a directory. -/
def ofDirectory (settings : Settings) (options : CheckOptions) (rootName : String) (root : FileTree)
    (paths : List String) (selected : Option (List String)) : DocSet :=
  let pages := paths.map (CheckedPage.read settings options root)
  let graph := ResourceGraph.resolve (pages.flatMap (·.page.resources))
  let issues :=
    (if pages.isEmpty then [emptyIssue rootName] else []) ++ graph.issues ++
      graph.value.checkReferences (enumNames pages)
  if options.checksLinks then
    let index := LinkIndex.ofPages root (pages.map (·.page))
    { root := rootName
      pages := pages.map (CheckedPage.withLinks index settings.links)
      graph := graph.value
      issues := issues ++
        if selected.isNone then orphanIssues index settings.links pages else []
      selected }
  else { root := rootName, pages, graph := graph.value, issues, selected }

/-- Checks the set at a root, which must be a directory. -/
def check (settings : Settings) (options : CheckOptions) (rootName : String)
    (root : Option FileTree) : Except DocSetError DocSet :=
  match root.filter (·.isDirectory) with
  | none => .error (.rootNotFound rootName)
  | some root =>
    let paths := discoverPages root
    if options.pages.isEmpty then .ok (ofDirectory settings options rootName root paths none)
    else
      match selectPages paths options.pages with
      | .error page => .error (.pageNotFound page)
      | .ok selected => .ok (ofDirectory settings options rootName root paths (some selected))

/-! ## What is reported -/

/-- Whether a page is reported on. -/
def isReported (set : DocSet) (path : String) : Bool :=
  set.selected.all (·.contains path)

/-- Whether a finding about the set as a whole concerns a page that is reported on, or no page in
particular. -/
def concernsReported (set : DocSet) (issue : Issue) : Bool :=
  match set.selected with
  | none => true
  | some selected =>
    (issue.source.isNone && issue.pages.isEmpty) || selected.any issue.concerns

/-- The pages that are reported on. -/
def reportedPages (set : DocSet) : List CheckedPage :=
  set.pages.filter fun checked => set.isReported checked.page.path

/-- The findings about the set as a whole that are reported. -/
def reportedIssues (set : DocSet) : List Issue :=
  set.issues.filter set.concernsReported

/-- Whether no error is reported. -/
def passed (set : DocSet) : Bool :=
  !(set.reportedPages.flatMap (·.issues) ++ set.reportedIssues).any Issue.isError

/-- The report on a set. -/
def report (set : DocSet) : Report :=
  { root := set.root
    pages := set.reportedPages.map CheckedPage.report
    issues := set.reportedIssues
    resourceOrder := set.graph.sortedNames
    passed := set.passed }

end DocSet

end DocAudit
