import DocAudit.FileTree
import DocAudit.Issue.Audit
import DocAudit.Link.Target
import DocAudit.Page.Basic
import DocAudit.Settings.Basic
import DocAudit.Text.Suggestion
import DocAudit.Text.Sorted

/-!
# Checking links

A link inside of the set must lead to an existing file, and its bookmark must be that of a heading
there.  For a link that leads nowhere, a near name of a file or bookmark is suggested.  Pages to
which no other page links are orphaned.
-/

namespace DocAudit

/-- What is wrong with a link, if anything. -/
inductive LinkResult where
  | valid
  | external
  | bookmarkMissing (suggestion : Option String)
  | bookmarkUnknown
  | notFound (suggestion : Option String)
  | outside
  | malformed
  deriving DecidableEq, Repr

/-- A checked link, with the path of what it leads to if that exists. -/
structure LinkCheck where
  result : LinkResult
  destination : Option String
  deriving DecidableEq, Repr

/-- What links are checked against: the files of the set, and the bookmarks of its pages. -/
structure LinkIndex where
  files : FileTree
  bookmarks : List (String × List String)

namespace LinkIndex

/-- The index of some pages. -/
def ofPages (files : FileTree) (pages : List Page) : LinkIndex :=
  ⟨files, pages.map fun page => (page.path, page.bookmarks)⟩

/-- Whether a page has a bookmark. -/
def checkBookmark (known : List String) (bookmark : String) : LinkResult :=
  if known.contains bookmark then .valid
  else .bookmarkMissing ((Text.suggest bookmark known).map ("#" ++ ·))

/-- Checks a bookmark of a page, if the page is known. -/
def checkBookmarkOf (index : LinkIndex) (page bookmark : String) : LinkResult :=
  match index.bookmarks.lookup page with
  | some known => checkBookmark known bookmark
  | none => .bookmarkUnknown

/-- A file with a near name in the same directory as some place where there is nothing. -/
def nearFile? (index : LinkIndex) (place : List String) : Option String := do
  let name ← place.getLast?
  let around ← index.files.follow? place.dropLast
  Text.suggest name ((← around.entries?).map (·.1))

/-- A link with the name of the file in its path replaced. -/
def withFileName (path : List Char) (bookmark : Option String) (name : String) : String :=
  let replaced :=
    match Text.cutLast '/' path with
    | some (around, _) => String.ofList around ++ "/" ++ name
    | none => name
  match bookmark with
  | some bookmark => replaced ++ "#" ++ bookmark
  | none => replaced

/-- Checks the bookmark of a link that leads to a file or directory. -/
def checkBookmarkAt (index : LinkIndex) (destination : String) (target : FileTree)
    (bookmark : Option String) : LinkResult :=
  match bookmark.filter (!·.isEmpty) with
  | none => .valid
  | some bookmark =>
    if target.isDirectory then .valid else index.checkBookmarkOf destination bookmark

/-- Checks a link with a path. -/
def checkPath (index : LinkIndex) (source : String) (path : List Char) (bookmark : Option String) :
    LinkCheck :=
  match LinkTarget.destination? source path with
  | none => ⟨.outside, none⟩
  | some place =>
    match index.files.follow? place with
    | none => ⟨.notFound ((index.nearFile? place).map (withFileName path bookmark)), none⟩
    | some target =>
      let destination := "/".intercalate place
      ⟨index.checkBookmarkAt destination target bookmark, some destination⟩

/-- Checks a link of the page at `source`. -/
def check (index : LinkIndex) (source target : String) : LinkCheck :=
  match LinkTarget.read target with
  | .malformed => ⟨.malformed, none⟩
  | .external => ⟨.external, none⟩
  | .samePage name => ⟨index.checkBookmarkOf source name, none⟩
  | .relative path bookmark => index.checkPath source path bookmark

end LinkIndex

/-! ## Findings -/

namespace LinkResult

/-- What is said about a suggestion. -/
def hint (suggestion : Option String) : String :=
  match suggestion with
  | some text => s!" Did you mean '{text}'?"
  | none => ""

/-- The finding about a link, described by `place`. -/
def issue? (rules : LinkRules) (place : String) : LinkResult → Option Issue
  | valid => none
  | external =>
    if rules.warnOnExternal then
      some (.warning .linkExternalSkipped s!"{place} is external and was not checked")
    else none
  | bookmarkMissing suggestion =>
    some (.error .linkBookmarkMissing s!"{place}: bookmark not found.{hint suggestion}")
  | bookmarkUnknown =>
    some (.note .linkBookmarkSkipped
      s!"{place}: target is not a scanned page; bookmark not checked")
  | notFound suggestion =>
    some (.error .linkDestinationNotFound s!"{place}: destination not found.{hint suggestion}")
  | outside =>
    some (.error .linkOutsideDocSet s!"{place} points outside the documentation set")
  | malformed => some (.error .linkFormatInvalid s!"{place} is not a valid link target")

end LinkResult

namespace LinkIndex

/-- The findings about the links of a page. -/
def checkPage (index : LinkIndex) (rules : LinkRules) (page : Page) : List Issue :=
  page.links.filterMap fun link =>
    (index.check page.path link.target).result.issue? rules
      s!"Link '{link.target}' on line {link.line}"

/-- The places that the links of a page lead to, apart from the page itself. -/
def destinations (index : LinkIndex) (page : Page) : List String :=
  Text.sorted ((page.links.filterMap fun link =>
    (index.check page.path link.target).destination).filter (· != page.path))

end LinkIndex

/-! ## Orphaned pages -/

/-- The pages that no link leads to and that are not entries of the set. -/
def orphanedPages (rules : LinkRules) (incoming pages : List String) : List String :=
  pages.filter fun page => !incoming.contains page && !rules.entryPages.contains page

/-- The finding about an orphaned page. -/
def orphanIssue (page : String) : Issue :=
  { Issue.warning .orphanedPage "No page in the doc set links here" with source := some page }

end DocAudit
