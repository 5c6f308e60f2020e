import DocAudit.FileTree
import DocAudit.Text.Sorted
import DocAudit.Text.Split

/-!
# The pages of a set

The pages of a set are the files with the extension `md`, in any case, that are not hidden and not
in hidden directories.  A page is named by its path relative to the root of the set.
-/

namespace DocAudit

/-- Whether a file or directory is hidden. -/
def isHidden (name : String) : Bool :=
  name.toList.head? == some '.'

/-- Whether a file has the name of a page. -/
def isPageName (name : String) : Bool :=
  match Text.cutLast '.' name.toList with
  | some (stem, extension) =>
    !stem.isEmpty && Text.equalIgnoringAsciiCase extension "md".toList
  | none => false

/-- The paths of the pages in a directory, in order. -/
def discoverPages (root : FileTree) : List String :=
  let paths := (root.paths (!isHidden ·)).filter fun path => path.getLast?.any isPageName
  Text.sorted (paths.map fun path => "/".intercalate path)

/-! ## Selection -/

/-- A text without the start as often as it is there, at most `bound` times. -/
def withoutStarts (start : List Char) : Nat → List Char → List Char
  | 0, text => text
  | bound + 1, text =>
    match start.isPrefixOf? text with
    | some rest => withoutStarts start bound rest
    | none => text

/-- The path of a page as it may be asked for: with backslashes, and with a point or slash at its
start. -/
def normalizedPage (page : String) : String :=
  let path := page.toList.map fun c => if c = '\\' then '/' else c
  .ofList (Text.trimStartBy (· == '/') (withoutStarts ['.', '/'] path.length path))

/-- Pages that were asked for, in order, or the first one that is not there. -/
def selectPages (pages requested : List String) : Except String (List String) :=
  match requested.find? fun page => !pages.contains (normalizedPage page) with
  | some page => .error page
  | none => .ok (Text.sorted (requested.map normalizedPage))

end DocAudit
