import DocAudit.Text.Alphanumeric
import DocAudit.Text.Blank
import DocAudit.Text.Lowercase

/-!
# Bookmarks of headings

A link can point at a heading by the heading's bookmark: its words in lower case with a dash
between each two, all punctuation but dashes and underscores left out.
-/

namespace DocAudit.Text

/-- Whether a heading keeps a character in its bookmark. -/
def isSlugChar (c : Char) : Bool :=
  isAlphanumeric c || c == '-' || c == '_'

/-- The bookmark of the rest of a heading.  `started` says whether anything was written yet and
`pending` whether a gap between words waits for the next character that is kept. -/
def slugRest (started pending : Bool) : List Char → List Char
  | [] => []
  | c :: rest =>
    if isBlank c then slugRest started started rest
    else if isSlugChar c then
      (if pending then ['-'] else []) ++ lowerChar c ++ slugRest true false rest
    else slugRest started pending rest

/-- The bookmark of a heading. -/
def slug (title : String) : String :=
  .ofList (slugRest false false (trim title.toList))

end DocAudit.Text
