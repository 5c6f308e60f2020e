import DocAudit.Markdown.Entity
import DocAudit.Text.Punctuation

/-!
# Escapes in link targets and info strings

A backslash before ASCII punctuation and character references are replaced by the characters that
they stand for, in running text as well as in link targets and in the info string of a code block.
-/

namespace DocAudit.Markdown

/-- Replaces escapes in a text, skipping its first `skip` characters. -/
def unescapeFrom : Nat → List Char → List Char
  | _, [] => []
  | skip + 1, _ :: rest => unescapeFrom skip rest
  | 0, '\\' :: c :: rest =>
    if Text.isAsciiPunctuation c then c :: unescapeFrom 1 (c :: rest)
    else '\\' :: unescapeFrom 0 (c :: rest)
  | 0, '&' :: rest =>
    match readEntity? rest with
    | some (chars, count) => chars ++ unescapeFrom count rest
    | none => '&' :: unescapeFrom 0 rest
  | 0, c :: rest => c :: unescapeFrom 0 rest

/-- A text with its escapes replaced. -/
def unescape (text : List Char) : List Char :=
  unescapeFrom 0 text

end DocAudit.Markdown
