import DocAudit.Text.Lowercase
import DocAudit.Text.Split

/-!
# Titles with wildcards

In the title of an expected heading, `*` stands for any run of characters.  The text before the
first star must start the title and the text behind the last must end it; the pieces between are
searched for from left to right, each behind the one before.
-/

namespace DocAudit.Text

/-- Whether the pieces occur in `text` in order and without overlap, the last one at its end. -/
def piecesMatch : List (List Char) → List Char → Bool
  | [], text => text.isEmpty
  | [last], text => last.isSuffixOf text
  | piece :: more, text =>
    match cutAround piece text with
    | some (_, after) => piecesMatch more after
    | none => false

/-- Whether `text` is the pattern with each star replaced by some characters. -/
def wildcardMatch (pattern text : List Char) : Bool :=
  match splitAt '*' pattern with
  | [] => text.isEmpty
  | [whole] => whole == text
  | first :: more =>
    match first.isPrefixOf? text with
    | some after => piecesMatch more after
    | none => false

/-- `wildcardMatch` regardless of case. -/
def wildcardMatchIgnoringCase (pattern text : List Char) : Bool :=
  wildcardMatch (lower pattern) (lower text)

end DocAudit.Text
