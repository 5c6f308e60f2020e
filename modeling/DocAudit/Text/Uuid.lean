/-!
# Unique identifiers

A UUID is written as 32 hexadecimal digits, plain or with hyphens in the five groups of 8, 4, 4, 4
and 12 digits.  The form with hyphens may also stand in braces or behind `urn:uuid:`.

Neither the case of the digits nor that of the prefix counts: `URN:UUID:936da01f-…` is a UUID like
`urn:uuid:936da01f-…`.  This is what the release of the `uuid` package does that the checker is
built with.  The package is asked for by its major version only, and its release 1.23.0 still took
the prefix in lower case alone.
-/

namespace DocAudit.Text

/-- Whether a character is a hexadecimal digit. -/
def isHexDigit (c : Char) : Bool :=
  c.isDigit || ('a' ≤ c && c ≤ 'f') || ('A' ≤ c && c ≤ 'F')

/-- Whether a text consists of groups of hexadecimal digits of the given sizes, with a hyphen
between each two groups. -/
def isHyphenated : List Nat → List Char → Bool
  | [], text => text.isEmpty
  | size :: sizes, text =>
    let digits := text.take size
    let rest := text.drop size
    digits.length == size && digits.all isHexDigit &&
      match sizes, rest with
      | [], rest => rest.isEmpty
      | _ :: _, '-' :: rest => isHyphenated sizes rest
      | _ :: _, _ => false

/-- Whether a text is a UUID in one of its written forms.  Of the prefix only the letters count, not
their case. -/
def isUuid (text : List Char) : Bool :=
  let hyphenated := isHyphenated [8, 4, 4, 4, 12]
  match text with
  | '{' :: rest => rest.getLast? == some '}' && hyphenated rest.dropLast
  | _ =>
    (text.length == 32 && text.all isHexDigit) || hyphenated text ||
      ("urn:uuid:".toList == (text.take 9).map Char.toLower && hyphenated (text.drop 9))

end DocAudit.Text
