/-!
# Percent-encoded texts

In a link target, a percent sign and two hexadecimal digits stand for one byte.  A text is decoded
as a whole: if its bytes are not UTF-8 afterwards, it is left as it was written.
-/

namespace DocAudit.Text

/-- The value of a hexadecimal digit. -/
def hexValue? (c : Char) : Option Nat :=
  if '0' ≤ c && c ≤ '9' then some (c.toNat - '0'.toNat)
  else if 'a' ≤ c && c ≤ 'f' then some (c.toNat - 'a'.toNat + 10)
  else if 'A' ≤ c && c ≤ 'F' then some (c.toNat - 'A'.toNat + 10)
  else none

/-- The bytes that a text stands for: one for each percent escape, and the UTF-8 encoding of every
other character.  A percent sign that starts no escape stands for itself. -/
def percentBytes : List Char → List UInt8
  | [] => []
  | '%' :: high :: low :: rest =>
    match hexValue? high, hexValue? low with
    | some h, some l => UInt8.ofNat (16 * h + l) :: percentBytes rest
    | _, _ => '%'.toUInt8 :: percentBytes (high :: low :: rest)
  | c :: rest => String.utf8EncodeChar c ++ percentBytes rest

/-- The text with its percent escapes replaced by the characters that they encode, or the text
itself if they encode none. -/
def percentDecode (text : List Char) : List Char :=
  match String.fromUTF8? (percentBytes text).toByteArray with
  | some decoded => decoded.toList
  | none => text

end DocAudit.Text
