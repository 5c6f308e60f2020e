import DocAudit.Number.Shortest

/-!
# Numbers of JSON texts

A number without fraction and exponent that fits 64 bits, with or without sign, is kept as an
integer.  Every other number is kept as a floating-point number.  It is read from the first digits
that fit 64 bits without sign: further digits before the point only count towards the exponent, and
further digits behind it are dropped.  The significand is then multiplied by a power of ten, or
divided by one, and each of these steps rounds.
-/

namespace DocAudit.Json

/-- A number: an integer, or the size of a floating-point number with a sign. -/
inductive Number where
  | integer (value : Int)
  | real (negative : Bool) (size : Binary64)
  deriving DecidableEq, Repr

/-- The parts of a number as they are written: the digits before the point, the digits behind it if
there is a point, and the sign and digits of the exponent if there is one. -/
structure NumberText where
  negative : Bool
  whole : List Nat
  fraction : Option (List Nat)
  exponent : Option (Bool × List Nat)
  deriving Repr

namespace Number

/-- Reads digits as long as the number so far is less than `bound`, starting from `value`.  The
digits that are left over come second. -/
def readBelow (bound value : Nat) : List Nat → Nat × List Nat
  | [] => (value, [])
  | digit :: rest =>
    if value * 10 + digit < bound then readBelow bound (value * 10 + digit) rest
    else (value, digit :: rest)

/-- The number `10 ^ n` rounded to a floating-point number. -/
def powerOfTen? (n : Nat) : Option Binary64 :=
  Binary64.ofNat? (Nat.pow 10 n)

/-- The number `size * 10 ^ scale`, or `none` if it is too large.  A scale below `-308` is worked
off in steps of 308. -/
def scaled? (size : Binary64) (scale : Int) : Option Binary64 :=
  if size.significand = 0 then some size
  else if 308 < scale then none
  else if 0 ≤ scale then do size.mul? (← powerOfTen? scale.toNat)
  else if h : scale < -308 then do
    scaled? (← size.div? (← powerOfTen? 308)) (scale + 308)
  else do size.div? (← powerOfTen? (-scale).toNat)
termination_by (-scale).toNat
decreasing_by omega

/-- The floating-point number `significand * 10 ^ scale` with a sign. -/
def ofParts? (negative : Bool) (significand : Nat) (scale : Int) : Option Number := do
  let size ← Binary64.ofNat? significand
  return .real negative (← scaled? size scale)

/-- The number of a text without fraction and exponent whose digits fit 64 bits. -/
def ofInteger? (negative : Bool) (value : Nat) : Option Number :=
  if !negative then some (.integer value)
  else if 0 < value && value ≤ 1 <<< 63 then some (.integer (-value))
  else ofParts? true value 0

/-- The number that a text stands for, or `none` if it is too large for a floating-point number. -/
def ofText? (text : NumberText) : Option Number :=
  let (leading, excess) := readBelow (1 <<< 64) 0 text.whole
  let (significand, scale) :=
    match text.fraction with
    | none => (leading, (excess.length : Int))
    | some digits =>
      let (value, dropped) := readBelow (1 <<< 64) leading digits
      (value, (excess.length : Int) - (digits.length - dropped.length))
  match text.exponent with
  | none =>
    if text.fraction.isNone && excess.isEmpty then ofInteger? text.negative leading
    else ofParts? text.negative significand scale
  | some (negativeExponent, digits) =>
    match readBelow (1 <<< 31) 0 digits with
    | (exponent, []) =>
      ofParts? text.negative significand
        (if negativeExponent then scale - exponent else scale + exponent)
    | _ =>
      if significand ≠ 0 && !negativeExponent then none
      else some (.real text.negative ⟨0, Binary64.minExponent⟩)

/-- Whether a number is kept as an integer. -/
def isInteger : Number → Bool
  | .integer _ => true
  | .real _ _ => false

/-- The text of a number: an integer in decimal digits, any other number by its shortest text. -/
def text : Number → String
  | .integer value => toString value
  | .real negative size => (if negative then "-" else "") ++ size.text

end Number

end DocAudit.Json
