/-!
# Floating-point numbers of 64 bits

The size of a finite binary floating-point number of 64 bits is a significand below `2 ^ 53` times a
power of two not below `2 ^ (-1074)`.  `Binary64.ofRatio?` rounds a fraction to the nearest such
number, a tie going to the even significand; products and quotients are the exact results rounded in
this way.
-/

namespace DocAudit

/-- The number `significand * 2 ^ exponent`. -/
structure Binary64 where
  significand : Nat
  exponent : Int
  deriving DecidableEq, Repr

namespace Binary64

/-- The least exponent of a number. -/
def minExponent : Int := -1074

/-- The largest exponent of a number. -/
def maxExponent : Int := 971

/-- The quotient of two numbers rounded to the nearest integer, a tie going to the even one. -/
def roundedQuotient (num den : Nat) : Nat :=
  let quotient := num / den
  let twice := 2 * (num % den)
  if twice < den || (twice == den && quotient % 2 == 0) then quotient else quotient + 1

/-- The fraction `num * 2 ^ shift / den` as a numerator and a denominator. -/
def shifted (num den : Nat) (shift : Int) : Nat × Nat :=
  if 0 ≤ shift then (num <<< shift.toNat, den) else (num, den <<< (-shift).toNat)

/-- The number nearest to `num * 2 ^ shift / den`, or `none` if that is too large. -/
def ofRatio? (num den : Nat) (shift : Int) : Option Binary64 :=
  if num = 0 then some ⟨0, minExponent⟩
  else
    let estimate : Int := (num.log2 : Int) - den.log2 + shift
    let (n, d) := shifted num den (shift - estimate)
    let magnitude := if d ≤ n then estimate else estimate - 1
    let exponent := max (magnitude - 52) minExponent
    let (n, d) := shifted num den (shift - exponent)
    let significand := roundedQuotient n d
    let number : Binary64 :=
      if significand = 1 <<< 53 then ⟨1 <<< 52, exponent + 1⟩ else ⟨significand, exponent⟩
    if maxExponent < number.exponent then none else some number

/-- The number nearest to a natural number. -/
def ofNat? (n : Nat) : Option Binary64 := ofRatio? n 1 0

/-- The rounded product. -/
def mul? (a b : Binary64) : Option Binary64 :=
  ofRatio? (a.significand * b.significand) 1 (a.exponent + b.exponent)

/-- The rounded quotient by a number that is not zero. -/
def div? (a b : Binary64) : Option Binary64 :=
  ofRatio? a.significand b.significand (a.exponent - b.exponent)

end Binary64

end DocAudit
