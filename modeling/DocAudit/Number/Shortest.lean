import DocAudit.Number.Binary64

/-!
# The shortest decimal text of a number

A floating-point number is written with the fewest decimal digits from which it can be read back;
of two such texts the nearer one is taken.  The digits are found on grids of 1, 2, … 17 decimal
places: the first grid with a point among the reals that round to the number wins.
-/

namespace DocAudit

namespace Binary64

/-! ## The reals that round to a number -/

/-- The reals that round to a number: those between `low` and `high`, counted in units of
`2 ^ exponent`, the ends included if `closed`.  The number itself is `value`. -/
structure Neighbourhood where
  low : Nat
  value : Nat
  high : Nat
  exponent : Int
  closed : Bool

/-- The neighbourhood of a number reaches half-way to the next number on either side.  Below a power
of two the next number is only half as far away as above it. -/
def neighbourhood (number : Binary64) : Neighbourhood :=
  let m := number.significand
  let nearBelow := m == 1 <<< 52 && number.exponent != minExponent
  { low := if nearBelow then 4 * m - 1 else 4 * m - 2
    value := 4 * m
    high := 4 * m + 2
    exponent := number.exponent - 2
    closed := m % 2 == 0 }

/-! ## Decimal grids -/

/-- Decimal digits with a scale: the number `digits * 10 ^ scale`. -/
structure Decimal where
  digits : Nat
  scale : Int
  deriving DecidableEq, Repr

/-- The fraction `value * 2 ^ exponent / 10 ^ scale` as a numerator and a denominator. -/
def inUnits (value : Nat) (exponent scale : Int) : Nat × Nat :=
  let num := value <<< exponent.toNat * Nat.pow 10 (-scale).toNat
  let den := 1 <<< (-exponent).toNat * Nat.pow 10 scale.toNat
  (num, den)

/-- Whether the grid point `digits * 10 ^ scale` lies in a neighbourhood. -/
def Neighbourhood.holds (n : Neighbourhood) (digits : Nat) (scale : Int) : Bool :=
  let (low, den) := inUnits n.low n.exponent scale
  let (high, _) := inUnits n.high n.exponent scale
  let point := digits * den
  if n.closed then low ≤ point && point ≤ high else low < point && point < high

/-- The nearer of the two points next to the number on the grid of `10 ^ scale`, if it lies in the
neighbourhood, and otherwise the other one if that does.  Of two equally near ones the even one is
taken. -/
def Neighbourhood.onGrid? (n : Neighbourhood) (scale : Int) : Option Decimal :=
  let (num, den) := inUnits n.value n.exponent scale
  let below := num / den
  let near := roundedQuotient num den
  let far := if near = below then below + 1 else below
  if n.holds near scale then some ⟨near, scale⟩
  else if n.holds far scale then some ⟨far, scale⟩
  else none

/-- The least `k` with the number below `10 ^ k`, searched for upwards from `k` in `steps` steps. -/
def magnitudeFrom (value : Nat) (exponent : Int) : Nat → Int → Int
  | 0, k => k
  | steps + 1, k =>
    let (num, den) := inUnits value exponent k
    if num < den then k else magnitudeFrom value exponent steps (k + 1)

/-- A decimal without zeros at the end of its digits. -/
def Decimal.stripped : Nat → Decimal → Decimal
  | 0, d => d
  | steps + 1, d =>
    if d.digits ≠ 0 && d.digits % 10 == 0 then stripped steps ⟨d.digits / 10, d.scale + 1⟩ else d

/-- The decimal with the fewest digits that reads back as the number. -/
def shortest (number : Binary64) : Decimal :=
  if number.significand = 0 then ⟨0, 0⟩
  else
    let n := number.neighbourhood
    let magnitude := magnitudeFrom n.value n.exponent 640 (-325)
    let grids := (List.range 17).map fun (places : Nat) => magnitude - 1 - places
    ((grids.findSome? n.onGrid?).getD ⟨0, 0⟩).stripped 20

/-! ## The text -/

/-- How a decimal is written: positionally if its leading digit stands for `10 ^ e` with
`least ≤ e < limit`, otherwise with an exponent. -/
structure DecimalStyle where
  least : Int
  limit : Int

/-- Numbers of JSON examples are written positionally from `0.00001` up to, but excluding,
`10000000000000000`. -/
def exampleStyle : DecimalStyle := ⟨-5, 16⟩

/-- The text of a decimal.  Positional texts have at least one digit on either side of the point;
an exponent always has a sign. -/
def Decimal.text (style : DecimalStyle) (d : Decimal) : String :=
  let digits := Nat.toDigits 10 d.digits
  let count : Int := digits.length
  let lead := count - 1 + d.scale
  if d.digits = 0 then "0.0"
  else if style.least ≤ lead && lead < style.limit then
    if 0 ≤ d.scale then .ofList (digits ++ List.replicate d.scale.toNat '0') ++ ".0"
    else if lead < 0 then
      "0." ++ .ofList (List.replicate (-lead - 1).toNat '0' ++ digits)
    else
      .ofList (digits.take (lead.toNat + 1)) ++ "." ++ .ofList (digits.drop (lead.toNat + 1))
  else
    let fraction := digits.drop 1
    .ofList (digits.take 1) ++ (if fraction.isEmpty then "" else "." ++ .ofList fraction) ++ "e" ++
      (if lead < 0 then "-" else "+") ++ toString lead.natAbs

/-- The text of a number in a JSON example, without a sign. -/
def text (number : Binary64) : String :=
  number.shortest.text exampleStyle

end Binary64

end DocAudit
