import Scaffold.Decimal.Double

/-!
The fewest decimal digits that read back as a given double. For one digit, two digits and so on,
the two points of that decimal grid on either side of the number are tried; the first grid with a
point that rounds to the number gives the digits, the nearer point if both do.
-/
namespace Scaffold.Double

def reaches (num den : Nat) (power : Int) : Bool :=
  if power ≥ 0 then tenTo power.toNat * den ≤ num else den ≤ num * tenTo (-power).toNat

def leadingPower (num den : Nat) : Int :=
  let guess := ((num.log2 : Int) - den.log2) * 30103 / 100000
  ((([2, 1, 0, -1] : List Int).map (guess + ·)).find? (reaches num den)).getD (guess - 2)

/-- The digits of `mantissa · 2^exponent` on the grid of multiples of `10^power`, if a point of it
rounds to the number. -/
def onGrid (mantissa : Nat) (exponent power : Int) : Option Nat :=
  let unit := tenTo power.toNat * twoTo (2 - exponent).toNat
  let quarter := tenTo (-power).toNat * twoTo (exponent - 2).toNat
  let value := 4 * mantissa * quarter
  let low := value - (if mantissa == twoTo 52 && exponent > leastExponent then 1 else 2) * quarter
  let high := value + 2 * quarter
  let inside (point : Nat) : Bool :=
    if mantissa % 2 == 0 then low ≤ point && point ≤ high else low < point && point < high
  let below := value / unit
  match inside (below * unit), inside ((below + 1) * unit) with
  | true, true =>
    let down := value - below * unit
    let up := (below + 1) * unit - value
    some (if down < up || (down == up && below % 2 == 0) then below else below + 1)
  | true, false => some below
  | false, true => some (below + 1)
  | false, false => none

def withoutZeros : (fuel : Nat) → (digits : Nat) → (power : Int) → Nat × Int
  | 0, digits, power => (digits, power)
  | fuel + 1, digits, power =>
    if digits % 10 == 0 then withoutZeros fuel (digits / 10) (power + 1) else (digits, power)

/-- Digits and power of ten of a double other than zero. Seventeen digits always suffice. -/
def shortest (d : Double) : Nat × Int :=
  let lead := leadingPower d.fraction.1 d.fraction.2
  let found := (List.range 17).findSome? fun (count : Nat) =>
    (onGrid d.mantissa d.exponent (lead - (count : Int))).map (·, lead - (count : Int))
  match found with
  | some (digits, power) => withoutZeros 20 digits power
  | none => (0, 0)

end Scaffold.Double
