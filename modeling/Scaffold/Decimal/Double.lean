/-!
Double-precision numbers as exact fractions `mantissa · 2^exponent`, and the one rounding that
produces them: to the nearest, a tie to the even mantissa.
-/
namespace Scaffold

/-- Either `2^52 ≤ mantissa < 2^53`, or the exponent is the least one and the mantissa is smaller.
-/
structure Double where
  negative : Bool
  mantissa : Nat
  exponent : Int
  deriving DecidableEq, Repr

namespace Double

def leastExponent : Int := -1074
def greatestExponent : Int := 971

def zero (negative : Bool) : Double := ⟨negative, 0, leastExponent⟩

def twoTo (n : Nat) : Nat := Nat.pow 2 n
def tenTo (n : Nat) : Nat := Nat.pow 10 n

def isZero (d : Double) : Bool := d.mantissa == 0

def scaled (num den : Nat) (exponent : Int) : Nat × Nat :=
  if exponent ≥ 0 then (num, den * twoTo exponent.toNat) else (num * twoTo (-exponent).toNat, den)

def roundQuotient (num den : Nat) : Nat :=
  let below := num / den
  let rest := 2 * (num % den)
  if rest > den || (rest == den && below % 2 == 1) then below + 1 else below

def nearest (negative : Bool) (num den : Nat) : Option Double :=
  if num == 0 then some (zero negative)
  else
    let guess := max ((num.log2 : Int) - den.log2 - 52) leastExponent
    let (n, d) := scaled num den guess
    let exponent := if n < d * twoTo 52 && guess > leastExponent then guess - 1 else guess
    let (n, d) := scaled num den exponent
    let rounded := roundQuotient n d
    let (mantissa, exponent) :=
      if rounded == twoTo 53 then (twoTo 52, exponent + 1) else (rounded, exponent)
    if exponent > greatestExponent then none else some ⟨negative, mantissa, exponent⟩

def fraction (d : Double) : Nat × Nat :=
  if d.exponent ≥ 0 then (d.mantissa * twoTo d.exponent.toNat, 1)
  else (d.mantissa, twoTo (-d.exponent).toNat)

def ofDecimal (negative : Bool) (digits : Nat) (power : Int) : Option Double :=
  let size := (Nat.toDigits 10 digits).length + power
  if digits == 0 || size < -330 then some (zero negative)
  else if size > 310 then none
  else if power ≥ 0 then nearest negative (digits * tenTo power.toNat) 1
  else nearest negative digits (tenTo (-power).toNat)

def times (a b : Double) : Option Double :=
  nearest (a.negative != b.negative) (a.fraction.1 * b.fraction.1) (a.fraction.2 * b.fraction.2)

def dividedBy (a b : Double) : Option Double :=
  nearest (a.negative != b.negative) (a.fraction.1 * b.fraction.2) (a.fraction.2 * b.fraction.1)

end Double
end Scaffold
