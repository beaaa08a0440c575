/-!
# Double precision numbers

A finite double is a sign, a mantissa and a power of two.  A positive fraction of natural numbers
is rounded to the nearest one, a tie to the even mantissa (`Double.round`); products and quotients
are rounded from their exact values.

`Double.ofDecimal` reads a decimal significand and a power of ten in the steps a reader with a
table of powers takes: the significand is rounded, then multiplied or divided by the rounded
power, so the result may differ from the nearest double in its last bit.
-/

namespace EnumAccessors

/-- The number `mantissa * 2 ^ exponent`, or its negative.  The mantissa has at most 53 bits, and
fewer only at the least exponent. -/
structure Double where
  negative : Bool
  mantissa : Nat
  exponent : Int
  deriving DecidableEq, Repr

namespace Double

/-! ### Bounds of the format -/

/-- The least exponent of a double. -/
def minExponent : Int := -1074

/-- The greatest exponent of a double. -/
def maxExponent : Int := 971

/-- The bound of the mantissas. -/
def mantissaBound : Nat := Nat.pow 2 53

/-! ### Rounding -/

/-- The quotient of two natural numbers rounded to the nearest one, a tie to the even one. -/
def divToEven (num den : Nat) : Nat :=
  let q := num / den
  let r := num % den
  if 2 * r < den then q
  else if den < 2 * r then q + 1
  else if q % 2 = 0 then q else q + 1

/-- How often `2 ^ e` goes into `num / den`, rounded. -/
def scaled (num den : Nat) (e : Int) : Nat :=
  if e < 0 then divToEven (num * Nat.pow 2 (-e).toNat) den
  else divToEven num (den * Nat.pow 2 e.toNat)

/-- The positive double nearest to `num / den`; none if that is beyond the greatest. -/
def round (num den : Nat) : Option Double :=
  if num = 0 then some ⟨false, 0, minExponent⟩
  else
    let low := max ((num.log2 : Int) - (den.log2 : Int) - 53) minExponent
    let m := scaled num den low
    let e := if m < mantissaBound then low else low + 1
    if e ≤ maxExponent then some ⟨false, scaled num den e, e⟩ else none

/-- The number as a fraction, without its sign. -/
def fraction (d : Double) : Nat × Nat :=
  if d.exponent < 0 then (d.mantissa, Nat.pow 2 (-d.exponent).toNat)
  else (d.mantissa * Nat.pow 2 d.exponent.toNat, 1)

/-- The rounded product of two positive doubles. -/
def mul (a b : Double) : Option Double :=
  round (a.fraction.1 * b.fraction.1) (a.fraction.2 * b.fraction.2)

/-- The rounded quotient of two positive doubles. -/
def div (a b : Double) : Option Double :=
  round (a.fraction.1 * b.fraction.2) (a.fraction.2 * b.fraction.1)

/-! ### Reading decimals -/

/-- The greatest power of ten in the table of powers. -/
def maxPower : Nat := 308

/-- A positive double times a power of ten; none if the power or the product is out of range.
Powers below the table are taken in steps of the least one, and `steps` bounds these: after three
of them nothing is left of any significand. -/
def scaleByTen (steps : Nat) (f : Double) (power : Int) : Option Double :=
  if 0 ≤ power then
    if f.mantissa = 0 then some f
    else if power.toNat ≤ maxPower then (round (Nat.pow 10 power.toNat) 1).bind f.mul
    else none
  else if (-power).toNat ≤ maxPower then (round (Nat.pow 10 (-power).toNat) 1).bind f.div
  else
    match steps with
    | 0 => some ⟨false, 0, minExponent⟩
    | steps + 1 =>
      if f.mantissa = 0 then some f
      else ((round (Nat.pow 10 maxPower) 1).bind f.div).bind fun g =>
        scaleByTen steps g (power + maxPower)

/-- The double that `significand * 10 ^ power` is read as; none if it is out of range. -/
def ofDecimal (negative : Bool) (significand : Nat) (power : Int) : Option Double :=
  ((round significand 1).bind fun f => scaleByTen 3 f power).map fun f =>
    { f with negative := negative }

end Double

end EnumAccessors
