import EnumAccessors.Decimal.Double

/-!
# The shortest decimal of a double

The decimal that stands for a double has the fewest digits that read back as that double, and is
the nearest of these (`Double.shortest`).  It is written positionally between 0.00001 and 10^16
and with an exponent outside (`Double.render`), always with a point or an exponent.
-/

namespace EnumAccessors

namespace Double

/-! ### Digits -/

/-- How far below `d` the numbers that round to it reach, in quarters of the last place: at a power
of two the neighbour below is only half as far away as the one above. -/
def lowerGap (d : Double) : Nat :=
  if d.mantissa = Nat.pow 2 52 ∧ d.exponent ≠ minExponent then 1 else 2

/-- The fraction `n / 4 * 2 ^ exponent`. -/
def quarter (d : Double) (n : Nat) : Nat × Nat :=
  if d.exponent < 0 then (n, 4 * Nat.pow 2 (-d.exponent).toNat)
  else (n * Nat.pow 2 d.exponent.toNat, 4)

/-- Whether the decimal `n * 10 ^ power` reads back as `d`, without regard to the sign.  The
bounds of the interval are read as `d` if its mantissa is even. -/
def readsBack (d : Double) (n : Nat) (power : Int) : Bool :=
  let (num, den) :=
    if power < 0 then (n, Nat.pow 10 (-power).toNat) else (n * Nat.pow 10 power.toNat, 1)
  let low := d.quarter (4 * d.mantissa - d.lowerGap)
  let high := d.quarter (4 * d.mantissa + 2)
  let above := low.1 * den
  let below := num * high.2
  if d.mantissa % 2 = 0 then above ≤ num * low.2 && below ≤ high.1 * den
  else above < num * low.2 && below < high.1 * den

/-- The multiple of `10 ^ power` next to `d` that reads back as `d`.  If two do it is the nearer
one, and the even one if they are equally near. -/
def onGrid (d : Double) (power : Int) : Option Nat :=
  let (num, den) := d.fraction
  let (num, den) :=
    if power < 0 then (num * Nat.pow 10 (-power).toNat, den)
    else (num, den * Nat.pow 10 power.toNat)
  let n := num / den
  match d.readsBack n power, d.readsBack (n + 1) power with
  | true, true => some (divToEven num den)
  | true, false => some n
  | false, true => some (n + 1)
  | false, false => none

/-- The first grid, from `10 ^ power` to finer ones, on which a decimal reads back as `d`. -/
def searchGrids (d : Double) : Nat → Int → Nat × Int
  | 0, power => (0, power)
  | steps + 1, power =>
    match d.onGrid power with
    | some n => (n, power)
    | none => searchGrids d steps (power - 1)

/-- The shortest decimal of a positive double, as an integer and a power of ten: no double needs
more than 17 digits, and none has more than 309 places before the point or 324 behind it. -/
def shortest (d : Double) : Nat × Int :=
  let size := (d.fraction.1.log2 : Int) - (d.fraction.2.log2 : Int)
  d.searchGrids 24 ((size + 1) * 30103 / 100000 + 1)

/-! ### Text -/

/-- The exponent of a decimal in scientific notation: a sign and as many digits as it has. -/
def renderExponent (e : Int) : List Char :=
  (if e < 0 then '-' else '+') :: (toString e.natAbs).toList

/-- The text of the decimal with the given digits, the first of which has the place value
`10 ^ e`. -/
def renderDigits (digits : List Char) (e : Int) : List Char :=
  if -5 ≤ e ∧ e ≤ 15 then
    if e < 0 then
      '0' :: '.' :: List.replicate (-e - 1).toNat '0' ++ digits
    else
      let whole := e.toNat + 1
      if digits.length ≤ whole then
        digits ++ List.replicate (whole - digits.length) '0' ++ ['.', '0']
      else digits.take whole ++ '.' :: digits.drop whole
  else
    match digits with
    | [] => []
    | [d] => d :: 'e' :: renderExponent e
    | d :: rest => d :: '.' :: rest ++ 'e' :: renderExponent e

/-- The text of a double. -/
def render (d : Double) : String :=
  let sign := if d.negative then ['-'] else []
  if d.mantissa = 0 then String.ofList (sign ++ ['0', '.', '0'])
  else
    let (n, power) := d.shortest
    let digits := (toString n).toList
    String.ofList (sign ++ renderDigits digits (power + digits.length - 1))

end Double

end EnumAccessors
