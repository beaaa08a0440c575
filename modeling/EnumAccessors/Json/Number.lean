import EnumAccessors.Decimal.Double

/-!
# JSON numbers

A number is taken apart into its digits (`Lexeme.scan`) and then read (`Lexeme.value`): as an
integer if it has neither point nor exponent and fits in 64 bits, with or without a sign, and as
a double otherwise.  Minus zero is a double.

Of a long significand only the leading digits count that fit in 64 bits (`takeDigits`).
-/

namespace EnumAccessors

namespace Json

/-- What is wrong with a text that is not JSON: a character that cannot stand where it does, or
the end of the text before the end of the value. -/
inductive Fault where
  | malformed
  | ended
  deriving DecidableEq, Repr

/-- A number that has been read. -/
inductive Number where
  | int (value : Int)
  | double (value : Double)
  deriving DecidableEq, Repr

/-! ### The parts of a number -/

/-- The parts of a number: its sign, the digits before and behind the point, and the sign and the
digits of the exponent.  The digits are given by their values. -/
structure Lexeme where
  negative : Bool
  whole : List Nat
  fraction : List Nat := []
  exponent : Option (Bool × List Nat) := none
  deriving DecidableEq, Repr

/-- Whether `c` is one of the ten digits. -/
def isDigit (c : Char) : Bool := '0' ≤ c && c ≤ '9'

/-- The values of the digits that a text starts with. -/
def leadingDigits (cs : List Char) : List Nat :=
  (cs.takeWhile isDigit).map fun c => c.toNat - '0'.toNat

/-- What follows the digits that a text starts with. -/
def afterDigits (cs : List Char) : List Char := cs.dropWhile isDigit

/-- The fault of a number that goes on with `rest` where a digit is needed. -/
def missingDigit (rest : List Char) : Fault := if rest.isEmpty then .ended else .malformed

namespace Lexeme

/-- The exponent of a number whose other parts are known. -/
def scanExponent (l : Lexeme) (cs : List Char) : Except Fault (Lexeme × List Char) :=
  match cs with
  | 'e' :: rest | 'E' :: rest =>
    let (negative, rest) :=
      match rest with
      | '-' :: rest => (true, rest)
      | '+' :: rest => (false, rest)
      | _ => (false, rest)
    if (leadingDigits rest).isEmpty then .error (missingDigit rest)
    else .ok ({ l with exponent := some (negative, leadingDigits rest) }, afterDigits rest)
  | _ => .ok (l, cs)

/-- The fraction and the exponent of a number whose whole part is known. -/
def scanFraction (l : Lexeme) (cs : List Char) : Except Fault (Lexeme × List Char) :=
  match cs with
  | '.' :: rest =>
    if (leadingDigits rest).isEmpty then .error (missingDigit rest)
    else scanExponent { l with fraction := leadingDigits rest } (afterDigits rest)
  | _ => scanExponent l cs

/-- The parts of the number after its sign.  A zero in front of another digit is malformed. -/
def scanWhole (negative : Bool) (cs : List Char) : Except Fault (Lexeme × List Char) :=
  match leadingDigits cs with
  | [] => .error (missingDigit cs)
  | 0 :: _ :: _ => .error .malformed
  | whole => scanFraction { negative := negative, whole := whole } (afterDigits cs)

/-- The parts of the number that a text starts with, and the rest of the text. -/
def scan (cs : List Char) : Except Fault (Lexeme × List Char) :=
  match cs with
  | '-' :: rest => scanWhole true rest
  | _ => scanWhole false cs

/-! ### The value of a number -/

/-- The number that digits make up after those of `n`. -/
def digitsValue (n : Nat) (digits : List Nat) : Nat := digits.foldl (fun n d => 10 * n + d) n

/-- The bound of the significands. -/
def wordBound : Nat := Nat.pow 2 64

/-- A significand extended by digits for as long as it fits, and the digits that are left. -/
def takeDigits (significand : Nat) : List Nat → Nat × List Nat
  | [] => (significand, [])
  | d :: rest =>
    if 10 * significand + d < wordBound then takeDigits (10 * significand + d) rest
    else (significand, d :: rest)

/-- The significand and the power of ten of a number without its exponent: digits of the whole
part that are left count as zeros, those of the fraction not at all. -/
def significand (l : Lexeme) : Nat × Int :=
  let (n, left) := takeDigits 0 l.whole
  let (n, behind) := takeDigits n l.fraction
  (n, (left.length : Int) - ((l.fraction.length - behind.length : Nat) : Int))

/-- The bound of the exponents that are taken at their value; a zero may have a greater one. -/
def exponentBound : Int := Int.pow 2 31

/-- An exponent brought into the range of the exponents. -/
def clampExponent (e : Int) : Int := max (-exponentBound) (min (exponentBound - 1) e)

/-- The double that a number is read as; none if it is out of range. -/
def double (l : Lexeme) : Option Double :=
  let (n, power) := l.significand
  match l.exponent with
  | none => Double.ofDecimal l.negative n power
  | some (negative, digits) =>
    let e : Int := digitsValue 0 digits
    if e < exponentBound then
      Double.ofDecimal l.negative n (clampExponent (if negative then power - e else power + e))
    else if n = 0 || negative then Double.ofDecimal l.negative 0 0
    else none

/-- The number that the parts stand for; none if it is out of range. -/
def value (l : Lexeme) : Option Number :=
  let n := digitsValue 0 l.whole
  if l.fraction.isEmpty && l.exponent.isNone then
    if !l.negative && n < wordBound then some (.int n)
    else if l.negative && 0 < n && n ≤ Nat.pow 2 63 then some (.int (-n))
    else l.double.map .double
  else l.double.map .double

end Lexeme

end Json

end EnumAccessors
