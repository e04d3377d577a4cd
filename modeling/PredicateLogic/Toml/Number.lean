import PredicateLogic.Toml.Quoted

/-!
# Numbers in TOML

Integers are decimal with an optional sign, or hexadecimal, octal or binary
without one, and must fit into 64 bits with a sign. Single underscores may stand
between digits. Numbers with a fraction or an exponent are floats of 64 bits;
one that is too large for a finite float is no number, unless it is negative.

An exponent takes up digits only while it is below a limit. This can only be
seen in numbers with tens of thousands of figures, which make up for an exponent
of that size.
-/

namespace PredicateLogic.Toml

/-- Whether a text consists of digits, with single underscores between them at
most. -/
def isDigitRun (isDigit : Char → Bool) : (behindDigit : Bool) → List Char → Bool
  | behindDigit, [] => behindDigit
  | behindDigit, c :: cs =>
    if isDigit c then isDigitRun isDigit true cs
    else if behindDigit && c == '_' then isDigitRun isDigit false cs
    else false

/-- Whether a text is a run of decimal digits that may start with zeros. -/
def isFigures (cs : List Char) : Bool :=
  isDigitRun Char.isDigit false cs

/-- Whether a text is a run of decimal digits without needless zeros at its
start. -/
def isDecimal (cs : List Char) : Bool :=
  cs == ['0'] || (cs.head? != some '0' && isFigures cs)

/-- The number that digits denote in the given base, whatever stands between
them. Digits are taken up only while the number is below a limit, and dropped
from there on. -/
def numberWithin (limit base : Nat) (cs : List Char) : Nat :=
  (cs.filterMap hexValue?).foldl
    (fun n digit => if n < limit then base * n + digit else n) 0

/-- A number beyond all integers. -/
def integerLimit : Nat := Nat.pow 2 64

/-- The number that a run of digits denotes in the given base. -/
def numberInBase? (base : Nat) (cs : List Char) : Option Nat :=
  if isDigitRun (fun c => (hexValue? c).any (· < base)) false cs then
    some (numberWithin integerLimit base cs)
  else none

/-- Whether a text starts with a minus sign, and the text behind its sign. -/
def signed : List Char → Bool × List Char
  | '+' :: cs => (false, cs)
  | '-' :: cs => (true, cs)
  | cs => (false, cs)

/-- The value of an integer. One with a value beyond the limit stays beyond
it. -/
def wholeNumber? : List Char → Option Int
  | '0' :: 'x' :: cs => (numberInBase? 16 cs).map Int.ofNat
  | '0' :: 'o' :: cs => (numberInBase? 8 cs).map Int.ofNat
  | '0' :: 'b' :: cs => (numberInBase? 2 cs).map Int.ofNat
  | cs =>
    let (negative, digits) := signed cs
    if isDecimal digits then
      let n : Int := numberWithin integerLimit 10 digits
      some (if negative then -n else n)
    else none

/-- The value of an integer that fits into 64 bits with a sign. -/
def integer? (cs : List Char) : Option Int :=
  (wholeNumber? cs).filter fun n =>
    Int64.minValue.toInt ≤ n ∧ n ≤ Int64.maxValue.toInt

/-- The least number that rounds to infinity: half a unit of the last place
above the largest finite float. -/
def floatLimit : Nat :=
  Nat.pow 2 1024 - Nat.pow 2 970

/-- The number of digits of the limit. -/
def floatPlaces : Nat := 309

/-- Whether a decimal number, given by its digits and the exponent of the last
one, rounds to a finite float. As the limit is whole, a number with as many
places is compared by its whole part. -/
def roundsToFinite (digits : List Char) (exponent : Int) : Bool :=
  let digits :=
    (digits.dropWhile fun c => c == '0' || c == '_').filter Char.isDigit
  let places := digits.length + exponent
  if digits.isEmpty || places < floatPlaces then true
  else if floatPlaces < places then false
  else
    let leading := numberWithin floatLimit 10 (digits.take floatPlaces)
    leading * Nat.pow 10 (floatPlaces - digits.length) < floatLimit

/-- The number from which on an exponent takes up no more digits. -/
def exponentLimit : Nat := 65536

/-- The exponent behind its letter. A number without the letter has the exponent
zero. -/
def exponent? : List Char → Option Int
  | [] => some 0
  | _ :: cs =>
    let (negative, digits) := signed cs
    if isFigures digits then
      let n : Int := numberWithin exponentLimit 10 digits
      some (if negative then -n else n)
    else none

/-- Whether a text without sign is a number with a fraction or an exponent, and
if so whether it rounds to a finite float. -/
def fractional? (cs : List Char) : Option Bool := do
  let isLetter := fun c => c == 'e' || c == 'E'
  let (mantissa, behind) :=
    (cs.takeWhile (!isLetter ·), cs.dropWhile (!isLetter ·))
  let (whole, point) :=
    (mantissa.takeWhile (· != '.'), mantissa.dropWhile (· != '.'))
  let figures := point.drop 1
  let exponent ← exponent? behind
  if isDecimal whole &&
      (if point.isEmpty then !behind.isEmpty else isFigures figures) then
    some (roundsToFinite (whole ++ figures)
      (exponent - (figures.filter Char.isDigit).length))
  else none

/-- Whether a text is a float. -/
def isFloat (cs : List Char) : Bool :=
  let (negative, size) := signed cs
  size == ['i', 'n', 'f'] || size == ['n', 'a', 'n'] ||
    (fractional? size).any fun finite => finite || negative

end PredicateLogic.Toml
