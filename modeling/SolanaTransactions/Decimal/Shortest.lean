/-
Module: SolanaTransactions.Decimal.Shortest
Purpose: The shortest decimal text that reads back as a given double.
Main exports: Double.readsBack, Double.shortest, FloatFormat, Double.text
-/
import SolanaTransactions.Decimal.Double

namespace SolanaTransactions

/-!
All numbers in an interval around a double round to it.  The shortest decimal is
looked for on ever finer decimal grids: on each of them the two neighbours of the
double are tried, and the first grid with a hit gives the digits.
-/

namespace Double

/-- Whether a number rounds to the finite double of a mantissa and an exponent.  The neighbour below
a power of two is half as far away as the one above, and the ends of the interval round to an even
mantissa. -/
def readsBack (mantissa : Nat) (exponent : Int) (number : Rat) : Bool :=
  let gap := powerOf 2 exponent / 2
  let centre := magnitude mantissa exponent
  let narrow : Bool := mantissa = Nat.pow 2 52 && -1074 < exponent
  let low := centre - (if narrow then gap / 2 else gap)
  let high := centre + gap
  (low < number && number < high) || (mantissa % 2 == 0 && (number == low || number == high))

/-- The exponent of the highest power of ten that does not exceed a positive number. -/
def decimalExponent (number : Rat) : Int :=
  if 1 ≤ number then ((Numeral.digits 10 number.floor.toNat).length : Int) - 1
  else -((Numeral.digits 10 ((1 / number).ceil.toNat - 1)).length : Int)

/-- The neighbour of a double on a decimal grid that reads back as the double, the nearer one of two
and the even one of two that are equally near; the grid has some places after the leading one. -/
def onGrid? (mantissa : Nat) (exponent : Int) (places : Nat) : Option (Nat × Int) :=
  let centre := magnitude mantissa exponent
  let grid := decimalExponent centre - places
  let scaled := centre / powerOf 10 grid
  let below := scaled.floor.toNat
  let hits (digits : Nat) : Bool := readsBack mantissa exponent (digits * powerOf 10 grid)
  if hits below && hits (below + 1) then some (roundHalfEven scaled, grid)
  else if hits below then some (below, grid)
  else if hits (below + 1) then some (below + 1, grid)
  else none

/-- The shortest digits, and the power of ten of the last one, that read back as a finite double
other than zero. -/
def shortest (mantissa : Nat) (exponent : Int) : Nat × Int :=
  ((List.range 17).findSome? (onGrid? mantissa exponent)).getD (mantissa, exponent)

end Double

/-- How the digits of a number are laid out. -/
structure FloatFormat where
  /-- The least exponent of the leading digit with which no power of ten is written. -/
  plainFrom : Int
  /-- The least exponent above `plainFrom` with which a power of ten is written again. -/
  plainBelow : Int
  /-- The least number of digits of a power of ten. -/
  exponentWidth : Nat
deriving DecidableEq, Inhabited, Repr

namespace FloatFormat

/-- Digits as text. -/
def digitText (digits : List Nat) : String := String.ofList (digits.map Nat.digitChar)

/-- A number of zeros as text. -/
def zeros (count : Nat) : String := String.ofList (List.replicate count '0')

/-- The text of digits in front of which the point stands as far as `point` says: after that many
digits, with zeros filled in. -/
def positional (digits : List Nat) (point : Int) : String :=
  if point ≤ 0 then "0." ++ zeros (-point).toNat ++ digitText digits
  else if digits.length ≤ point then
    digitText digits ++ zeros (point.toNat - digits.length) ++ ".0"
  else digitText (digits.take point.toNat) ++ "." ++ digitText (digits.drop point.toNat)

/-- The text of digits with a power of ten. -/
def scientific (format : FloatFormat) (digits : List Nat) (leading : Int) : String :=
  let power := (Numeral.digits 10 leading.natAbs).reverse
  let fraction := if digits.length ≤ 1 then "" else "." ++ digitText (digits.drop 1)
  digitText (digits.take 1) ++ fraction ++ "e" ++ (if leading < 0 then "-" else "+") ++
    zeros (format.exponentWidth - power.length) ++ digitText power

/-- The text of a number that is given by its digits and the power of ten of the last one. -/
def layOut (format : FloatFormat) (digits : Nat) (exponent : Int) : String :=
  let lowFirst := Numeral.digits 10 digits
  let significant := lowFirst.dropWhile (· == 0)
  let point := lowFirst.length + exponent
  if format.plainFrom ≤ point - 1 ∧ point - 1 < format.plainBelow then
    positional significant.reverse point
  else format.scientific significant.reverse (point - 1)

end FloatFormat

/-- The text of a double in a format: the shortest that reads back. -/
def Double.text (format : FloatFormat) : Double → String
  | nan => "nan"
  | infinite negative => if negative then "-inf" else "inf"
  | finite negative mantissa exponent =>
      let unsigned :=
        if mantissa = 0 then "0.0"
        else
          let (digits, power) := shortest mantissa exponent
          format.layOut digits power
      (if negative then "-" else "") ++ unsigned

end SolanaTransactions
