/-
Module: SolanaTransactions.Decimal.Double
Purpose: Binary floating-point numbers of double precision, and their reader.
Main exports: Double, Double.ofMagnitude, Double.ofDecimal, Double.read?
-/
import SolanaTransactions.Numeral
import SolanaTransactions.Text.DecimalDigit

namespace SolanaTransactions

/-!
A double is a mantissa of at most 53 bits times a power of two.  All arithmetic
on doubles here is exact arithmetic on rational numbers, rounded once.
-/

/-- A binary floating-point number of double precision.  A finite one is its mantissa, below
`2 ^ 53`, times two to its exponent, which is at least -1074. -/
inductive Double where
  | nan
  | infinite (negative : Bool)
  | finite (negative : Bool) (mantissa : Nat) (exponent : Int)
deriving DecidableEq, Inhabited, Repr

/-- An integer power of a base. -/
def powerOf (base : Nat) (exponent : Int) : Rat :=
  if 0 ≤ exponent then (Nat.pow base exponent.toNat : Rat)
  else 1 / (Nat.pow base (-exponent).toNat : Rat)

/-- The nearest natural number to a rational one that is not negative; a half goes to the even
neighbour. -/
def roundHalfEven (number : Rat) : Nat :=
  let below := number.floor.toNat
  let rest := number - (below : Rat)
  if rest < 1 / 2 then below else if 1 / 2 < rest then below + 1 else below + below % 2

namespace Double

/-- The exponent of the highest power of two that does not exceed a positive number. -/
def binaryExponent (number : Rat) : Int :=
  let guess : Int := (Nat.log2 number.num.natAbs : Int) - (Nat.log2 number.den : Int)
  if powerOf 2 guess ≤ number then guess else guess - 1

/-- The double nearest to a number that is given by its sign and its magnitude. -/
def ofMagnitude (negative : Bool) (magnitude : Rat) : Double :=
  if magnitude ≤ 0 then finite negative 0 (-1074)
  else
    let leading := binaryExponent magnitude - 52
    let exponent := if leading < -1074 then -1074 else leading
    let mantissa := roundHalfEven (magnitude / powerOf 2 exponent)
    let carries := mantissa = Nat.pow 2 53
    let final := if carries then exponent + 1 else exponent
    if 971 < final then infinite negative
    else finite negative (if carries then Nat.pow 2 52 else mantissa) final

/-- The double nearest to a number that is given by its sign, its digits and a power of ten.
Numbers that are far beyond the largest or the least double are not computed. -/
def ofDecimal (negative : Bool) (digits : Nat) (exponent : Int) : Double :=
  let places := (Numeral.digits 10 digits).length + exponent
  if digits = 0 ∨ places < -330 then finite negative 0 (-1074)
  else if 310 < places then infinite negative
  else ofMagnitude negative ((digits : Rat) * powerOf 10 exponent)

/-- The magnitude of a finite double. -/
def magnitude (mantissa : Nat) (exponent : Int) : Rat := (mantissa : Rat) * powerOf 2 exponent

/-- Whether every underscore stands between two digits. -/
def underscoresFit (previous : Char) : List Char → Bool
  | [] => previous != '_'
  | character :: rest =>
      (if character == '_' then previous.isDigit else previous != '_' || character.isDigit) &&
        underscoresFit character rest

/-- The names of the values that are no numbers, and of the infinite ones, in lower case. -/
def special? (negative : Bool) (name : List Char) : Option Double :=
  let name := String.ofList (name.map Char.toLower)
  if name = "nan" then some nan
  else if name = "inf" ∨ name = "infinity" then some (infinite negative)
  else none

/-- The fraction part of a number and what follows it. -/
def takeFraction : List Char → List Char × List Char
  | '.' :: rest => rest.span Char.isDigit
  | characters => ([], characters)

/-- The exponent part that ends a number; zero when there is none. -/
def exponent? : List Char → Option Int
  | [] => some 0
  | mark :: rest =>
      if mark == 'e' || mark == 'E' then do
        let (negative, unsigned) := Numeric.takeSign rest
        if unsigned.isEmpty then none
        else
          let digits ← unsigned.mapM DecimalDigit.ascii?
          let magnitude : Int := DecimalDigit.combine digits
          some (if negative then -magnitude else magnitude)
      else none

/-- The double that an unsigned number in plain form spells. -/
def readUnsigned? (negative : Bool) (characters : List Char) : Option Double := do
  let (whole, afterWhole) := characters.span Char.isDigit
  let (fraction, afterFraction) := takeFraction afterWhole
  if whole.isEmpty && fraction.isEmpty then none
  else
    let exponent ← exponent? afterFraction
    let digits ← (whole ++ fraction).mapM DecimalDigit.ascii?
    some (ofDecimal negative (DecimalDigit.combine digits) (exponent - fraction.length))

/-- The double that a text spells: a sign or none, and a name or digits with an optional point and
an optional power of ten. -/
def read? (text : List Char) : Option Double :=
  let plain := Numeric.plain text
  if underscoresFit ' ' plain then
    let (negative, unsigned) := Numeric.takeSign (plain.filter (· != '_'))
    match special? negative unsigned with
    | some value => some value
    | none => readUnsigned? negative unsigned
  else none

end Double

end SolanaTransactions
