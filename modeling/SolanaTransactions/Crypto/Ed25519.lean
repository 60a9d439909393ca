/-
Module: SolanaTransactions.Crypto.Ed25519
Purpose: The Ed25519 signature scheme with strict verification.
Main exports: Ed25519.scheme, Ed25519.isPoint, Ed25519.Point
-/
import SolanaTransactions.Crypto.Sha2
import SolanaTransactions.SignatureScheme

namespace SolanaTransactions.Ed25519

/-!
The curve is `-x² + y² = 1 + d x² y²` over the field of `2^255 - 19` elements.
Points are kept in extended projective coordinates, for which one addition
formula serves all pairs of points.  A point is written as its `y` with the
parity of `x` in the highest bit.
-/

/-- The number of elements of the field. -/
def fieldSize : Nat := Nat.pow 2 255 - 19

/-- The order of the base point. -/
def groupOrder : Nat := Nat.pow 2 252 + 27742317777372353535851937790883648493

/-- The product of two field elements. -/
def mul (left right : Nat) : Nat := left * right % fieldSize

/-- The sum of two field elements. -/
def add (left right : Nat) : Nat := (left + right) % fieldSize

/-- The difference of two field elements. -/
def sub (left right : Nat) : Nat := (left + (fieldSize - right % fieldSize)) % fieldSize

/-- A power of a field element. -/
def power (base exponent : Nat) : Nat :=
  if exponent = 0 then 1
  else
    let squared := power (mul base base) (exponent / 2)
    if exponent % 2 = 1 then mul base squared else squared
termination_by exponent
decreasing_by omega

/-- The inverse of a field element; zero for zero. -/
def inverse (element : Nat) : Nat := power element (fieldSize - 2)

/-- The constant of the curve equation. -/
def curveConstant : Nat := mul (sub 0 121665) (inverse 121666)

/-- A square root of minus one. -/
def imaginary : Nat := power 2 ((fieldSize - 1) / 4)

/-- The even square root of a quotient, when the quotient is a square. -/
def squareRootOfQuotient? (numerator denominator : Nat) : Option Nat :=
  let cube := mul denominator (mul denominator denominator)
  let seventh := mul cube (mul cube denominator)
  let candidate :=
    mul (mul numerator cube) (power (mul numerator seventh) ((fieldSize - 5) / 8))
  let check := mul denominator (mul candidate candidate)
  let even (element : Nat) : Nat := if element % 2 = 0 then element else sub 0 element
  if check = numerator then some (even candidate)
  else if check = sub 0 numerator then some (even (mul candidate imaginary))
  else none

/-- A point in extended coordinates: `x = X / Z`, `y = Y / Z` and `T = X Y / Z`. -/
structure Point where
  X : Nat
  Y : Nat
  Z : Nat
  T : Nat
deriving DecidableEq, Inhabited, Repr

namespace Point

/-- The neutral element. -/
def neutral : Point := ⟨0, 1, 1, 0⟩

/-- The point with given affine coordinates. -/
def ofAffine (x y : Nat) : Point := ⟨x, y, 1, mul x y⟩

/-- The sum of two points. -/
def plus (left right : Point) : Point :=
  let a := mul (sub left.Y left.X) (sub right.Y right.X)
  let b := mul (add left.Y left.X) (add right.Y right.X)
  let c := mul (mul (add left.T left.T) curveConstant) right.T
  let d := mul (add left.Z left.Z) right.Z
  let e := sub b a
  let f := sub d c
  let g := add d c
  let h := add b a
  ⟨mul e f, mul g h, mul f g, mul e h⟩

/-- A multiple of a point. -/
def times (factor : Nat) (point : Point) : Point :=
  if factor = 0 then neutral
  else
    let doubled := times (factor / 2) (point.plus point)
    if factor % 2 = 1 then point.plus doubled else doubled
termination_by factor
decreasing_by omega

/-- Whether two points are the same. -/
def same (left right : Point) : Bool :=
  mul left.X right.Z == mul right.X left.Z && mul left.Y right.Z == mul right.Y left.Z

/-- Whether a point lies in the subgroup of order eight. -/
def isSmallOrder (point : Point) : Bool := (point.times 8).same neutral

/-- The 32 bytes of a point. -/
def toBytes (point : Point) : Bytes :=
  let scale := inverse point.Z
  let x := mul point.X scale
  let y := mul point.Y scale
  Bytes.littleEndian 32 (y + Nat.pow 2 255 * (x % 2))

/-- The point that 32 bytes stand for, when there is one. -/
def ofBytes? (bytes : Bytes) : Option Point :=
  let number := Bytes.ofLittleEndian bytes
  let y := number % Nat.pow 2 255 % fieldSize
  let squared := mul y y
  (squareRootOfQuotient? (sub squared 1) (add (mul curveConstant squared) 1)).map fun x =>
    ofAffine (if number / Nat.pow 2 255 % 2 = 1 then sub 0 x else x) y

end Point

/-- The base point: its `y` is four fifths and its `x` is even. -/
def basePoint : Point :=
  (Point.ofBytes? (Bytes.littleEndian 32 (mul 4 (inverse 5)))).getD Point.neutral

/-- Whether 32 bytes stand for a point of the curve. -/
def isPoint (bytes : Bytes) : Bool := (Point.ofBytes? bytes).isSome

/-- The secret factor of a seed: half of its hash, with five bits fixed. -/
def secretFactor (hash : Bytes) : Nat :=
  let number := Bytes.ofLittleEndian (hash.take 32)
  number % Nat.pow 2 254 / 8 * 8 + Nat.pow 2 254

/-- The hash of some bytes as a factor. -/
def hashFactor (bytes : Bytes) : Nat := Bytes.ofLittleEndian (Sha2.sha512 bytes) % groupOrder

/-- The bytes of the public key of a seed. -/
def publicBytes (seed : Seed) : Bytes :=
  (basePoint.times (secretFactor (Sha2.sha512 seed.toBytes))).toBytes

/-- The signature of a seed over a message. -/
def sign (seed : Seed) (message : Bytes) : Signature :=
  let hash := Sha2.sha512 seed.toBytes
  let secret := secretFactor hash
  let nonce := hashFactor (hash.drop 32 ++ message)
  let commitment := (basePoint.times nonce).toBytes
  let challenge := hashFactor (commitment ++ publicBytes seed ++ message)
  Signature.ofBytes
    (commitment ++ Bytes.littleEndian 32 ((nonce + challenge * secret) % groupOrder))

/-- Whether a signature over a message verifies under a key.  The second half has to be below the
group order, and neither the key nor the first half may have small order. -/
def verifies (key : Key) (message : Bytes) (signature : Signature) : Bool :=
  let bytes := signature.toBytes
  let response := Bytes.ofLittleEndian (bytes.drop 32)
  match Point.ofBytes? key.toBytes, Point.ofBytes? (bytes.take 32) with
  | some holder, some commitment =>
      let challenge := hashFactor (bytes.take 32 ++ key.toBytes ++ message)
      response < groupOrder && !holder.isSmallOrder && !commitment.isSmallOrder &&
        (basePoint.times response).same (commitment.plus (holder.times challenge))
  | _, _ => false

/-- Ed25519 as a signature scheme. -/
def scheme : SignatureScheme :=
  ⟨fun seed => Key.ofBytes (publicBytes seed), sign, verifies⟩

end SolanaTransactions.Ed25519
