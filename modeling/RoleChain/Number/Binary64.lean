/-!
Binary floating-point values of 64 bits, as exact numbers: a sign, a mantissa and a power of two.
Arithmetic is exact arithmetic followed by rounding to the nearest such value, and of two nearest
ones to that with the even mantissa.
-/
namespace RoleChain

/-- A value of 64 bits. A finite one is `mantissa · 2 ^ exponent` with its sign; the rounding
functions keep the mantissa below 2 ^ 53 and the exponent at least -1074. -/
inductive Binary64 where
  | finite (negative : Bool) (mantissa : Nat) (exponent : Int)
  | infinite (negative : Bool)
  deriving DecidableEq

namespace Binary64

/-- The integer nearest to a quotient; a half goes to the even neighbour. -/
def roundHalfEven (num den : Nat) : Nat :=
  let q := num / den
  let r := num % den
  if 2 * r < den then q
  else if den < 2 * r then q + 1
  else if q % 2 = 0 then q else q + 1

def powerOfTwo (exponent : Int) : Nat × Nat :=
  (Nat.pow 2 exponent.toNat, Nat.pow 2 (-exponent).toNat)

/-- The value nearest to a quotient of naturals. -/
def ofRatio (negative : Bool) (num den : Nat) : Binary64 :=
  if num = 0 then .finite negative 0 (-1074)
  else
    let guess : Int := (num.log2 : Int) - den.log2 - 52
    let tooLow := num * (powerOfTwo (-guess)).1 < den * (powerOfTwo (-guess)).2 * Nat.pow 2 52
    let exponent : Int := max (if tooLow then guess - 1 else guess) (-1074)
    let (up, down) := powerOfTwo (-exponent)
    let mantissa := roundHalfEven (num * up) (den * down)
    let (mantissa, exponent) :=
      if mantissa = Nat.pow 2 53 then (Nat.pow 2 52, exponent + 1) else (mantissa, exponent)
    if exponent > 971 then .infinite negative else .finite negative mantissa exponent

/-- The value nearest to `digits · 10 ^ exponent`, where the digits number `count` at most. Powers
of ten that put it beyond every finite value, or nearer to zero than to any other, are not
formed. -/
def ofDecimal (negative : Bool) (digits count : Nat) (exponent : Int) : Binary64 :=
  if digits = 0 ∨ exponent + count < -400 then .finite negative 0 (-1074)
  else if 400 < exponent then .infinite negative
  else ofRatio negative (digits * Nat.pow 10 exponent.toNat) (Nat.pow 10 (-exponent).toNat)

def ofInt (n : Int) : Binary64 := ofRatio (decide (n < 0)) n.natAbs 1

def ratio (mantissa : Nat) (exponent : Int) : Nat × Nat :=
  let (up, down) := powerOfTwo exponent
  (mantissa * up, down)

/-- The value nearest to the product with a natural number. -/
def scale (x : Binary64) (factor : Nat) : Binary64 :=
  match x with
  | .infinite negative => .infinite negative
  | .finite negative mantissa exponent =>
    let (num, den) := ratio mantissa exponent
    ofRatio negative (num * factor) den

def add (x y : Binary64) : Binary64 :=
  match x, y with
  | .infinite negative, _ => .infinite negative
  | _, .infinite negative => .infinite negative
  | .finite negX mX eX, .finite negY mY eY =>
    let (numX, denX) := ratio mX eX
    let (numY, denY) := ratio mY eY
    let signed (negative : Bool) (n : Nat) : Int := if negative then -(n : Int) else n
    let sum := signed negX (numX * denY) + signed negY (numY * denX)
    ofRatio (decide (sum < 0) || (sum == 0 && negX && negY)) sum.natAbs (denX * denY)

def neg : Binary64 → Binary64
  | .finite negative mantissa exponent => .finite (!negative) mantissa exponent
  | .infinite negative => .infinite (!negative)

def isFinite : Binary64 → Bool
  | .finite .. => true
  | .infinite _ => false

/-- The integer part, toward zero; an infinity has none. -/
def truncate? : Binary64 → Option Int
  | .infinite _ => none
  | .finite negative mantissa exponent =>
    let (num, den) := ratio mantissa exponent
    let whole : Int := (num / den : Nat)
    some (if negative then -whole else whole)

/-- The greatest integer that is not above the value; an infinity has none. -/
def floor? : Binary64 → Option Int
  | .infinite _ => none
  | .finite negative mantissa exponent =>
    let (num, den) := ratio mantissa exponent
    some ((if negative then -(num : Int) else num).fdiv den)

/-- Whether the magnitude is above a natural number. -/
def magnitudeAbove (x : Binary64) (bound : Nat) : Bool :=
  match x with
  | .infinite _ => true
  | .finite _ mantissa exponent =>
    let (num, den) := ratio mantissa exponent
    decide (bound * den < num)

/-- The magnitude rounded to an integer, a half away from zero. -/
def roundedMagnitude : Binary64 → Nat
  | .infinite _ => 0
  | .finite _ mantissa exponent =>
    let (num, den) := ratio mantissa exponent
    (2 * num + den) / (2 * den)

end Binary64

end RoleChain
