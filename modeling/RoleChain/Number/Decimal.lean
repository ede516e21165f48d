import RoleChain.Number.Binary64

/-!
Decimal text of numbers. The shortest form of a binary value is the one with the fewest digits
that reads back as the same value, the nearest of those; it is positional from 10⁻⁴ up to 10¹⁶.
-/
namespace RoleChain

/-- Decimal digits with the power of ten of the last one: `digits · 10 ^ exponent`. -/
structure Decimal where
  digits : Nat
  exponent : Int
  deriving DecidableEq

namespace Decimal

def digitCount (n : Nat) : Nat := (Nat.toDigits 10 n).length

/-- The power of ten of the leading digit of a positive quotient. -/
def leadingPower (num den : Nat) : Int :=
  if den ≤ num then (digitCount (num / den) : Int) - 1
  else
    let lift := digitCount (den / num)
    if den ≤ num * Nat.pow 10 (lift - 1) then -((lift : Int) - 1) else -(lift : Int)

def powerOfTen (exponent : Int) : Nat × Nat :=
  (Nat.pow 10 exponent.toNat, Nat.pow 10 (-exponent).toNat)

/-- The closed or open interval of numbers that round to a finite value other than zero, over a
common denominator, with the value itself. -/
structure Rounding where
  lower : Nat
  value : Nat
  upper : Nat
  den : Nat
  closed : Bool

/-- The numbers that round to `mantissa · 2 ^ exponent`: up to half a step on either side, and
down to a quarter below a power of two. -/
def Rounding.of (mantissa : Nat) (exponent : Int) : Rounding :=
  let (up, down) := Binary64.powerOfTwo exponent
  let below := if mantissa = Nat.pow 2 52 ∧ exponent > -1074 then 1 else 2
  { lower := (4 * mantissa - below) * up
    value := 4 * mantissa * up
    upper := (4 * mantissa + 2) * up
    den := 4 * down
    closed := mantissa % 2 == 0 }

def Rounding.holds (r : Rounding) (digits : Nat) (exponent : Int) : Bool :=
  let (up, down) := powerOfTen exponent
  let point := digits * up * r.den
  let lower := r.lower * down
  let upper := r.upper * down
  if r.closed then decide (lower ≤ point ∧ point ≤ upper)
  else decide (lower < point ∧ point < upper)

/-- The point of the grid of step `10 ^ exponent` that rounds to the value, the nearer of two and
of two equally near ones the even, if there is one. -/
def Rounding.onGrid? (r : Rounding) (exponent : Int) : Option Nat :=
  let (up, down) := powerOfTen exponent
  let num := r.value * down
  let den := r.den * up
  let low := num / den
  let fits := fun digits => r.holds digits exponent
  match fits low, fits (low + 1) with
  | true, true => some (Binary64.roundHalfEven num den)
  | true, false => some low
  | false, true => some (low + 1)
  | false, false => none

/-- Tries the grids of `count` digits and more; seventeen always suffice. -/
def Rounding.shortestFrom (r : Rounding) (lead : Int) : Nat → Nat → Decimal
  | 0, count =>
    let exponent := lead + 1 - count
    let (up, down) := powerOfTen exponent
    ⟨Binary64.roundHalfEven (r.value * down) (r.den * up), exponent⟩
  | fuel + 1, count =>
    let exponent := lead + 1 - count
    match r.onGrid? exponent with
    | some digits => ⟨digits, exponent⟩
    | none => r.shortestFrom lead fuel (count + 1)

/-- The decimal without zeros at its end. -/
def strip : Nat → Decimal → Decimal
  | 0, d => d
  | fuel + 1, d =>
    if d.digits ≠ 0 ∧ d.digits % 10 = 0 then strip fuel ⟨d.digits / 10, d.exponent + 1⟩ else d

/-- The shortest decimal that reads back as `mantissa · 2 ^ exponent`. -/
def shortest (mantissa : Nat) (exponent : Int) : Decimal :=
  if mantissa = 0 then ⟨0, 0⟩
  else
    let r := Rounding.of mantissa exponent
    let d := r.shortestFrom (leadingPower r.value r.den) 16 1
    strip (digitCount d.digits) d

def digitText (n : Nat) : String := String.ofList (Nat.toDigits 10 n)

def zeros (n : Nat) : String := String.ofList (List.replicate n '0')

/-- The integer in decimal, with a sign if it is negative. -/
def intText (n : Int) : String :=
  if n < 0 then "-" ++ digitText n.natAbs else digitText n.natAbs

/-- The number with at least `width` digits, filled with zeros on the left. -/
def padded (width n : Nat) : String :=
  zeros (width - digitCount n) ++ digitText n

/-- The digits with a point after the first `whole` of them. -/
def pointAfter (whole : Nat) (digits : String) : String :=
  String.ofList (digits.toList.take whole) ++ "." ++ String.ofList (digits.toList.drop whole)

/-- The exponent after its letter: a sign and at least two digits. -/
def exponentText (exponent : Int) : String :=
  (if exponent < 0 then "-" else "+") ++ padded 2 exponent.natAbs

def positional (d : Decimal) : String :=
  let text := digitText d.digits
  let point : Int := text.length + d.exponent
  if d.exponent ≥ 0 then text ++ zeros d.exponent.toNat ++ ".0"
  else if point > 0 then pointAfter point.toNat text
  else "0." ++ zeros (-point).toNat ++ text

/-- The digits in scientific notation, with a point only between digits. -/
def scientific (d : Decimal) : String :=
  let text := digitText d.digits
  let head := if text.length ≤ 1 then text else pointAfter 1 text
  head ++ "e" ++ exponentText (text.length + d.exponent - 1)

end Decimal

namespace Binary64

/-- The shortest text that reads back as the value. -/
def text : Binary64 → String
  | .infinite negative => if negative then "-inf" else "inf"
  | .finite negative mantissa exponent =>
    let d := Decimal.shortest mantissa exponent
    let lead : Int := Decimal.digitCount d.digits + d.exponent - 1
    (if negative then "-" else "") ++
      (if d.digits = 0 then "0.0"
       else if -4 ≤ lead ∧ lead < 16 then d.positional else d.scientific)

end Binary64

end RoleChain
