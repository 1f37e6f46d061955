/-! Binary64 numbers, held as their bits.  A number is compared by bits, so there is one NaN, and
zero and its negative differ.  A quotient of naturals is rounded to the nearest number. -/

namespace Promptline.Number

/-- `num / den` rounded to the nearest natural, a half to the even neighbour. -/
def roundHalfEven (num den : Nat) : Nat :=
  let q := num / den
  let r := num % den
  if 2 * r < den then q
  else if den < 2 * r then q + 1
  else if q % 2 = 0 then q else q + 1

/-- The number of decimal digits of `n`, one for zero. -/
def digitCount (n : Nat) : Nat := (Nat.toDigits 10 n).length

/-- The `k` with `10 ^ k ≤ num / den < 10 ^ (k + 1)`, for positive `num` and `den`. -/
def decimalExponent (num den : Nat) : Int :=
  if den ≤ num then (digitCount (num / den) : Int) - 1
  else -(digitCount ((den + num - 1) / num - 1) : Int)

/-- `num / den` in units of `10 ^ e`, rounded to the nearest natural. -/
def roundToUnit (num den : Nat) (e : Int) : Nat :=
  roundHalfEven (num * Nat.pow 10 (-e).toNat) (den * Nat.pow 10 e.toNat)

/-- A binary64 number.  Every NaN is the one of `nan`. -/
structure Binary64 where
  bits : UInt64
deriving DecidableEq, Repr

namespace Binary64

def zero : Binary64 := ⟨0⟩
def infinity : Binary64 := ⟨0x7FF0000000000000⟩
def nan : Binary64 := ⟨0x7FF8000000000000⟩

/-- The sign bit is set. -/
def signed (x : Binary64) : Bool := x.bits ≥ 0x8000000000000000

/-- The bits below the sign, which order the numbers by size. -/
def magnitude (x : Binary64) : Nat := (x.bits &&& 0x7FFFFFFFFFFFFFFF).toNat

def isNaN (x : Binary64) : Bool := infinity.magnitude < x.magnitude
def isInfinite (x : Binary64) : Bool := x.magnitude = infinity.magnitude
def isZero (x : Binary64) : Bool := x.magnitude = 0

/-- `x < 0`, which neither zero nor NaN satisfies. -/
def isNegative (x : Binary64) : Bool := x.signed && !x.isNaN && !x.isZero

/-- `0 < x`, which neither zero nor NaN satisfies. -/
def isPositive (x : Binary64) : Bool := !x.signed && !x.isNaN && !x.isZero

/-- A finite number without its sign is `significand * 2 ^ exponent`. -/
def exponent (x : Binary64) : Int := max (x.magnitude / Nat.pow 2 52 : Nat) 1 - 1075

/-- A finite number without its sign is `significand * 2 ^ exponent`. -/
def significand (x : Binary64) : Nat :=
  x.magnitude % Nat.pow 2 52 + if x.magnitude / Nat.pow 2 52 = 0 then 0 else Nat.pow 2 52

/-- The numerator of a finite number without its sign. -/
def numerator (x : Binary64) : Nat := x.significand * Nat.pow 2 x.exponent.toNat

/-- The denominator of a finite number without its sign. -/
def denominator (x : Binary64) : Nat := Nat.pow 2 (-x.exponent).toNat

def withSign (negative : Bool) (x : Binary64) : Binary64 :=
  if negative then ⟨x.bits ||| 0x8000000000000000⟩ else x

/-- The number nearest to `num / den`, of two the one with an even last bit; infinity beyond the
largest.  The significand is rounded in units of `2 ^ e`, where `e` is the least exponent that
leaves it below `2 ^ 53`; a carry runs over into the exponent bits. -/
def ofQuotient (num den : Nat) : Binary64 :=
  if num = 0 then zero
  else
    let rough : Int := (num.log2 : Int) - den.log2 - 52
    let fits (e : Int) : Bool :=
      num * Nat.pow 2 (-e).toNat < Nat.pow 2 53 * (den * Nat.pow 2 e.toNat)
    let e := max (if fits (rough - 1) then rough - 1 else rough) (-1074)
    let m := roundHalfEven (num * Nat.pow 2 (-e).toNat) (den * Nat.pow 2 e.toNat)
    let bits := (e + 1074).toNat * Nat.pow 2 52 + m
    if infinity.magnitude ≤ bits then infinity else ⟨bits.toUInt64⟩

/-- The number nearest to `digits * 10 ^ e`.  Far outside the range of exponents the answer is
known without the quotient. -/
def ofDecimal (digits : Nat) (e : Int) : Binary64 :=
  if digits = 0 then zero
  else if 400 < e then infinity
  else if e < -400 - digits.log2 then zero
  else ofQuotient (digits * Nat.pow 10 e.toNat) (Nat.pow 10 (-e).toNat)

/-- The number nearest to `n`. -/
def ofNat (n : Nat) : Binary64 := ofQuotient n 1

end Binary64

end Promptline.Number
