import Promptline.Number.Binary64

/-! Binary64 numbers as text: rounded to six significant digits, or with the fewest digits that read
back.  Both write numbers of middling size positionally and the others with an exponent. -/

namespace Promptline.Number

/-- The decimal `digits * 10 ^ exponent`. -/
structure Decimal where
  digits : Nat
  exponent : Int
deriving DecidableEq, Repr

namespace Decimal

/-- The exponent of the leading digit. -/
def leading (d : Decimal) : Int := d.exponent + digitCount d.digits - 1

/-- The digits without the zeros at their end. -/
def significant (d : Decimal) : List Char :=
  ((Nat.toDigits 10 d.digits).reverse.dropWhile (· == '0')).reverse

/-- `n` with at least two digits. -/
def twoDigits (n : Nat) : List Char :=
  if n < 10 then '0' :: Nat.toDigits 10 n else Nat.toDigits 10 n

/-- Positional text of significant digits, the first of which stands for `10 ^ k`.  An integer ends
in `tail`. -/
def positional (digits : List Char) (k : Int) (tail : List Char) : List Char :=
  if k < 0 then '0' :: '.' :: List.replicate (-k - 1).toNat '0' ++ digits
  else
    let whole := digits.take (k.toNat + 1)
    let padding := List.replicate (k.toNat + 1 - digits.length) '0'
    let fraction := digits.drop (k.toNat + 1)
    whole ++ padding ++ if fraction.isEmpty then tail else '.' :: fraction

/-- Text with an exponent of two or more digits. -/
def scientific (digits : List Char) (k : Int) : List Char :=
  digits.take 1 ++ (if digits.length ≤ 1 then [] else '.' :: digits.drop 1) ++
    'e' :: (if k < 0 then '-' else '+') :: twoDigits k.natAbs

end Decimal

/-- Where a format turns from positional to scientific text, and how it ends an integer. -/
structure Layout where
  positionalBelow : Int
  integerTail : List Char

/-- `d` is written positionally from `0.0001` up to the limit of the layout. -/
def Layout.write (l : Layout) (d : Decimal) : List Char :=
  let k := d.leading
  if -4 ≤ k ∧ k < l.positionalBelow then Decimal.positional d.significant k l.integerTail
  else Decimal.scientific d.significant k

/-- `x` in layout `l`, where `select` gives the decimal for its size. -/
def Layout.render (l : Layout) (select : Binary64 → Decimal) (x : Binary64) : String :=
  if x.isNaN then "nan"
  else
    (if x.signed then "-" else "") ++
      if x.isInfinite then "inf"
      else if x.isZero then String.ofList ('0' :: l.integerTail)
      else String.ofList (l.write (select x))

namespace Binary64

/-- The nearest decimal to a positive finite number among those of `n` digits. -/
def nearest (n : Nat) (x : Binary64) : Decimal :=
  let e := decimalExponent x.numerator x.denominator - n + 1
  ⟨roundToUnit x.numerator x.denominator e, e⟩

/-- The other of the two decimals in the units of `d` between which `x` lies. -/
def acrossFrom (d : Decimal) (x : Binary64) : Decimal :=
  let floor := x.numerator * Nat.pow 10 (-d.exponent).toNat /
    (x.denominator * Nat.pow 10 d.exponent.toNat)
  if d.digits = floor then ⟨floor + 1, d.exponent⟩ else ⟨floor, d.exponent⟩

/-- `d` reads back as `x` without its sign. -/
def readsBack (x : Binary64) (d : Decimal) : Bool :=
  (ofDecimal d.digits d.exponent).magnitude = x.magnitude

/-- The decimal of the fewest digits that reads back as `x`, of two the nearer; seventeen digits
always do. -/
def fewestDigits (x : Binary64) : Decimal :=
  ((List.range 16).findSome? fun n =>
    let d := nearest (n + 1) x
    let d' := acrossFrom d x
    if x.readsBack d then some d else if x.readsBack d' then some d' else none).getD (nearest 17 x)

/-- `x` rounded to six significant digits, as `.prompt` shows a threshold. -/
def sixDigits (x : Binary64) : String := Layout.render ⟨6, []⟩ (nearest 6) x

/-- `x` with the fewest digits that read back, as the command line shows a number. -/
def shortest (x : Binary64) : String := Layout.render ⟨16, ['.', '0']⟩ fewestDigits x

end Binary64

end Promptline.Number
