import Hid.Number.Binary64

/-!
The decimal text of a double: the fewest significant digits that read back to the
same double and, among those, the digits nearest to it. Selection of the digits and
their layout are separate. The layout is positional from 10^-7 up to below 10^21 and
scientific elsewhere.
-/

namespace Hid.Number

/-- The digits of a natural number, most significant first. -/
def digitsOf (n : Nat) : List Char := Nat.toDigits 10 n

/-- The number of places before the point of a positive `num / den`: the `p` with
`10 ^ (p - 1) ≤ num / den < 10 ^ p`. -/
def decimalPoint (num den : Nat) : Int :=
  if den ≤ num then (digitsOf (num / den)).length
  else 1 - ((digitsOf ((den - 1) / num)).length : Int)

/-- A magnitude `coefficient * 10 ^ exponent`. -/
structure Decimal where
  coefficient : Nat
  exponent : Int
  deriving DecidableEq, Repr

namespace Decimal

/-- Whether the magnitude rounds to the given word. -/
def readsBack (d : Decimal) (word : Nat) : Bool :=
  double.roundMagnitude (d.coefficient * tenTo d.exponent.toNat) (tenTo (-d.exponent).toNat) == word

/-- The magnitude of `count` digits nearest to `num / den` among its two neighbours
on that decimal grid which read back to `word`. -/
def withDigits? (count : Nat) (num den word : Nat) : Option Decimal :=
  let exponent : Int := decimalPoint num den - count
  let top := num * tenTo (-exponent).toNat
  let bottom := den * tenTo exponent.toNat
  let below : Decimal := ⟨top / bottom, exponent⟩
  let above : Decimal := ⟨top / bottom + 1, exponent⟩
  match below.readsBack word, above.readsBack word with
  | true, true => some ⟨nearestEven top bottom, exponent⟩
  | true, false => some below
  | false, true => some above
  | false, false => none

/-- Seventeen digits always suffice for a double, so the last case is not reached. -/
def shortest (num den word : Nat) : Decimal :=
  ((List.range 17).findSome? fun k => withDigits? (k + 1) num den word).getD ⟨num / den, 0⟩

end Decimal

/-- The digits of a coefficient without the zeros at its end. -/
def significantDigits (coefficient : Nat) : List Char :=
  ((digitsOf coefficient).reverse.dropWhile (· = '0')).reverse

/-- The layout of significant digits with `point` places before the decimal point. -/
def layoutDigits (digits : List Char) (point : Int) : List Char :=
  let count : Int := digits.length
  if count ≤ point ∧ point ≤ 21 then
    digits ++ List.replicate (point - count).toNat '0'
  else if 0 < point ∧ point ≤ 21 then
    digits.take point.toNat ++ '.' :: digits.drop point.toNat
  else if -6 < point ∧ point ≤ 0 then
    '0' :: '.' :: (List.replicate (-point).toNat '0' ++ digits)
  else
    let exponent := point - 1
    let sign := if exponent < 0 then '-' else '+'
    let mantissa := match digits with
      | [] => []
      | [d] => [d]
      | d :: rest => d :: '.' :: rest
    mantissa ++ 'e' :: sign :: digitsOf exponent.natAbs

namespace Binary64

/-- The text of a double. Both zeros are written `0`. -/
def text (x : Binary64) : String :=
  match x.datum with
  | .nan => "NaN"
  | .infinity negative => if negative then "-Infinity" else "Infinity"
  | .finite negative significand exponent =>
      if significand = 0 then "0"
      else
        let num := significand * twoTo exponent.toNat
        let den := twoTo (-exponent).toNat
        let word := x.word.toNat % twoTo 63
        let d := Decimal.shortest num den word
        let point := d.exponent + (digitsOf d.coefficient).length
        let body := layoutDigits (significantDigits d.coefficient) point
        String.ofList (if negative then '-' :: body else body)

end Binary64
end Hid.Number
