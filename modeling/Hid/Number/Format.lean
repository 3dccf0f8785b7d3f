import Hid.Number.Power

/-!
Binary interchange formats: a sign, a biased exponent and a fraction packed into
one word. The module decodes a word to the exact number it stands for and rounds
an exact ratio to the nearest word, a tie going to the even neighbour. Everything
is done in exact integer arithmetic, so the same two functions serve single and
double precision.
-/

namespace Hid.Number

/-- The widths of the fraction and of the exponent of a format. -/
structure Format where
  fractionBits : Nat
  exponentBits : Nat
  deriving DecidableEq, Repr

/-- What a word stands for. A finite datum is `significand * 2 ^ exponent` with
its sign kept apart, so that the two zeros differ. -/
inductive Datum where
  | nan
  | infinity (negative : Bool)
  | finite (negative : Bool) (significand : Nat) (exponent : Int)
  deriving DecidableEq, Repr

/-- Double precision. -/
def double : Format := ⟨52, 11⟩

/-- Single precision. -/
def single : Format := ⟨23, 8⟩

/-- `num / den` rounded to a natural number, a tie going to the even one. -/
def nearestEven (num den : Nat) : Nat :=
  let whole := num / den
  let rest := num % den
  if den < 2 * rest ∨ (2 * rest = den ∧ whole % 2 = 1) then whole + 1 else whole

/-- The exponent of the highest power of two that does not exceed `num / den`. -/
def ratioLog (num den : Nat) : Int :=
  let k : Int := (num.log2 : Int) - (den.log2 : Int)
  if den * twoTo k.toNat ≤ num * twoTo (-k).toNat then k else k - 1

namespace Format

/-- The exponent of the last place of the subnormal numbers. -/
def leastExponent (f : Format) : Int :=
  2 - (twoTo (f.exponentBits - 1) : Int) - f.fractionBits

/-- The exponent field of the infinities and of the NaNs. -/
def topField (f : Format) : Nat := twoTo f.exponentBits - 1

def infinityWord (f : Format) : Nat := f.topField * twoTo f.fractionBits

/-- The one NaN that is ever written: quiet, positive and without a payload. -/
def nanWord (f : Format) : Nat := f.infinityWord + twoTo (f.fractionBits - 1)

def signWord (f : Format) (negative : Bool) : Nat :=
  if negative then twoTo (f.fractionBits + f.exponentBits) else 0

def decode (f : Format) (word : Nat) : Datum :=
  let negative := word / twoTo (f.fractionBits + f.exponentBits) % 2 = 1
  let field := word / twoTo f.fractionBits % twoTo f.exponentBits
  let fraction := word % twoTo f.fractionBits
  if field = f.topField then
    if fraction = 0 then .infinity negative else .nan
  else if field = 0 then
    .finite negative fraction f.leastExponent
  else
    .finite negative (twoTo f.fractionBits + fraction) (f.leastExponent + field - 1)

/-- The exponent of the last place to which a positive `num / den` is rounded. -/
def placeOf (f : Format) (num den : Nat) : Int :=
  max (ratioLog num den - f.fractionBits) f.leastExponent

/-- The word without sign that is nearest to `num / den`. The significand is added
to the scaled exponent, so a significand that rounds up to the next power of two
carries into the exponent, and what exceeds the greatest number is infinite. -/
def roundMagnitude (f : Format) (num den : Nat) : Nat :=
  if num = 0 then 0
  else
    let place := f.placeOf num den
    let significand := nearestEven (num * twoTo (-place).toNat) (den * twoTo place.toNat)
    min ((place - f.leastExponent).toNat * twoTo f.fractionBits + significand) f.infinityWord

def round (f : Format) (negative : Bool) (num den : Nat) : Nat :=
  f.signWord negative + f.roundMagnitude num den

def encode (f : Format) : Datum → Nat
  | .nan => f.nanWord
  | .infinity negative => f.signWord negative + f.infinityWord
  | .finite negative significand exponent =>
      f.round negative (significand * twoTo exponent.toNat) (twoTo (-exponent).toNat)

end Format
end Hid.Number
