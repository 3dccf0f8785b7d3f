import Hid.Number.Format

/-!
Double-precision numbers, held by their words, and the single-precision words they
are read from and written to. Widening is exact, narrowing rounds to nearest with
ties to even, and every NaN is the canonical one.
-/

namespace Hid.Number

/-- A double-precision number by its 64-bit word. -/
structure Binary64 where
  word : BitVec 64
  deriving DecidableEq, Repr

namespace Binary64

def ofNat (word : Nat) : Binary64 := ⟨BitVec.ofNat 64 word⟩

def datum (x : Binary64) : Datum := double.decode x.word.toNat

/-- The double nearest to a datum. -/
def ofDatum (d : Datum) : Binary64 := ofNat (double.encode d)

def nan : Binary64 := ofDatum .nan

def infinity (negative : Bool) : Binary64 := ofDatum (.infinity negative)

/-- The zero below zero. -/
def negativeZero : Binary64 := ofDatum (.finite true 0 0)

/-- The double nearest to an integer. -/
def ofInt (n : Int) : Binary64 := ofDatum (.finite (n < 0) n.natAbs 0)

/-- The double nearest to `num / den`, with the given sign. -/
def ofRatio (negative : Bool) (num den : Nat) : Binary64 :=
  ofNat (double.round negative num den)

/-- The double nearest to `mantissa * 10 ^ exponent`. A magnitude of more than 310
or fewer than -330 decimal places is settled without computing the power: it is
beyond every double, or below half of the least one. -/
def ofDecimal (negative : Bool) (mantissa : Nat) (exponent : Int) : Binary64 :=
  let magnitude : Int := (Nat.toDigits 10 mantissa).length + exponent
  if mantissa = 0 ∨ magnitude < -330 then ofRatio negative 0 1
  else if 310 < magnitude then infinity negative
  else ofRatio negative (mantissa * tenTo exponent.toNat) (tenTo (-exponent).toNat)

def isFinite (x : Binary64) : Bool :=
  match x.datum with
  | .finite .. => true
  | _ => false

/-- Strictly greater than zero; no NaN is. -/
def isPositive (x : Binary64) : Bool :=
  match x.datum with
  | .nan => false
  | .infinity negative => !negative
  | .finite negative significand _ => !negative && significand != 0

/-- A finite double as an integer over a power of two. -/
def dyadic? (x : Binary64) : Option (Int × Nat) :=
  match x.datum with
  | .finite negative significand exponent =>
      let magnitude : Int := (significand * twoTo exponent.toNat : Nat)
      some (if negative then -magnitude else magnitude, (-exponent).toNat)
  | _ => none

/-- The double of the other sign. -/
def neg (x : Binary64) : Binary64 :=
  match x.datum with
  | .nan => nan
  | .infinity negative => infinity !negative
  | .finite negative significand exponent => ofDatum (.finite (!negative) significand exponent)

/-- A double without its fraction. An infinity or a NaN leaves nothing. -/
def truncate (x : Binary64) : Int :=
  match x.dyadic? with
  | some (n, k) => n.tdiv (twoTo k)
  | none => 0

/-- Whether a double stands for an integer. -/
def isIntegral (x : Binary64) : Bool :=
  match x.dyadic? with
  | some (n, k) => n % twoTo k == 0
  | none => false

/-- The integer a double stands for, if it stands for one. -/
def toInt? (x : Binary64) : Option Int := if x.isIntegral then some x.truncate else none

/-- The double that equals a single-precision word. -/
def widen (word : Nat) : Binary64 := ofDatum (single.decode word)

/-- The single-precision word nearest to a double. -/
def narrow (x : Binary64) : Nat := single.encode x.datum

end Binary64

/-- The nearest integer of at most 53 significant bits, a tie going to the even
one: what is left of a 64-bit word that is handed on as a number. -/
def nearestInteger (n : Int) : Int :=
  let scale := twoTo (n.natAbs.log2 + 1 - 53)
  n.sign * (nearestEven n.natAbs scale * scale : Nat)

end Hid.Number
