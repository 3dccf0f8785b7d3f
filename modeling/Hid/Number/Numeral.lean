import Hid.Number.Binary64
import Hid.Text.Blank

/-!
Reading a numeral from text. A numeral is, between blanks, either an unsigned integer
after `0x`, `0o` or `0b`, or a decimal with an optional sign, point and exponent, or
`Infinity` with an optional sign. The nearest double is taken; any other text is not
a number.
-/

namespace Hid.Number.Numeral

/-- The value of a character as a digit, letters counting from ten. -/
def digitValue? (c : Char) : Option Nat :=
  let n := c.toNat
  if '0'.toNat ≤ n ∧ n ≤ '9'.toNat then some (n - '0'.toNat)
  else if 'a'.toNat ≤ n ∧ n ≤ 'f'.toNat then some (n - 'a'.toNat + 10)
  else if 'A'.toNat ≤ n ∧ n ≤ 'F'.toNat then some (n - 'A'.toNat + 10)
  else none

/-- The value of digits in a base, if each is a digit of that base. -/
def ofDigits? (base : Nat) (digits : List Char) : Option Nat :=
  digits.foldl (fun value? c => do
    let value ← value?
    let digit ← digitValue? c
    if digit < base then some (base * value + digit) else none) (some 0)

/-- An integer of at least one digit in a base. -/
def integer? (base : Nat) (digits : List Char) : Option Nat :=
  if digits.isEmpty then none else ofDigits? base digits

/-- An optional sign in front of the rest. -/
def splitSign : List Char → Bool × List Char
  | '-' :: rest => (true, rest)
  | '+' :: rest => (false, rest)
  | rest => (false, rest)

/-- The exponent part: nothing, or an `e` with a signed integer after it. -/
def exponent? : List Char → Option Int
  | [] => some 0
  | c :: rest =>
      if c = 'e' ∨ c = 'E' then
        let (negative, digits) := splitSign rest
        (integer? 10 digits).map fun n => if negative then -(n : Int) else n
      else none

/-- An unsigned decimal as a mantissa and a power of ten. -/
def decimal? (text : List Char) : Option (Nat × Int) :=
  let (whole, rest) := text.span Char.isDigit
  let (fraction, tail) := match rest with
    | '.' :: after => after.span Char.isDigit
    | _ => ([], rest)
  if whole.isEmpty && fraction.isEmpty then none
  else do
    let mantissa ← ofDigits? 10 (whole ++ fraction)
    let exponent ← exponent? tail
    some (mantissa, exponent - fraction.length)

def signed (text : List Char) : Binary64 :=
  let (negative, rest) := splitSign text
  if rest = "Infinity".toList then .ofDatum (.infinity negative)
  else match decimal? rest with
    | some (mantissa, exponent) => .ofDecimal negative mantissa exponent
    | none => .nan

def unsigned (base : Nat) (digits : List Char) : Binary64 :=
  match integer? base digits with
  | some n => .ofRatio false n 1
  | none => .nan

/-- The double that a text spells; an empty text spells zero. -/
def read (text : String) : Binary64 :=
  match Hid.Text.trim text.toList with
  | [] => .ofRatio false 0 1
  | '0' :: 'x' :: digits | '0' :: 'X' :: digits => unsigned 16 digits
  | '0' :: 'o' :: digits | '0' :: 'O' :: digits => unsigned 8 digits
  | '0' :: 'b' :: digits | '0' :: 'B' :: digits => unsigned 2 digits
  | trimmed => signed trimmed

end Hid.Number.Numeral
