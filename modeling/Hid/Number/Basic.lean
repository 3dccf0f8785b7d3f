import Hid.Number.Shortest

/-!
Numbers as they are handed in from outside: lengths, ids, codes, indices, capacities and
the two quantities of a violation. An integer is held as an integer; only what is no
integer (a fraction, an infinity, a NaN), and the zero with a sign, stays a double.
Integers are added and compared exactly, and so are doubles, except that their sums are
rounded to the nearest double.
-/

namespace Hid

open Number (Binary64 twoTo)

/-- A number from outside. -/
inductive Quantity where
  | int (value : Int)
  | other (value : Binary64)
  deriving DecidableEq, Repr

namespace Quantity

instance (n : Nat) : OfNat Quantity n := ⟨.int n⟩
instance : Coe Int Quantity := ⟨.int⟩
instance : Coe Nat Quantity := ⟨fun n => .int n⟩

def ofDouble (x : Binary64) : Quantity :=
  match x.toInt? with
  | some n => if x = .negativeZero then .other x else .int n
  | none => .other x

/-- A number without the sign of a zero. -/
def plain (q : Quantity) : Quantity := if q = .other .negativeZero then 0 else q

/-- The text of a number. Integers of up to 53 bits are written in full, larger
ones with the fewest digits that read back. -/
def text : Quantity → String
  | .int n => if n.natAbs ≤ twoTo 53 then toString n else (Binary64.ofInt n).text
  | .other x => x.text

/-- The natural number that a size must be. -/
def toNat? : Quantity → Option Nat
  | .int n => if 0 ≤ n then some n.toNat else none
  | .other _ => none

/-- The integer that a number is, if it is one. -/
def toInt? : Quantity → Option Int
  | .int n => some n
  | .other x => x.toInt?

/-- A number without its fraction. -/
def truncate : Quantity → Int
  | .int n => n
  | .other x => x.truncate

/-- The offset that a number stands for: what is left of it without its fraction, unless that
is below zero or without end. What is no number stands for the first offset. -/
def offset? : Quantity → Option Nat
  | .int n => (int n).toNat?
  | .other x =>
      match x.datum with
      | .nan => some 0
      | .infinity _ => none
      | .finite .. => (int x.truncate).toNat?

/-- The double nearest to a number; integers of up to 53 bits are doubles. -/
def rounded : Quantity → Quantity
  | .int n => if n.natAbs ≤ twoTo 53 then .int n else .ofDouble (.ofInt n)
  | .other x => .other x

/-! ### Sums and order -/

/-- A finite number as an integer over a power of two. -/
def dyadic? : Quantity → Option (Int × Nat)
  | .int n => some (n, 0)
  | .other x => x.dyadic?

/-- The sum of two numbers. That of opposite infinities is no number. -/
def add : Quantity → Quantity → Quantity
  | .int a, .int b => .int (a + b)
  | a, b => match a.dyadic?, b.dyadic? with
    | some (m, k), some (n, l) =>
        let sum := m * twoTo l + n * twoTo k
        .ofDouble (.ofRatio (sum < 0) sum.natAbs (twoTo (k + l)))
    | some _, none => b
    | none, some _ => a
    | none, none => if a = b then a else .other .nan

def neg : Quantity → Quantity
  | .int n => .int (-n)
  | .other x => .ofDouble x.neg

instance : Add Quantity := ⟨add⟩
instance : Sub Quantity := ⟨fun a b => a.add b.neg⟩

/-- Whether one number is less than another. A NaN is neither less nor greater. -/
def isLess : Quantity → Quantity → Bool
  | .int a, .int b => a < b
  | a, b => match a.dyadic?, b.dyadic? with
    | some (m, k), some (n, l) => m * twoTo l < n * twoTo k
    | some _, none => b = .other (.infinity false)
    | none, some _ => a = .other (.infinity true)
    | none, none => a = .other (.infinity true) && b = .other (.infinity false)

instance : LT Quantity := ⟨fun a b => a.isLess b⟩
instance : LE Quantity := ⟨fun a b => a.isLess b ∨ a = b⟩

instance (a b : Quantity) : Decidable (a < b) := inferInstanceAs (Decidable (a.isLess b = true))
instance (a b : Quantity) : Decidable (a ≤ b) :=
  inferInstanceAs (Decidable (a.isLess b = true ∨ a = b))

def isNaN : Quantity → Bool
  | .int _ => false
  | .other x => x.datum = .nan

/-- Whether two numbers are equal. A NaN equals no number, and the sign of a zero does
not count. -/
def same (a b : Quantity) : Bool :=
  match a.dyadic?, b.dyadic? with
  | some (m, k), some (n, l) => m * twoTo l = n * twoTo k
  | none, none => a = b && !a.isNaN
  | _, _ => false

@[simp] theorem plain_int (n : Int) : (int n).plain = int n := if_neg nofun

@[simp] theorem plain_ofNat (n : Nat) :
    (no_index (OfNat.ofNat n) : Quantity).plain = OfNat.ofNat n := plain_int n

@[simp] theorem plain_plain (q : Quantity) : q.plain.plain = q.plain := by
  by_cases signed : q = .other .negativeZero
  · rw [signed]
    exact plain_int 0
  · simp only [plain, if_neg signed]

/-- Only a zero is another number without its sign. -/
theorem eq_of_plain {q : Quantity} {n : Int} (same : q.plain = n) (nonzero : n ≠ 0) : q = n := by
  by_cases signed : q = .other .negativeZero
  · rw [signed] at same
    exact absurd (int.inj same).symm nonzero
  · rwa [plain, if_neg signed] at same

@[simp] theorem int_add_int (a b : Int) : int a + int b = int (a + b) := rfl

@[simp] theorem int_sub_int (a b : Int) : int a - int b = int (a - b) :=
  congrArg int Int.sub_eq_add_neg.symm

@[simp] theorem int_lt_int (a b : Int) : int a < int b ↔ a < b := decide_eq_true_iff

@[simp] theorem int_le_int (a b : Int) : int a ≤ int b ↔ a ≤ b := by
  change decide (a < b) = true ∨ int a = int b ↔ a ≤ b
  simp only [decide_eq_true_iff, int.injEq]
  omega

@[simp] theorem int_same_int (a b : Int) : (int a).same (int b) = decide (a = b) := by
  simp [same, dyadic?]

theorem same_comm (a b : Quantity) : a.same b = b.same a := by
  unfold same
  cases a.dyadic? <;> cases b.dyadic? <;> simp only [eq_comm]
  by_cases equal : a = b
  · simp [equal]
  · simp [equal]

end Quantity
end Hid
