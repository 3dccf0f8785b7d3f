import Hid.Proofs.Number.Rounding

/-!
Integers that are handed on as doubles. An integer is *short* if all its bits fit into the
significand of a double. Rounding gives a short integer, and leaves no others but the short ones as
they are.

* `isShort_nearestInteger`: what an integer is rounded to is short.
* `nearestInteger_eq_iff`: the integers that are handed on without loss are the short ones.
-/

namespace Hid.Number

/-- The bits of the integer, up to its last place, fit into the significand of a double. -/
def IsShort (n : Int) : Prop :=
  ∃ significand place : Nat, significand < twoTo 53 ∧ n.natAbs = significand * twoTo place

/-- The last place of the double that is nearest to an integer. -/
def lastPlace (n : Nat) : Nat := n.log2 + 1 - 53

theorem lt_twoTo_lastPlace (n : Nat) : n < twoTo 53 * twoTo (lastPlace n) :=
  calc n < twoTo (n.log2 + 1) := Nat.lt_log2_self
    _ ≤ twoTo (53 + lastPlace n) :=
        Nat.pow_le_pow_right (by decide) (by rw [lastPlace]; omega)
    _ = twoTo 53 * twoTo (lastPlace n) := Nat.pow_add ..

theorem nearestEven_le_succ (num den : Nat) : nearestEven num den ≤ num / den + 1 := by
  rw [nearestEven]
  split <;> omega

/-- A multiple is rounded to itself. -/
theorem nearestEven_of_dvd {num den : Nat} (den_pos : 0 < den) (factor : den ∣ num) :
    nearestEven num den * den = num := by
  obtain ⟨n, rfl⟩ := factor
  rw [nearestEven_mul den_pos, Nat.mul_comm]

theorem nearestInteger_eq (n : Int) :
    nearestInteger n = n.sign *
      (nearestEven n.natAbs (twoTo (lastPlace n.natAbs)) * twoTo (lastPlace n.natAbs) : Nat) := rfl

/-- A magnitude is rounded to a short one. If its significand is rounded up to the next power of
two, one bit is left of it. -/
theorem isShort_rounded (n : Nat) :
    IsShort (nearestEven n (twoTo (lastPlace n)) * twoTo (lastPlace n) : Nat) := by
  have whole : n / twoTo (lastPlace n) < twoTo 53 :=
    Nat.div_lt_of_lt_mul (by rw [Nat.mul_comm]; exact lt_twoTo_lastPlace n)
  have rounded := nearestEven_le_succ n (twoTo (lastPlace n))
  by_cases full : nearestEven n (twoTo (lastPlace n)) = twoTo 53
  · refine ⟨1, 53 + lastPlace n, by decide, ?_⟩
    rw [Int.natAbs_natCast, full, Nat.one_mul]
    exact (Nat.pow_add ..).symm
  · exact ⟨_, lastPlace n, by omega, Int.natAbs_natCast _⟩

/-- The last place of a short magnitude is a factor of it. -/
theorem twoTo_lastPlace_dvd {n significand place : Nat} (bounded : significand < twoTo 53)
    (short : n = significand * twoTo place) : twoTo (lastPlace n) ∣ n := by
  rcases Nat.eq_zero_or_pos n with zero | positive
  · rw [zero]
    exact Nat.dvd_zero _
  have below : n < twoTo (53 + place) :=
    calc n = significand * twoTo place := short
      _ < twoTo 53 * twoTo place := Nat.mul_lt_mul_of_pos_right bounded (Nat.two_pow_pos place)
      _ = twoTo (53 + place) := (Nat.pow_add ..).symm
  have bits : n.log2 < 53 + place := (Nat.log2_lt positive.ne').mpr below
  have places : lastPlace n ≤ place := by rw [lastPlace]; omega
  exact short ▸ Nat.dvd_mul_left_of_dvd (Nat.pow_dvd_pow 2 places) significand

theorem isShort_nearestInteger (n : Int) : IsShort (nearestInteger n) := by
  rcases eq_or_ne n 0 with rfl | nonzero
  · exact ⟨0, 0, by decide, rfl⟩
  · obtain ⟨significand, place, bounded, rounded⟩ := isShort_rounded n.natAbs
    refine ⟨significand, place, bounded, ?_⟩
    rw [nearestInteger_eq, Int.natAbs_mul, Int.natAbs_sign_of_ne_zero nonzero, Nat.one_mul, rounded]

/-- An integer is the nearest double to itself if and only if it is short. -/
theorem nearestInteger_eq_iff (n : Int) : nearestInteger n = n ↔ IsShort n := by
  constructor
  · intro same
    rw [← same]
    exact isShort_nearestInteger n
  · rintro ⟨significand, place, bounded, short⟩
    have scale : 0 < twoTo (lastPlace n.natAbs) := Nat.two_pow_pos _
    rw [nearestInteger_eq, nearestEven_of_dvd scale (twoTo_lastPlace_dvd bounded short),
      Int.sign_mul_natAbs]

theorem nearestInteger_of_lt {n : Int} (small : n.natAbs < twoTo 53) : nearestInteger n = n :=
  (nearestInteger_eq_iff n).mpr ⟨n.natAbs, 0, small, (Nat.mul_one _).symm⟩

end Hid.Number
