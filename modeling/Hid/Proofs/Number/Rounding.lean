import Hid.Number.Binary64
import Mathlib.Algebra.Order.Field.Power
import Mathlib.Data.Int.Log
import Mathlib.Data.Rat.Floor
import Mathlib.Tactic.FieldSimp
import Mathlib.Tactic.Ring

/-!
Numbers that a format holds exactly. A significand and the exponent of its last place are
*canonical* for a format if a word holds them as they are; `packed` is that word without its
sign.

* `encode_of_value`: rounding a number that has a canonical form gives the word of that
  form, however the number is written.
* `decode_packed` and `canonical_of_decode`: a word decodes to the canonical form that it
  packs.
* `narrow_widen`: a single-precision word that is read as a double and written again is the
  word it was, except that every NaN becomes the one that is ever written.
-/

namespace Hid.Number

/-! ### Ratios -/

/-- A significand is scaled up by a power of two on one side of a ratio or on the other. -/
theorem ratio_scaled (significand : Nat) (exponent : Int) :
    ((significand * twoTo exponent.toNat : Nat) : ℚ) / (twoTo (-exponent).toNat : Nat) =
      significand * 2 ^ exponent := by
  rcases le_total 0 exponent with positive | negative
  · obtain ⟨n, rfl⟩ := Int.eq_ofNat_of_zero_le positive
    simp
  · obtain ⟨n, negated⟩ := Int.eq_ofNat_of_zero_le (Int.neg_nonneg_of_nonpos negative)
    have whole : exponent = -(n : Int) := by omega
    subst whole
    simp [div_eq_mul_inv]

/-- The exponent that is found from the bit lengths is the binary logarithm. -/
theorem ratioLog_eq_log {num den : Nat} (num_pos : 0 < num) (den_pos : 0 < den) :
    ratioLog num den = Int.log 2 ((num : ℚ) / den) := by
  have ratio : (0 : ℚ) < (num : ℚ) / den := by positivity
  have reaches (k : Int) : k ≤ Int.log 2 ((num : ℚ) / den) ↔
      den * twoTo k.toNat ≤ num * twoTo (-k).toNat := by
    have scale : (0 : ℚ) < (twoTo (-k).toNat : Nat) := by exact_mod_cast Nat.two_pow_pos _
    rw [← Int.zpow_le_iff_le_log (by decide) ratio, le_div_iff₀ (by exact_mod_cast den_pos),
      mul_comm, Nat.cast_ofNat, ← ratio_scaled den k, div_le_iff₀ scale]
    exact_mod_cast Iff.rfl
  have num_low : (2 : ℚ) ^ (num.log2 : Int) ≤ num := by
    exact_mod_cast Nat.log2_self_le num_pos.ne'
  have num_high : (num : ℚ) < 2 ^ ((num.log2 : Int) + 1) := by
    exact_mod_cast Nat.lt_log2_self (n := num)
  have den_low : (2 : ℚ) ^ (den.log2 : Int) ≤ den := by
    exact_mod_cast Nat.log2_self_le den_pos.ne'
  have den_high : (den : ℚ) < 2 ^ ((den.log2 : Int) + 1) := by
    exact_mod_cast Nat.lt_log2_self (n := den)
  -- the logarithm is the difference of the bit lengths or one less
  have low : (num.log2 : Int) - den.log2 - 1 ≤ Int.log 2 ((num : ℚ) / den) := by
    rw [← Int.zpow_le_iff_le_log (by decide) ratio, le_div_iff₀ (by exact_mod_cast den_pos)]
    calc (2 : ℚ) ^ ((num.log2 : Int) - den.log2 - 1) * den
        ≤ 2 ^ ((num.log2 : Int) - den.log2 - 1) * 2 ^ ((den.log2 : Int) + 1) := by gcongr
      _ = 2 ^ (num.log2 : Int) := by
          rw [← zpow_add₀ (by norm_num)]
          congr 1
          omega
      _ ≤ num := num_low
  have high : Int.log 2 ((num : ℚ) / den) < (num.log2 : Int) - den.log2 + 1 := by
    rw [← Int.lt_zpow_iff_log_lt (by decide) ratio, div_lt_iff₀ (by exact_mod_cast den_pos)]
    calc (num : ℚ) < 2 ^ ((num.log2 : Int) + 1) := num_high
      _ = 2 ^ ((num.log2 : Int) - den.log2 + 1) * 2 ^ (den.log2 : Int) := by
          rw [← zpow_add₀ (by norm_num)]
          congr 1
          omega
      _ ≤ 2 ^ ((num.log2 : Int) - den.log2 + 1) * den := by gcongr
  have decided := reaches ((num.log2 : Int) - den.log2)
  unfold ratioLog
  dsimp only
  split
  case isTrue reached =>
      have := decided.mpr reached
      omega
  case isFalse missed =>
      have := mt decided.mp missed
      omega

/-- The logarithm of a scaled significand is found from its bit length. -/
theorem log_scaled {significand : Nat} (sig_pos : 0 < significand) (place : Int) :
    Int.log 2 ((significand : ℚ) * 2 ^ place) = significand.log2 + place := by
  have ratio : (0 : ℚ) < significand * 2 ^ place := by positivity
  have low : (2 : ℚ) ^ (significand.log2 : Int) ≤ significand := by
    exact_mod_cast Nat.log2_self_le sig_pos.ne'
  have high : (significand : ℚ) < 2 ^ ((significand.log2 : Int) + 1) := by
    exact_mod_cast Nat.lt_log2_self (n := significand)
  have reached : (significand.log2 : Int) + place ≤ Int.log 2 ((significand : ℚ) * 2 ^ place) := by
    rw [← Int.zpow_le_iff_le_log (by decide) ratio, Nat.cast_ofNat, zpow_add₀ (by norm_num)]
    gcongr
  have passed : Int.log 2 ((significand : ℚ) * 2 ^ place) <
      (significand.log2 : Int) + 1 + place := by
    rw [← Int.lt_zpow_iff_log_lt (by decide) ratio, Nat.cast_ofNat, zpow_add₀ (by norm_num)]
    gcongr
  omega

/-- A whole ratio is rounded to itself. -/
theorem nearestEven_mul {den : Nat} (den_pos : 0 < den) (n : Nat) :
    nearestEven (den * n) den = n := by
  have quotient : den * n / den = n := Nat.mul_div_cancel_left n den_pos
  have rest : den * n % den = 0 := Nat.mul_mod_right den n
  rw [nearestEven, quotient, rest, if_neg (by omega)]

namespace Format

variable {f : Format} {significand : Nat} {place : Int}

/-! ### Canonical forms -/

/-- The word without sign for a significand and the exponent of its last place. -/
def packed (f : Format) (significand : Nat) (place : Int) : Nat :=
  (place - f.leastExponent).toNat * twoTo f.fractionBits + significand

theorem packed_least (f : Format) (significand : Nat) :
    f.packed significand f.leastExponent = significand := by
  rw [packed, Int.sub_self, Int.toNat_zero, Nat.zero_mul, Nat.zero_add]

/-- The highest bit of a full significand counts one up in the exponent field. -/
theorem packed_full (f : Format) (field fraction : Nat) :
    f.packed (twoTo f.fractionBits + fraction) (f.leastExponent + field) =
      (field + 1) * twoTo f.fractionBits + fraction := by
  have places : (f.leastExponent + field - f.leastExponent).toNat = field := by omega
  rw [packed, places, ← Nat.add_assoc, ← Nat.succ_mul]

/-- A significand and the exponent of its last place that one word of a format holds: the
significand has all its bits, or the exponent is the least, and the word is below that of an
infinity. -/
structure Canonical (f : Format) (significand : Nat) (place : Int) : Prop where
  bounded : significand < twoTo (f.fractionBits + 1)
  least : f.leastExponent ≤ place
  full : place = f.leastExponent ∨ twoTo f.fractionBits ≤ significand
  finite : f.packed significand place < f.infinityWord

/-- The last place to which a number is rounded is the one of its canonical form. -/
theorem placeOf_of_value {num den : Nat} (num_pos : 0 < num) (den_pos : 0 < den)
    (sig_pos : 0 < significand) (value : (num : ℚ) / den = significand * 2 ^ place)
    (canonical : f.Canonical significand place) : f.placeOf num den = place := by
  have bits : significand.log2 ≤ f.fractionBits :=
    Nat.lt_succ_iff.mp ((Nat.log2_lt sig_pos.ne').mpr canonical.bounded)
  have least := canonical.least
  rw [placeOf, ratioLog_eq_log num_pos den_pos, value, log_scaled sig_pos]
  rcases canonical.full with same | full
  · omega
  · have enough : f.fractionBits ≤ significand.log2 := (Nat.le_log2 sig_pos.ne').mpr full
    omega

/-- Rounding a number that has a canonical form gives the word of that form. -/
theorem roundMagnitude_of_value {num den : Nat} (den_pos : 0 < den) (sig_pos : 0 < significand)
    (value : (num : ℚ) / den = significand * 2 ^ place)
    (canonical : f.Canonical significand place) :
    f.roundMagnitude num den = f.packed significand place := by
  have num_pos : 0 < num := by
    rcases Nat.eq_zero_or_pos num with rfl | positive
    · have ratio : (0 : ℚ) < significand * 2 ^ place := by positivity
      rw [← value] at ratio
      simp at ratio
    · exact positive
  have scaled : num * twoTo (-place).toNat = den * twoTo place.toNat * significand := by
    have up : ((twoTo (-place).toNat : Nat) : ℚ) ≠ 0 := by
      exact_mod_cast (Nat.two_pow_pos _).ne'
    have down : (den : ℚ) ≠ 0 := by exact_mod_cast den_pos.ne'
    rw [← ratio_scaled, div_eq_div_iff down up] at value
    have value : num * twoTo (-place).toNat = significand * twoTo place.toNat * den := by
      exact_mod_cast value
    rw [value, Nat.mul_comm _ den, Nat.mul_assoc, Nat.mul_comm significand]
  have positive : 0 < den * twoTo place.toNat := Nat.mul_pos den_pos (Nat.two_pow_pos _)
  rw [roundMagnitude, if_neg num_pos.ne']
  simp only [placeOf_of_value num_pos den_pos sig_pos value canonical, scaled,
    nearestEven_mul positive]
  exact Nat.min_eq_left (Nat.le_of_lt canonical.finite)

/-- Encoding a number that has a canonical form gives the word of that form, however the
number is written. -/
theorem encode_of_value {written : Nat} {exponent : Int} (negative : Bool)
    (value : (written : ℚ) * 2 ^ exponent = significand * 2 ^ place)
    (canonical : f.Canonical significand place) (sig_pos : 0 < significand) :
    f.encode (.finite negative written exponent) =
      f.signWord negative + f.packed significand place := by
  have scale : 0 < twoTo (-exponent).toNat := Nat.two_pow_pos _
  rw [encode, round, roundMagnitude_of_value scale sig_pos
    ((ratio_scaled written exponent).trans value) canonical]

theorem encode_zero (negative : Bool) (exponent : Int) :
    f.encode (.finite negative 0 exponent) = f.signWord negative := by
  simp [encode, round, roundMagnitude]

/-! ### Words -/

theorem infinityWord_add (f : Format) :
    f.infinityWord + twoTo f.fractionBits = twoTo (f.fractionBits + f.exponentBits) := by
  have field : f.topField + 1 = twoTo f.exponentBits := Nat.sub_add_cancel (Nat.two_pow_pos _)
  calc f.infinityWord + twoTo f.fractionBits
      = (f.topField + 1) * twoTo f.fractionBits := (Nat.succ_mul ..).symm
    _ = twoTo f.fractionBits * twoTo f.exponentBits := by rw [field, Nat.mul_comm]
    _ = twoTo (f.fractionBits + f.exponentBits) := (Nat.pow_add ..).symm

/-- The two halves of the words of a format differ in their sign. -/
theorem twoTo_signed (f : Format) :
    twoTo (f.fractionBits + f.exponentBits + 1) =
      twoTo (f.fractionBits + f.exponentBits) + twoTo (f.fractionBits + f.exponentBits) := by
  exact (Nat.pow_succ ..).trans (Nat.mul_two _)

theorem signWord_le (f : Format) (negative : Bool) :
    f.signWord negative ≤ twoTo (f.fractionBits + f.exponentBits) := by
  cases negative <;> simp [signWord]

/-- What is encoded is a word of the format. -/
theorem encode_lt (f : Format) (d : Datum) :
    f.encode d < twoTo (f.fractionBits + f.exponentBits + 1) := by
  have top := f.infinityWord_add
  have double := f.twoTo_signed
  have fraction : 0 < twoTo f.fractionBits := Nat.two_pow_pos _
  cases d with
  | nan =>
      have quiet : twoTo (f.fractionBits - 1) ≤ twoTo f.fractionBits :=
        Nat.pow_le_pow_right (by decide) (Nat.sub_le ..)
      have fields : 0 < twoTo (f.fractionBits + f.exponentBits) := Nat.two_pow_pos _
      rw [encode, nanWord]
      omega
  | infinity negative =>
      have sign := f.signWord_le negative
      rw [encode]
      omega
  | finite negative significand exponent =>
      have sign := f.signWord_le negative
      have magnitude : f.roundMagnitude (significand * twoTo exponent.toNat)
          (twoTo (-exponent).toNat) ≤ f.infinityWord := by
        unfold roundMagnitude
        split
        · exact Nat.zero_le _
        · exact Nat.min_le_right ..
      rw [encode, round]
      omega

theorem twoTo_fields (f : Format) :
    twoTo (f.fractionBits + f.exponentBits) = twoTo f.fractionBits * twoTo f.exponentBits :=
  Nat.pow_add ..

/-- A word is made of its sign, its exponent field and its fraction. -/
theorem word_eq (f : Format) {word : Nat}
    (word_lt : word < twoTo (f.fractionBits + f.exponentBits + 1)) :
    word = f.signWord (word / twoTo (f.fractionBits + f.exponentBits) % 2 = 1) +
      (word / twoTo f.fractionBits % twoTo f.exponentBits * twoTo f.fractionBits +
        word % twoTo f.fractionBits) := by
  have double := f.twoTo_signed
  have sign_lt : word / twoTo (f.fractionBits + f.exponentBits) < 2 :=
    Nat.div_lt_of_lt_mul (by omega)
  have sign : f.signWord (word / twoTo (f.fractionBits + f.exponentBits) % 2 = 1) =
      twoTo f.fractionBits *
        (twoTo f.exponentBits * (word / twoTo (f.fractionBits + f.exponentBits))) := by
    rw [← Nat.mul_assoc, ← twoTo_fields]
    rcases Nat.lt_succ_iff_lt_or_eq.mp sign_lt with zero | one
    · rw [Nat.lt_one_iff.mp zero]
      simp [signWord]
    · rw [one]
      simp [signWord]
  have whole := Nat.div_add_mod word (twoTo f.fractionBits)
  have fields := Nat.div_add_mod (word / twoTo f.fractionBits) (twoTo f.exponentBits)
  rw [Nat.div_div_eq_div_mul, ← twoTo_fields] at fields
  rw [sign, Nat.mul_comm _ (twoTo f.fractionBits), ← Nat.add_assoc, ← Nat.mul_add, fields, whole]

/-- The fields of a word are those that it is made of. -/
theorem fields_eq (f : Format) (negative : Bool) {field fraction : Nat}
    (field_lt : field < twoTo f.exponentBits) (fraction_lt : fraction < twoTo f.fractionBits) :
    let word := f.signWord negative + (field * twoTo f.fractionBits + fraction)
    decide (word / twoTo (f.fractionBits + f.exponentBits) % 2 = 1) = negative ∧
      word / twoTo f.fractionBits % twoTo f.exponentBits = field ∧
      word % twoTo f.fractionBits = fraction := by
  intro word
  have digits : word = fraction + twoTo f.fractionBits *
      (field + twoTo f.exponentBits * negative.toNat) := by
    cases negative
    · simp only [word, signWord, Bool.toNat_false]
      ring_nf
      simp
    · simp only [word, signWord, twoTo_fields, if_true, Bool.toNat_true]
      ring
  obtain ⟨upper, rest⟩ := (Nat.div_mod_unique (Nat.two_pow_pos _)).mpr
    ⟨digits.symm, fraction_lt⟩
  obtain ⟨sign, middle⟩ := (Nat.div_mod_unique (Nat.two_pow_pos _)).mpr ⟨upper.symm, field_lt⟩
  rw [Nat.div_div_eq_div_mul] at sign
  have sign : word / twoTo (f.fractionBits + f.exponentBits) = negative.toNat := by
    rw [twoTo_fields]
    exact sign
  refine ⟨?_, middle, rest⟩
  rw [sign]
  cases negative <;> rfl

/-- What a word stands for is read off its fields. -/
theorem decode_fields (f : Format) (negative : Bool) {field fraction : Nat}
    (field_lt : field < twoTo f.exponentBits) (fraction_lt : fraction < twoTo f.fractionBits) :
    f.decode (f.signWord negative + (field * twoTo f.fractionBits + fraction)) =
      if field = f.topField then
        if fraction = 0 then .infinity negative else .nan
      else if field = 0 then
        .finite negative fraction f.leastExponent
      else
        .finite negative (twoTo f.fractionBits + fraction) (f.leastExponent + field - 1) := by
  obtain ⟨sign, middle, rest⟩ := f.fields_eq negative field_lt fraction_lt
  rw [decode, middle, rest]
  simp only [sign]

/-- A word decodes to the canonical form that it packs. -/
theorem decode_packed (negative : Bool) (canonical : f.Canonical significand place) :
    f.decode (f.signWord negative + f.packed significand place) =
      .finite negative significand place := by
  have top : f.topField < twoTo f.exponentBits :=
    Nat.sub_lt (Nat.two_pow_pos _) (by decide)
  have least := canonical.least
  have finite := canonical.finite
  have bounded : significand < twoTo f.fractionBits + twoTo f.fractionBits :=
    lt_of_lt_of_eq canonical.bounded ((Nat.pow_succ ..).trans (Nat.mul_two _))
  by_cases short : significand < twoTo f.fractionBits
  · have last : place = f.leastExponent := canonical.full.resolve_right (by omega)
    subst last
    have some_field : 0 < f.topField := by
      rcases Nat.eq_zero_or_pos f.topField with none | positive
      · rw [infinityWord, none, Nat.zero_mul] at finite
        omega
      · exact positive
    have packed : f.packed significand f.leastExponent =
        0 * twoTo f.fractionBits + significand := by
      rw [packed_least, Nat.zero_mul, Nat.zero_add]
    rw [packed, decode_fields f negative (Nat.two_pow_pos _) short, if_neg some_field.ne,
      if_pos rfl]
  · obtain ⟨fraction, rfl⟩ := Nat.exists_eq_add_of_le (Nat.le_of_not_lt short)
    obtain ⟨field, rfl⟩ : ∃ field : Nat, place = f.leastExponent + field :=
      ⟨(place - f.leastExponent).toNat, by omega⟩
    rw [packed_full, infinityWord] at finite
    have field_lt : field + 1 < f.topField :=
      Nat.lt_of_mul_lt_mul_right (Nat.lt_of_le_of_lt (Nat.le_add_right ..) finite)
    rw [packed_full, decode_fields f negative (by omega) (by omega), if_neg (by omega),
      if_neg (by omega)]
    congr 1
    omega

/-- What a finite word decodes to is canonical, and the word packs it. -/
theorem canonical_of_decode {word : Nat} {negative : Bool}
    (word_lt : word < twoTo (f.fractionBits + f.exponentBits + 1))
    (decoded : f.decode word = .finite negative significand place) :
    f.Canonical significand place ∧
      word = f.signWord negative + f.packed significand place := by
  have whole := f.word_eq word_lt
  generalize decide (word / twoTo (f.fractionBits + f.exponentBits) % 2 = 1) = sign at whole
  have field_lt : word / twoTo f.fractionBits % twoTo f.exponentBits < twoTo f.exponentBits :=
    Nat.mod_lt _ (Nat.two_pow_pos _)
  have fraction_lt : word % twoTo f.fractionBits < twoTo f.fractionBits :=
    Nat.mod_lt _ (Nat.two_pow_pos _)
  generalize word / twoTo f.fractionBits % twoTo f.exponentBits = field at whole field_lt
  generalize word % twoTo f.fractionBits = fraction at whole fraction_lt
  have top : f.topField + 1 = twoTo f.exponentBits := Nat.sub_add_cancel (Nat.two_pow_pos _)
  have double : twoTo (f.fractionBits + 1) = twoTo f.fractionBits + twoTo f.fractionBits :=
    (Nat.pow_succ ..).trans (Nat.mul_two _)
  rw [whole, decode_fields f sign field_lt fraction_lt] at decoded
  split at decoded
  · split at decoded <;> cases decoded
  · have below : (field + 1) * twoTo f.fractionBits ≤ f.infinityWord :=
      Nat.mul_le_mul_right _ (by omega)
    rw [Nat.succ_mul] at below
    split at decoded
    case isTrue zero =>
        cases decoded
        subst zero
        refine ⟨⟨by omega, le_refl _, .inl rfl, ?_⟩, ?_⟩
        · rw [packed_least]
          omega
        · rw [whole, packed_least, Nat.zero_mul, Nat.zero_add]
    case isFalse nonzero =>
        cases decoded
        obtain ⟨lower, rfl⟩ := Nat.exists_eq_add_one_of_ne_zero nonzero
        have place : f.leastExponent + ((lower + 1 : Nat) : Int) - 1 =
            f.leastExponent + lower := by omega
        rw [place]
        refine ⟨⟨by omega, by omega, .inr (by omega), ?_⟩, ?_⟩
        · rw [packed_full]
          omega
        · rw [whole, packed_full]

/-- The word of an infinity has its field and its sign. -/
theorem eq_of_decode_infinity {word : Nat} {negative : Bool}
    (word_lt : word < twoTo (f.fractionBits + f.exponentBits + 1))
    (decoded : f.decode word = .infinity negative) :
    word = f.signWord negative + f.infinityWord := by
  have whole := f.word_eq word_lt
  rw [decode] at decoded
  split at decoded
  case isTrue top =>
      split at decoded
      case isTrue none =>
          cases decoded
          rw [top, none] at whole
          exact whole
      case isFalse => cases decoded
  case isFalse =>
      split at decoded <;> cases decoded

end Format

/-! ### Singles among the doubles -/

/-- Every number of single precision is one of double precision, where it has more places. -/
theorem canonical_double {significand : Nat} {place : Int} (sig_pos : 0 < significand)
    (canonical : single.Canonical significand place) :
    ∃ longer : Nat, ∃ further : Int, 0 < longer ∧ double.Canonical longer further ∧
      (significand : ℚ) * 2 ^ place = longer * 2 ^ further := by
  have least : -149 ≤ place := canonical.least
  have finite : (place - -149).toNat * 2 ^ 23 + significand < 255 * 2 ^ 23 := canonical.finite
  have short : significand.log2 < 24 := (Nat.log2_lt sig_pos.ne').mpr canonical.bounded
  have low : 2 ^ significand.log2 ≤ significand := Nat.log2_self_le sig_pos.ne'
  have high : significand < 2 ^ (significand.log2 + 1) := Nat.lt_log2_self
  obtain ⟨shift, shifted⟩ : ∃ shift, significand.log2 + shift = 52 := ⟨52 - significand.log2, by omega⟩
  have scale : 0 < 2 ^ shift := Nat.two_pow_pos shift
  have full : 2 ^ 52 ≤ significand * 2 ^ shift := by
    rw [← shifted, Nat.pow_add]
    exact Nat.mul_le_mul_right _ low
  have bounded : significand * 2 ^ shift < 2 ^ 53 := by
    have sum : 53 = significand.log2 + 1 + shift := by omega
    rw [sum, Nat.pow_add]
    exact Nat.mul_lt_mul_of_pos_right high scale
  have places : (place - shift + 1074).toNat ≤ 1330 := by omega
  have below : (place - shift + 1074).toNat * 2 ^ 52 + significand * 2 ^ shift < 2047 * 2 ^ 52 :=
    calc (place - shift + 1074).toNat * 2 ^ 52 + significand * 2 ^ shift
        < 1330 * 2 ^ 52 + 2 ^ 53 := Nat.add_lt_add_of_le_of_lt (Nat.mul_le_mul_right _ places) bounded
      _ ≤ 2047 * 2 ^ 52 := by decide
  have last : double.leastExponent = -1074 := rfl
  have packed : double.packed (significand * 2 ^ shift) (place - shift) =
      (place - shift + 1074).toNat * 2 ^ 52 + significand * 2 ^ shift := by
    rw [Format.packed, last, sub_neg_eq_add]
    rfl
  refine ⟨significand * 2 ^ shift, place - shift, Nat.mul_pos sig_pos scale,
    ⟨bounded, by omega, .inr full, packed.trans_lt below⟩, ?_⟩
  rw [sub_eq_add_neg, zpow_add₀ (by norm_num), zpow_neg, zpow_natCast]
  push_cast
  field_simp

namespace Binary64

/-- The word of a single that is written for a word that was read: the same one, or the one
NaN. -/
def canonicalSingle (word : Nat) : Nat :=
  if single.decode word = .nan then single.nanWord else word

theorem datum_ofDatum (d : Datum) : (ofDatum d).datum = double.decode (double.encode d) := by
  have word_lt : double.encode d < 2 ^ 64 := double.encode_lt d
  rw [datum, ofDatum, ofNat, BitVec.toNat_ofNat, Nat.mod_eq_of_lt word_lt]

/-- A single-precision word that is read as a double and written again is the word it was,
except that every NaN becomes the one that is ever written. -/
theorem narrow_widen {word : Nat} (word_lt : word < twoTo 32) :
    (widen word).narrow = canonicalSingle word := by
  rw [narrow, widen, datum_ofDatum, canonicalSingle]
  cases decoded : single.decode word with
  | nan =>
      have datum : double.decode (double.encode .nan) = .nan := by decide
      rw [datum, if_pos rfl]
      rfl
  | infinity negative =>
      have datum : double.decode (double.encode (.infinity negative)) = .infinity negative := by
        cases negative <;> decide
      rw [datum, if_neg (by simp)]
      exact (Format.eq_of_decode_infinity word_lt decoded).symm
  | finite negative significand place =>
      rw [if_neg (by simp)]
      obtain ⟨canonical, whole⟩ := Format.canonical_of_decode word_lt decoded
      rcases Nat.eq_zero_or_pos significand with rfl | sig_pos
      · have last : place = single.leastExponent := by
          refine canonical.full.resolve_right (by decide)
        have datum (negative : Bool) :
            double.decode (double.signWord negative) = .finite negative 0 (-1074) := by
          cases negative <;> decide
        rw [Format.encode_zero, datum, Format.encode_zero, whole, last]
        simp [Format.packed]
      · obtain ⟨longer, further, long_pos, longer_canonical, value⟩ :=
          canonical_double sig_pos canonical
        rw [Format.encode_of_value negative value longer_canonical long_pos,
          Format.decode_packed negative longer_canonical,
          Format.encode_of_value negative value.symm canonical sig_pos, whole]

end Binary64
end Hid.Number
