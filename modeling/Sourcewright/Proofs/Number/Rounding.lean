import Mathlib.Tactic.Linarith
import Mathlib.Tactic.NormNum
import Sourcewright.Proofs.Number.Numeral

/-!
# Rounding

A finite number that is not zero is a significand times a power of two.  The rationals that
round to it form an interval, and the intervals of different numbers do not meet.  The
decimal that is written for the number lies in its interval: a grid of seventeen digits is so
fine that one of the two multiples next to the number does.

Consequently the text of a finite number determines the number.
-/

namespace Sourcewright.Binary64

/-! ## Finite numbers -/

/-- The significands and exponents of finite numbers. -/
structure Canonical (significand : Nat) (exponent : Int) : Prop where
  least_le : leastExponent ≤ exponent
  lt_limit : significand < 2 ^ 53
  normal : exponent = leastExponent ∨ 2 ^ 52 ≤ significand

theorem bits_eq_fields {bits : Nat} (width : bits < 2 ^ 64) :
    bits = (if (bits / Nat.pow 2 63 == 1) = true then 2 ^ 63 else 0) +
      bits / Nat.pow 2 52 % Nat.pow 2 11 * 2 ^ 52 + bits % Nat.pow 2 52 := by
  simp only [Nat.pow_eq, beq_iff_eq]
  split <;> omega

/-- The significand and the exponent of a finite number are its bits, read as one whole
number. -/
theorem bits_of_classify {number : Binary64} {negative : Bool} {significand : Nat}
    {exponent : Int} (finite : number.classify = .finite negative significand exponent) :
    Canonical significand exponent ∧
      number.bits.toNat = (if negative then 2 ^ 63 else 0) +
        (exponent - leastExponent).toNat * 2 ^ 52 + significand := by
  have fields := bits_eq_fields number.bits.toNat_lt
  have small : number.bits.toNat % Nat.pow 2 52 < 2 ^ 52 := Nat.mod_lt _ (by decide)
  unfold classify at finite
  dsimp only at finite
  generalize number.bits.toNat / Nat.pow 2 52 % Nat.pow 2 11 = biased at fields finite
  generalize number.bits.toNat % Nat.pow 2 52 = fraction at fields finite small
  split at finite
  · split at finite <;> cases finite
  · cases biased with
    | zero =>
        simp only [if_true, Class.finite.injEq] at finite
        obtain ⟨rfl, rfl, rfl⟩ := finite
        rw [Int.sub_self]
        exact ⟨⟨le_refl _, by omega, .inl rfl⟩, fields⟩
    | succ steps =>
        have shift : leastExponent + (((steps + 1 : Nat) : Int) - 1) - leastExponent = steps := by
          omega
        have carry (sign unit : Nat) : sign + (steps + 1) * unit + fraction =
            sign + steps * unit + (unit + fraction) := by
          ring
        simp only [Nat.succ_ne_zero, if_false, Class.finite.injEq] at finite
        obtain ⟨rfl, rfl, rfl⟩ := finite
        rw [shift, Int.toNat_natCast, Nat.pow_eq]
        exact ⟨⟨by omega, by omega, .inr (Nat.le_add_right _ _)⟩, fields.trans (carry _ _)⟩

theorem classify_injective {first second : Binary64} {negative : Bool} {significand : Nat}
    {exponent : Int} (firstFinite : first.classify = .finite negative significand exponent)
    (secondFinite : second.classify = .finite negative significand exponent) :
    first = second := by
  have bits : first.bits.toNat = second.bits.toNat := by
    rw [(bits_of_classify firstFinite).2, (bits_of_classify secondFinite).2]
  cases first
  cases second
  exact congrArg mk (UInt64.toNat_inj.mp bits)

/-! ## Intervals -/

/-- Half the distance to the number below, in units of the last place. -/
def gapBelow (significand : Nat) (exponent : Int) : ℚ :=
  if significand = 2 ^ 52 ∧ exponent ≠ leastExponent then 1 / 4 else 1 / 2

/-- The rationals that round to a positive number. -/
structure RoundsTo (significand : Nat) (exponent : Int) (value : ℚ) : Prop where
  above : (significand - gapBelow significand exponent) * 2 ^ exponent ≤ value
  below : value ≤ (significand + 1 / 2) * 2 ^ exponent
  /-- An end of the interval rounds to the neighbour if that one is even. -/
  strict : significand % 2 = 1 →
    (significand - gapBelow significand exponent) * 2 ^ exponent < value ∧
      value < (significand + 1 / 2) * 2 ^ exponent

theorem gapBelow_bounds (significand : Nat) (exponent : Int) :
    1 / 4 ≤ gapBelow significand exponent ∧ gapBelow significand exponent ≤ 1 / 2 := by
  unfold gapBelow
  split <;> norm_num

theorem RoundsTo.pos {significand : Nat} {exponent : Int} {value : ℚ}
    (rounds : RoundsTo significand exponent value) (nonzero : significand ≠ 0) : 0 < value := by
  have one : (1 : ℚ) ≤ significand := by exact_mod_cast Nat.one_le_iff_ne_zero.mpr nonzero
  have gap := (gapBelow_bounds significand exponent).2
  have unit : (0 : ℚ) < 2 ^ exponent := by positivity
  have lower : 0 < (significand - gapBelow significand exponent) * 2 ^ exponent :=
    mul_pos (by linarith) unit
  exact lower.trans_le rounds.above

/-- A number with a smaller exponent ends before one with a greater exponent starts. -/
theorem RoundsTo.exponent_le {first second : Nat} {exponent other : Int} {value : ℚ}
    (firstCanonical : Canonical first exponent) (secondCanonical : Canonical second other)
    (firstRounds : RoundsTo first exponent value) (secondRounds : RoundsTo second other value) :
    other ≤ exponent := by
  by_contra greater
  have normal : 2 ^ 52 ≤ second := by
    have least := firstCanonical.least_le
    rcases secondCanonical.normal with equal | normal
    · omega
    · exact normal
  have unit : (0 : ℚ) < 2 ^ exponent := by positivity
  have scale : (2 : ℚ) * 2 ^ exponent ≤ 2 ^ other := by
    rw [← zpow_one_add₀ (by norm_num)]
    exact zpow_le_zpow_right₀ (by norm_num) (by omega)
  -- Just below the least normal significand the numbers lie twice as close.
  have lower : (2 ^ 52 - 1 / 4 : ℚ) ≤ second - gapBelow second other := by
    by_cases power : second = 2 ^ 52
    · have least := firstCanonical.least_le
      have gap : gapBelow second other = 1 / 4 := if_pos ⟨power, by omega⟩
      rw [gap, power]
      norm_num
    · have next : (2 ^ 52 + 1 : ℚ) ≤ second := by
        exact_mod_cast Nat.lt_of_le_of_ne normal (Ne.symm power)
      have gap := (gapBelow_bounds second other).2
      linarith
  have start : (2 ^ 53 - 1 / 2 : ℚ) * 2 ^ exponent ≤ value := by
    calc (2 ^ 53 - 1 / 2 : ℚ) * 2 ^ exponent = (2 ^ 52 - 1 / 4) * (2 * 2 ^ exponent) := by ring
      _ ≤ (2 ^ 52 - 1 / 4) * 2 ^ other := mul_le_mul_of_nonneg_left scale (by norm_num)
      _ ≤ (second - gapBelow second other) * 2 ^ other :=
        mul_le_mul_of_nonneg_right lower (by positivity)
      _ ≤ value := secondRounds.above
  have limit := firstCanonical.lt_limit
  by_cases last : first = 2 ^ 53 - 1
  · -- The greatest significand is odd, so the common end is not its own.
    have strict := (firstRounds.strict (by omega)).2
    have cast : (first : ℚ) = 2 ^ 53 - 1 := by rw [last]; norm_num
    have finish : value < (2 ^ 53 - 1 / 2) * 2 ^ exponent := by
      convert strict using 2
      rw [cast]
      norm_num
    exact absurd start (not_le.mpr finish)
  · have cast : (first : ℚ) + 1 ≤ 2 ^ 53 - 1 := by
      have smaller : first + 2 ≤ 2 ^ 53 := by omega
      have castSmaller : (first : ℚ) + 2 ≤ 2 ^ 53 := by exact_mod_cast smaller
      linarith
    have finish := firstRounds.below
    have ordered := le_of_mul_le_mul_right (start.trans finish) unit
    linarith

theorem RoundsTo.significand_le {first second : Nat} {exponent : Int} {value : ℚ}
    (firstRounds : RoundsTo first exponent value)
    (secondRounds : RoundsTo second exponent value) : second ≤ first := by
  by_contra greater
  have unit : (0 : ℚ) < 2 ^ exponent := by positivity
  have gap := (gapBelow_bounds second exponent).2
  have next : (first : ℚ) + 1 ≤ second := by exact_mod_cast Nat.lt_of_not_le greater
  by_cases firstOdd : first % 2 = 1
  · have ordered := lt_of_mul_lt_mul_right
      (secondRounds.above.trans_lt (firstRounds.strict firstOdd).2) unit.le
    linarith
  · by_cases secondOdd : second % 2 = 1
    · have ordered := lt_of_mul_lt_mul_right
        ((secondRounds.strict secondOdd).1.trans_le firstRounds.below) unit.le
      linarith
    · have further : (first : ℚ) + 2 ≤ second := by
        have whole : first + 2 ≤ second := by omega
        exact_mod_cast whole
      have ordered := le_of_mul_le_mul_right (secondRounds.above.trans firstRounds.below) unit
      linarith

theorem RoundsTo.unique {first second : Nat} {exponent other : Int} {value : ℚ}
    (firstCanonical : Canonical first exponent) (secondCanonical : Canonical second other)
    (firstRounds : RoundsTo first exponent value) (secondRounds : RoundsTo second other value) :
    first = second ∧ exponent = other := by
  obtain rfl : exponent = other := le_antisymm
    (secondRounds.exponent_le secondCanonical firstCanonical firstRounds)
    (firstRounds.exponent_le firstCanonical secondCanonical secondRounds)
  exact ⟨le_antisymm (secondRounds.significand_le firstRounds)
    (firstRounds.significand_le secondRounds), rfl⟩

/-! ## The intervals over a common denominator -/

theorem roundingInterval_eq (significand : Nat) (exponent : Int) :
    ∃ scale denominator : Nat, 0 < denominator ∧ (scale / denominator : ℚ) = 2 ^ exponent / 4 ∧
      roundingInterval significand exponent =
        { lower := (4 * significand -
            if significand = 2 ^ 52 ∧ exponent ≠ leastExponent then 1 else 2) * scale
          value := 4 * significand * scale
          upper := (4 * significand + 2) * scale
          denominator := denominator
          closed := significand % 2 == 0 } := by
  have scaled : ((if exponent < 0 then 1 else 2 ^ exponent.natAbs : Nat) : ℚ) /
      (if exponent < 0 then 4 * 2 ^ exponent.natAbs else 4 : Nat) = 2 ^ exponent / 4 := by
    split
    case isTrue small =>
      have power : (2 : ℚ) ^ exponent = (2 ^ exponent.natAbs)⁻¹ := by
        rw [← zpow_natCast, ← zpow_neg]
        congr 1
        omega
      rw [power]
      push_cast
      field_simp
    case isFalse large =>
      have power : (2 : ℚ) ^ exponent = 2 ^ exponent.natAbs := by
        rw [← zpow_natCast]
        congr 1
        omega
      rw [power]
      push_cast
      rfl
  refine ⟨_, _, ?_, scaled, ?_⟩
  · split <;> positivity
  · simp [roundingInterval]

variable {significand : Nat} {exponent : Int}

theorem roundingInterval_denominator_pos (significand : Nat) (exponent : Int) :
    0 < (roundingInterval significand exponent).denominator := by
  obtain ⟨scale, denominator, positive, -, interval⟩ := roundingInterval_eq significand exponent
  rw [interval]
  exact positive

theorem roundingInterval_value (significand : Nat) (exponent : Int) :
    ((roundingInterval significand exponent).value : ℚ) /
      (roundingInterval significand exponent).denominator = significand * 2 ^ exponent := by
  obtain ⟨scale, denominator, -, scaled, interval⟩ := roundingInterval_eq significand exponent
  rw [interval]
  push_cast
  rw [mul_div_assoc, scaled]
  ring

theorem roundingInterval_upper (significand : Nat) (exponent : Int) :
    ((roundingInterval significand exponent).upper : ℚ) /
      (roundingInterval significand exponent).denominator =
        (significand + 1 / 2) * 2 ^ exponent := by
  obtain ⟨scale, denominator, -, scaled, interval⟩ := roundingInterval_eq significand exponent
  rw [interval]
  push_cast
  rw [mul_div_assoc, scaled]
  ring

theorem roundingInterval_lower (nonzero : significand ≠ 0) (exponent : Int) :
    ((roundingInterval significand exponent).lower : ℚ) /
      (roundingInterval significand exponent).denominator =
        (significand - gapBelow significand exponent) * 2 ^ exponent := by
  obtain ⟨scale, denominator, -, scaled, interval⟩ := roundingInterval_eq significand exponent
  rw [interval]
  unfold gapBelow
  split
  all_goals
    dsimp only
    rw [Nat.cast_mul, Nat.cast_sub (by omega), mul_div_assoc, scaled]
    push_cast
    ring

theorem roundsTo_iff_contains (nonzero : significand ≠ 0) (exponent : Int)
    {numerator denominator : Nat} (positive : 0 < denominator) :
    (roundingInterval significand exponent).contains numerator denominator = true ↔
      RoundsTo significand exponent (numerator / denominator) := by
  have own : (0 : ℚ) < (roundingInterval significand exponent).denominator := by
    exact_mod_cast roundingInterval_denominator_pos significand exponent
  have other : (0 : ℚ) < denominator := by exact_mod_cast positive
  have lower := roundingInterval_lower nonzero exponent
  have upper := roundingInterval_upper significand exponent
  have closed : (roundingInterval significand exponent).closed = (significand % 2 == 0) := rfl
  generalize roundingInterval significand exponent = interval at *
  have lower_le : interval.lower * denominator ≤ numerator * interval.denominator ↔
      (interval.lower / interval.denominator : ℚ) ≤ numerator / denominator := by
    rw [div_le_div_iff₀ own other]
    exact_mod_cast Iff.rfl
  have lower_lt : interval.lower * denominator < numerator * interval.denominator ↔
      (interval.lower / interval.denominator : ℚ) < numerator / denominator := by
    rw [div_lt_div_iff₀ own other]
    exact_mod_cast Iff.rfl
  have le_upper : numerator * interval.denominator ≤ interval.upper * denominator ↔
      (numerator / denominator : ℚ) ≤ interval.upper / interval.denominator := by
    rw [div_le_div_iff₀ other own]
    exact_mod_cast Iff.rfl
  have lt_upper : numerator * interval.denominator < interval.upper * denominator ↔
      (numerator / denominator : ℚ) < interval.upper / interval.denominator := by
    rw [div_lt_div_iff₀ other own]
    exact_mod_cast Iff.rfl
  simp only [RoundingInterval.contains, closed]
  by_cases even : significand % 2 = 0
  · rw [if_pos (beq_iff_eq.mpr even), Bool.and_eq_true, decide_eq_true_iff, decide_eq_true_iff,
      lower_le, le_upper, lower, upper]
    exact ⟨fun inside => ⟨inside.1, inside.2, fun odd => by omega⟩,
      fun rounds => ⟨rounds.above, rounds.below⟩⟩
  · rw [if_neg (by simpa using even), Bool.and_eq_true, decide_eq_true_iff, decide_eq_true_iff,
      lower_lt, lt_upper, lower, upper]
    exact ⟨fun inside => ⟨inside.1.le, inside.2.le, fun _ => inside⟩,
      fun rounds => rounds.strict (by omega)⟩

/-! ## The decimal that is written -/

namespace RoundingInterval

/-- The numerator of the power of ten that a grid counts in. -/
def gridNumerator (unit : Int) : Nat :=
  if unit < 0 then 1 else Nat.pow 10 unit.natAbs

/-- The denominator of the power of ten that a grid counts in. -/
def gridDenominator (unit : Int) : Nat :=
  if unit < 0 then Nat.pow 10 unit.natAbs else 1

theorem gridNumerator_pos (unit : Int) : 0 < gridNumerator unit := by
  rw [gridNumerator]
  split
  · exact Nat.one_pos
  · exact Nat.pow_pos (by decide)

theorem gridDenominator_pos (unit : Int) : 0 < gridDenominator unit := by
  rw [gridDenominator]
  split
  · exact Nat.pow_pos (by decide)
  · exact Nat.one_pos

theorem ten_zpow_eq (unit : Int) :
    (10 : ℚ) ^ unit = gridNumerator unit / gridDenominator unit := by
  rw [gridNumerator, gridDenominator]
  split
  case isTrue small =>
    rw [Nat.pow_eq]
    push_cast
    rw [← zpow_natCast, one_div, ← zpow_neg]
    congr 1
    omega
  case isFalse large =>
    rw [Nat.pow_eq]
    push_cast
    rw [← zpow_natCast, div_one]
    congr 1
    omega

theorem leadingExponent_succ {interval : RoundingInterval} (positive : 0 < interval.denominator)
    (steps : Nat) (guess : Int) :
    interval.leadingExponent (steps + 1) guess =
      if (10 : ℚ) ^ guess ≤ interval.value / interval.denominator then guess
      else interval.leadingExponent steps (guess - 1) := by
  have own : (0 : ℚ) < interval.denominator := by exact_mod_cast positive
  have reaches : (if guess < 0 then
        interval.denominator ≤ interval.value * Nat.pow 10 guess.natAbs
      else
        interval.denominator * Nat.pow 10 guess.natAbs ≤ interval.value) ↔
      (10 : ℚ) ^ guess ≤ interval.value / interval.denominator := by
    rw [ten_zpow_eq, div_le_div_iff₀ (by exact_mod_cast gridDenominator_pos guess) own,
      gridNumerator, gridDenominator]
    split
    · rw [Nat.cast_one, one_mul]
      exact_mod_cast Iff.rfl
    · rw [Nat.cast_one, mul_one, mul_comm]
      exact_mod_cast Iff.rfl
  rw [leadingExponent]
  exact if_congr reaches rfl rfl

/-- The search for the first digit ends at a power of ten that the value reaches. -/
theorem ten_zpow_leadingExponent_le {interval : RoundingInterval}
    (positive : 0 < interval.denominator) {steps : Nat} {guess : Int}
    (reached : (10 : ℚ) ^ (guess - steps) ≤ interval.value / interval.denominator) :
    (10 : ℚ) ^ interval.leadingExponent steps guess ≤ interval.value / interval.denominator := by
  induction steps generalizing guess with
  | zero => simpa [leadingExponent] using reached
  | succ steps ih =>
      rw [leadingExponent_succ positive]
      split
      case isTrue reaches => exact reaches
      case isFalse =>
        apply ih
        rwa [Nat.cast_succ, add_comm, ← sub_sub] at reached

/-- The greatest multiple of a power of ten that does not exceed the value. -/
def multipleBelow (interval : RoundingInterval) (unit : Int) : Nat :=
  interval.value * gridDenominator unit / (interval.denominator * gridNumerator unit)

/-- Whether a multiple of a power of ten lies in the interval. -/
def fits (interval : RoundingInterval) (unit : Int) (multiple : Nat) : Bool :=
  interval.contains (multiple * gridNumerator unit) (gridDenominator unit)

theorem nearestMultiple?_eq (interval : RoundingInterval) (tie : TieRule) (unit : Int) :
    ∃ preferBelow : Bool, interval.nearestMultiple? tie unit =
      if interval.fits unit (interval.multipleBelow unit) &&
          (preferBelow || !interval.fits unit (interval.multipleBelow unit + 1)) then
        some (interval.multipleBelow unit)
      else if interval.fits unit (interval.multipleBelow unit + 1) then
        some (interval.multipleBelow unit + 1)
      else none :=
  ⟨_, rfl⟩

theorem fits_of_nearestMultiple? {interval : RoundingInterval} {tie : TieRule} {unit : Int}
    {multiple : Nat} (found : interval.nearestMultiple? tie unit = some multiple) :
    interval.fits unit multiple = true := by
  obtain ⟨preferBelow, nearest⟩ := nearestMultiple?_eq interval tie unit
  rw [nearest] at found
  split at found
  case isTrue below =>
    rw [← Option.some.inj found]
    exact (Bool.and_eq_true_iff.mp below).1
  case isFalse =>
    split at found
    case isTrue above =>
      rw [← Option.some.inj found]
      exact above
    case isFalse => cases found

theorem not_fits_of_nearestMultiple?_eq_none {interval : RoundingInterval} {tie : TieRule}
    {unit : Int} (missed : interval.nearestMultiple? tie unit = none) :
    interval.fits unit (interval.multipleBelow unit) = false ∧
      interval.fits unit (interval.multipleBelow unit + 1) = false := by
  obtain ⟨preferBelow, nearest⟩ := nearestMultiple?_eq interval tie unit
  rw [nearest] at missed
  split at missed
  case isTrue => cases missed
  case isFalse below =>
    split at missed
    case isTrue => cases missed
    case isFalse above => simp_all

theorem multipleBelow_bounds {interval : RoundingInterval} (positive : 0 < interval.denominator)
    (unit : Int) :
    interval.multipleBelow unit * (10 : ℚ) ^ unit ≤ interval.value / interval.denominator ∧
      interval.value / interval.denominator <
        (interval.multipleBelow unit + 1) * (10 : ℚ) ^ unit := by
  have own : (0 : ℚ) < interval.denominator := by exact_mod_cast positive
  have grid : (0 : ℚ) < gridDenominator unit := by exact_mod_cast gridDenominator_pos unit
  have divisor := Nat.mul_pos positive (gridNumerator_pos unit)
  have lower : interval.multipleBelow unit * gridNumerator unit * interval.denominator ≤
      interval.value * gridDenominator unit := by
    rw [Nat.mul_assoc, Nat.mul_comm (gridNumerator unit)]
    exact Nat.div_mul_le_self _ _
  have upper : interval.value * gridDenominator unit <
      (interval.multipleBelow unit + 1) * gridNumerator unit * interval.denominator := by
    rw [Nat.mul_assoc, Nat.mul_comm (gridNumerator unit), Nat.mul_comm (_ + 1)]
    exact Nat.lt_mul_div_succ _ divisor
  rw [ten_zpow_eq]
  constructor
  · rw [mul_div_assoc', div_le_div_iff₀ grid own]
    exact_mod_cast lower
  · rw [mul_div_assoc', div_lt_div_iff₀ own grid]
    exact_mod_cast upper

/-- If one of the grids that are tried has a multiple in the interval, the search ends with
such a multiple. -/
theorem exists_search_eq {interval : RoundingInterval} {tie : TieRule} {leading : Int}
    {attempts digits : Nat}
    (found : ∃ count < attempts,
      interval.nearestMultiple? tie (leading - ((digits + count : Nat) - 1)) ≠ none) :
    ∃ multiple unit, interval.fits unit multiple = true ∧
      interval.search tie leading attempts digits = .ofScaled multiple unit := by
  induction attempts generalizing digits with
  | zero =>
      obtain ⟨count, less, -⟩ := found
      omega
  | succ attempts ih =>
      rw [search]
      cases nearest : interval.nearestMultiple? tie (leading - ((digits : Int) - 1)) with
      | some multiple => exact ⟨multiple, _, fits_of_nearestMultiple? nearest, rfl⟩
      | none =>
          apply ih
          obtain ⟨count, less, some⟩ := found
          cases count with
          | zero => exact absurd nearest some
          | succ count =>
              refine ⟨count, by omega, ?_⟩
              rwa [Nat.add_right_comm]

end RoundingInterval

theorem fits_iff (nonzero : significand ≠ 0) (exponent unit : Int) (multiple : Nat) :
    (roundingInterval significand exponent).fits unit multiple = true ↔
      RoundsTo significand exponent (multiple * 10 ^ unit) := by
  rw [RoundingInterval.fits,
    roundsTo_iff_contains nonzero exponent (RoundingInterval.gridDenominator_pos unit),
    Nat.cast_mul, mul_div_assoc, ← RoundingInterval.ten_zpow_eq]

/-- What does not round to a number lies on the far side of an end of its interval. -/
theorem not_roundsTo {value : ℚ} (missed : ¬ RoundsTo significand exponent value) :
    value ≤ (significand - gapBelow significand exponent) * 2 ^ exponent ∨
      (significand + 1 / 2) * 2 ^ exponent ≤ value := by
  by_contra inside
  rw [not_or, not_le, not_le] at inside
  exact missed ⟨inside.1.le, inside.2.le, fun _ => inside⟩

/-- A grid of seventeen digits is finer than the interval is wide. -/
theorem nearestMultiple?_ne_none (nonzero : significand ≠ 0)
    (canonical : Canonical significand exponent) (tie : TieRule) {unit : Int}
    (fine : 10 ^ 16 * (10 : ℚ) ^ unit ≤ significand * 2 ^ exponent) :
    (roundingInterval significand exponent).nearestMultiple? tie unit ≠ none := by
  intro missed
  obtain ⟨missedBelow, missedAbove⟩ := RoundingInterval.not_fits_of_nearestMultiple?_eq_none missed
  obtain ⟨below, above⟩ := RoundingInterval.multipleBelow_bounds
    (roundingInterval_denominator_pos significand exponent) unit
  rw [roundingInterval_value] at below above
  generalize (roundingInterval significand exponent).multipleBelow unit = multiple at *
  rw [← Bool.not_eq_true, fits_iff nonzero] at missedBelow missedAbove
  push_cast at missedAbove
  have power : (0 : ℚ) < 2 ^ exponent := by positivity
  have gap := gapBelow_bounds significand exponent
  have belowUpper : (significand : ℚ) * 2 ^ exponent < (significand + 1 / 2) * 2 ^ exponent :=
    mul_lt_mul_of_pos_right (by linarith) power
  have aboveLower : (significand - gapBelow significand exponent) * 2 ^ exponent <
      (significand : ℚ) * 2 ^ exponent :=
    mul_lt_mul_of_pos_right (by linarith) power
  -- The two multiples enclose the interval, so it is not wider than a unit.
  have width : (gapBelow significand exponent + 1 / 2) * 2 ^ exponent ≤ (10 : ℚ) ^ unit := by
    rcases not_roundsTo missedBelow with lower | far
    · rcases not_roundsTo missedAbove with near | upper
      · linarith
      · linarith
    · linarith
  have least : 10 ^ 16 * (gapBelow significand exponent + 1 / 2) ≤ (significand : ℚ) := by
    have scaled : 10 ^ 16 * (gapBelow significand exponent + 1 / 2) * 2 ^ exponent ≤
        (significand : ℚ) * 2 ^ exponent := by
      linarith
    exact le_of_mul_le_mul_right scaled power
  unfold gapBelow at least
  split at least
  case isTrue power =>
    rw [power.1] at least
    norm_num at least
  case isFalse =>
    have limit : (significand : ℚ) < 2 ^ 53 := by exact_mod_cast canonical.lt_limit
    norm_num at least limit
    linarith

theorem least_value_le (nonzero : significand ≠ 0) (canonical : Canonical significand exponent) :
    (10 : ℚ) ^ (309 - (640 : Nat) : Int) ≤ significand * 2 ^ exponent := by
  have one : (1 : ℚ) ≤ significand := by exact_mod_cast Nat.one_le_iff_ne_zero.mpr nonzero
  have power : (2 : ℚ) ^ 179 ≤ 10 ^ 54 := by norm_num
  calc (10 : ℚ) ^ (309 - (640 : Nat) : Int) ≤ (10 ^ (-54 : Int)) ^ 6 := by
        rw [← zpow_natCast, ← zpow_mul]
        exact zpow_le_zpow_right₀ (by norm_num) (by norm_num)
    _ ≤ (2 ^ (-179 : Int)) ^ 6 := by
        gcongr
        rw [zpow_neg, zpow_neg]
        exact inv_anti₀ (by positivity) (by exact_mod_cast power)
    _ = 2 ^ leastExponent := by
        rw [← zpow_natCast, ← zpow_mul]
        rfl
    _ ≤ 2 ^ exponent := zpow_le_zpow_right₀ (by norm_num) canonical.least_le
    _ ≤ significand * 2 ^ exponent := le_mul_of_one_le_left (by positivity) one

/-- The decimal that is written for a number rounds to it. -/
theorem roundsTo_shortestDecimal (nonzero : significand ≠ 0)
    (canonical : Canonical significand exponent) (tie : TieRule) :
    (shortestDecimal tie significand exponent).Regular ∧
      RoundsTo significand exponent (shortestDecimal tie significand exponent).value := by
  have value := roundingInterval_value significand exponent
  have reached : (10 : ℚ) ^ (roundingInterval significand exponent).leadingExponent 640 309 ≤
      significand * 2 ^ exponent := by
    rw [← value]
    apply RoundingInterval.ten_zpow_leadingExponent_le
      (roundingInterval_denominator_pos significand exponent)
    exact (least_value_le nonzero canonical).trans_eq value.symm
  unfold shortestDecimal
  dsimp only
  generalize (roundingInterval significand exponent).leadingExponent 640 309 = leading at *
  have fine : 10 ^ 16 * (10 : ℚ) ^ (leading - 16) ≤ significand * 2 ^ exponent := by
    rw [← zpow_natCast, ← zpow_add₀ (by norm_num)]
    simpa using reached
  have found : ∃ count < 17, (roundingInterval significand exponent).nearestMultiple? tie
      (leading - ((1 + count : Nat) - 1)) ≠ none :=
    ⟨16, by decide, nearestMultiple?_ne_none nonzero canonical tie fine⟩
  obtain ⟨multiple, unit, fits, searched⟩ := RoundingInterval.exists_search_eq found
  rw [fits_iff nonzero] at fits
  have positive : 0 < multiple := by
    by_contra zero
    have none : (0 : ℚ) < multiple * 10 ^ unit := fits.pos nonzero
    rw [Nat.eq_zero_of_not_pos zero] at none
    simp at none
  rw [searched, Decimal.value_ofScaled]
  exact ⟨Decimal.regular_ofScaled positive unit, fits⟩

/-! ## Texts -/

/-- The text of a finite number is a numeral that rounds to the number, and it is told apart
from a whole number by a fraction or an exponent. -/
theorem exists_numeral {number : Binary64} {negative : Bool}
    (finite : number.classify = .finite negative significand exponent) :
    ∃ numeral : Numeral, numeral.Regular ∧ numeral.negative = negative ∧
      (numeral.fraction ≠ [] ∨ numeral.exponent ≠ none) ∧
      (FloatStyle.literal.text number).toList = numeral.chars ∧
      (significand = 0 → numeral.magnitude = 0) ∧
      (significand ≠ 0 → RoundsTo significand exponent numeral.magnitude) := by
  have text : (FloatStyle.literal.text number).toList = (if negative then ['-'] else []) ++
      FloatStyle.literal.magnitudeText significand exponent := by
    simp [FloatStyle.text, finite]
  rw [text, FloatStyle.magnitudeText]
  by_cases zero : significand = 0
  · rw [if_pos zero]
    refine ⟨⟨negative, ['0'], ['0'], none⟩, ⟨?_, ?_, ?_⟩, rfl, .inl ?_, rfl, fun _ => ?_,
      fun nonzero => absurd zero nonzero⟩
    · exact List.cons_ne_nil _ _
    · simp
    · simp
    · exact List.cons_ne_nil _ _
    · norm_num [Numeral.magnitude, Nat.ofDigitChars_cons]
  · rw [if_neg zero]
    obtain ⟨regular, rounds⟩ :=
      roundsTo_shortestDecimal zero (bits_of_classify finite).1 FloatStyle.literal.tie
    generalize shortestDecimal FloatStyle.literal.tie significand exponent = decimal at *
    dsimp only
    by_cases plain : FloatStyle.literal.leastPositional ≤ decimal.exponent ∧
        decimal.exponent ≤ FloatStyle.literal.greatestPositional
    · rw [if_pos plain, ← Decimal.chars_positionalNumeral regular]
      refine ⟨_, Decimal.regular_positionalNumeral regular negative, ?_,
        .inl (Decimal.fraction_positionalNumeral_ne_nil regular negative), rfl,
        fun none => absurd none zero, fun _ => ?_⟩
      · exact Decimal.negative_positionalNumeral decimal negative
      · rwa [Decimal.magnitude_positionalNumeral]
    · rw [if_neg plain, ← Decimal.chars_scientificNumeral]
      refine ⟨_, Decimal.regular_scientificNumeral regular negative, rfl,
        .inr (Option.some_ne_none _), rfl, fun none => absurd none zero, fun _ => ?_⟩
      rwa [Decimal.magnitude_scientificNumeral regular]

theorem exists_classify_of_isFinite {number : Binary64} (finite : number.isFinite = true) :
    ∃ negative significand exponent,
      number.classify = .finite negative significand exponent := by
  unfold isFinite at finite
  split at finite
  case h_1 negative significand exponent classified =>
    exact ⟨negative, significand, exponent, classified⟩
  all_goals cases finite

theorem text_injective_of_isFinite {first second : Binary64} (firstFinite : first.isFinite = true)
    (secondFinite : second.isFinite = true)
    (same : FloatStyle.literal.text first = FloatStyle.literal.text second) : first = second := by
  obtain ⟨negative, significand, exponent, classified⟩ := exists_classify_of_isFinite firstFinite
  obtain ⟨otherNegative, other, otherExponent, otherClassified⟩ :=
    exists_classify_of_isFinite secondFinite
  obtain ⟨numeral, regular, rfl, -, chars, ofZero, ofNonzero⟩ := exists_numeral classified
  obtain ⟨otherNumeral, otherRegular, rfl, -, otherChars, ofOtherZero, ofOtherNonzero⟩ :=
    exists_numeral otherClassified
  obtain rfl : numeral = otherNumeral :=
    Numeral.chars_injective regular otherRegular (by rw [← chars, ← otherChars, same])
  obtain ⟨canonical, -⟩ := bits_of_classify classified
  obtain ⟨otherCanonical, -⟩ := bits_of_classify otherClassified
  have parts : significand = other ∧ exponent = otherExponent := by
    by_cases zero : significand = 0
    · by_cases otherZero : other = 0
      · have least := canonical.normal
        have otherLeast := otherCanonical.normal
        omega
      · have positive := (ofOtherNonzero otherZero).pos otherZero
        rw [ofZero zero] at positive
        exact absurd positive (lt_irrefl 0)
    · by_cases otherZero : other = 0
      · have positive := (ofNonzero zero).pos zero
        rw [ofOtherZero otherZero] at positive
        exact absurd positive (lt_irrefl 0)
      · exact (ofNonzero zero).unique canonical otherCanonical (ofOtherNonzero otherZero)
  obtain ⟨rfl, rfl⟩ := parts
  exact classify_injective classified otherClassified

end Sourcewright.Binary64
