import Mathlib.Algebra.Order.Field.Power
import Mathlib.Algebra.Order.Field.Rat
import Mathlib.Tactic.Positivity
import Mathlib.Tactic.FieldSimp
import Mathlib.Tactic.Ring
import Sourcewright.Proofs.Document.Scalars

/-!
# Numerals

A written number consists of a sign, digits before the point, digits behind it and an
exponent, some of which may be missing.  Its text determines these parts, and they determine
a rational number.

The text of a floating point number is a numeral whose magnitude is the decimal that was
chosen for the number, whether it is written positionally or with an exponent.
-/

namespace Sourcewright

/-- The parts of a written number. -/
structure Numeral where
  negative : Bool
  whole : List Char
  fraction : List Char
  exponent : Option Int

namespace Numeral

/-- The point and the digits behind it, if there are any. -/
def fractionChars : List Char → List Char
  | [] => []
  | digit :: digits => '.' :: digit :: digits

def exponentChars : Option Int → List Char
  | none => []
  | some exponent => 'e' :: (wholeText exponent).toList

/-- What is written behind the digits before the point. -/
def tail (numeral : Numeral) : List Char :=
  fractionChars numeral.fraction ++ exponentChars numeral.exponent

def chars (numeral : Numeral) : List Char :=
  (if numeral.negative then ['-'] else []) ++ (numeral.whole ++ numeral.tail)

/-- There are digits before the point, and only digits on both sides of it. -/
structure Regular (numeral : Numeral) : Prop where
  whole_ne_nil : numeral.whole ≠ []
  isDigit_whole : ∀ char ∈ numeral.whole, char.isDigit = true
  isDigit_fraction : ∀ char ∈ numeral.fraction, char.isDigit = true

/-- The number without its sign. -/
def magnitude (numeral : Numeral) : ℚ :=
  Nat.ofDigitChars 10 (numeral.whole ++ numeral.fraction) 0 *
    10 ^ (numeral.exponent.getD 0 - numeral.fraction.length)

/-! ## The text determines the parts -/

theorem takeWhile_isDigit_append {digits tail : List Char}
    (areDigits : ∀ char ∈ digits, char.isDigit = true)
    (ends : ∀ char ∈ tail.head?, char.isDigit = false) :
    (digits ++ tail).takeWhile Char.isDigit = digits := by
  rw [List.takeWhile_append_of_pos areDigits]
  cases tail with
  | nil => rw [List.takeWhile_nil, List.append_nil]
  | cons char tail =>
      have notDigit := ends char rfl
      rw [List.takeWhile_cons_of_neg (by simp [notDigit]), List.append_nil]

/-- Digits end where something else follows. -/
theorem append_inj_of_isDigit {first second tail other : List Char}
    (firstDigits : ∀ char ∈ first, char.isDigit = true)
    (secondDigits : ∀ char ∈ second, char.isDigit = true)
    (tailEnds : ∀ char ∈ tail.head?, char.isDigit = false)
    (otherEnds : ∀ char ∈ other.head?, char.isDigit = false)
    (same : first ++ tail = second ++ other) : first = second ∧ tail = other := by
  have digits : first = second := by
    rw [← takeWhile_isDigit_append firstDigits tailEnds, same,
      takeWhile_isDigit_append secondDigits otherEnds]
  subst digits
  exact ⟨rfl, List.append_cancel_left same⟩

theorem exponentChars_ends (exponent : Option Int) :
    ∀ char ∈ (exponentChars exponent).head?, char.isDigit = false := by
  cases exponent with
  | none => exact nofun
  | some exponent =>
      rintro _ ⟨⟩
      rfl

theorem tail_ends (numeral : Numeral) :
    ∀ char ∈ numeral.tail.head?, char.isDigit = false := by
  unfold tail
  cases numeral.fraction with
  | nil => exact exponentChars_ends numeral.exponent
  | cons digit digits =>
      rintro _ ⟨⟩
      rfl

/-- A sign is told apart from the digits behind it. -/
theorem sign_inj {first second : Bool} {rest other : List Char}
    (restStarts : ∀ char ∈ rest.head?, char.isDigit = true)
    (otherStarts : ∀ char ∈ other.head?, char.isDigit = true)
    (same : (if first then ['-'] else []) ++ rest = (if second then ['-'] else []) ++ other) :
    first = second ∧ rest = other := by
  have minus : ¬ '-'.isDigit = true := by decide
  cases first <;> cases second
  · exact ⟨rfl, same⟩
  · have starts : rest = '-' :: other := same
    exact absurd (restStarts '-' (by rw [starts]; rfl)) minus
  · have starts : other = '-' :: rest := same.symm
    exact absurd (otherStarts '-' (by rw [starts]; rfl)) minus
  · exact ⟨rfl, (List.cons.inj same).2⟩

end Numeral

theorem isDigit_of_mem_digitsOf {value : Nat} {char : Char}
    (member : char ∈ Decimal.digitsOf value) : char.isDigit = true :=
  Nat.isDigit_of_mem_toDigits (by decide) (by decide) member

/-- A whole number ends where something other than a digit follows. -/
theorem wholeText_append_inj {first second : Int} {tail other : List Char}
    (tailEnds : ∀ char ∈ tail.head?, char.isDigit = false)
    (otherEnds : ∀ char ∈ other.head?, char.isDigit = false)
    (same : (wholeText first).toList ++ tail = (wholeText second).toList ++ other) :
    first = second ∧ tail = other := by
  have split (value : Int) : (wholeText value).toList =
      (if decide (value < 0) then ['-'] else []) ++ Decimal.digitsOf value.natAbs := by
    simp [Document.toList_wholeText]
  have areDigits (value : Nat) : ∀ char ∈ Decimal.digitsOf value, char.isDigit = true :=
    fun char member => isDigit_of_mem_digitsOf member
  have starts (value : Nat) (tail : List Char) :
      ∀ char ∈ (Decimal.digitsOf value ++ tail).head?, char.isDigit = true := by
    intro char member
    apply areDigits value
    obtain ⟨digit, digits, listed, -⟩ := Document.digitsOf_eq_cons value
    rw [listed] at member ⊢
    cases member
    exact List.mem_cons_self
  rw [split, split, List.append_assoc, List.append_assoc] at same
  obtain ⟨signs, rest⟩ := Numeral.sign_inj (starts _ _) (starts _ _) same
  obtain ⟨digits, tails⟩ := Numeral.append_inj_of_isDigit (areDigits _) (areDigits _)
    tailEnds otherEnds rest
  have magnitudes := congrArg (Nat.ofDigitChars 10 · 0) digits
  simp only [Decimal.digitsOf, Nat.ofDigitChars_ten_toDigits] at magnitudes
  have sameSign : first < 0 ↔ second < 0 := decide_eq_decide.mp signs
  exact ⟨by omega, tails⟩

theorem wholeText_injective {first second : Int} (same : wholeText first = wholeText second) :
    first = second := by
  have chars : (wholeText first).toList ++ [] = (wholeText second).toList ++ [] := by rw [same]
  exact (wholeText_append_inj (by simp) (by simp) chars).1

namespace Numeral

theorem exponentChars_injective {first second : Option Int}
    (same : exponentChars first = exponentChars second) : first = second := by
  cases first with
  | none =>
      cases second with
      | none => rfl
      | some second => cases same
  | some first =>
      cases second with
      | none => cases same
      | some second =>
          rw [wholeText_injective (String.toList_injective (List.cons.inj same).2)]

theorem tail_injective {first second : Numeral} (firstRegular : first.Regular)
    (secondRegular : second.Regular) (same : first.tail = second.tail) :
    first.fraction = second.fraction ∧ first.exponent = second.exponent := by
  -- A fraction starts with a point, and an exponent does not.
  have noPoint {exponent : Option Int} {rest : List Char}
      (point : exponentChars exponent = '.' :: rest) : False := by
    cases exponent with
    | none => cases point
    | some exponent => exact absurd (List.cons.inj point).1 (by decide)
  have firstDigits := firstRegular.isDigit_fraction
  have secondDigits := secondRegular.isDigit_fraction
  unfold tail at same
  generalize first.fraction = fraction at same firstDigits ⊢
  generalize second.fraction = otherFraction at same secondDigits ⊢
  cases fraction with
  | nil =>
      cases otherFraction with
      | nil => exact ⟨rfl, exponentChars_injective same⟩
      | cons digit digits => exact (noPoint same).elim
  | cons digit digits =>
      cases otherFraction with
      | nil => exact (noPoint same.symm).elim
      | cons other others =>
          obtain ⟨fractions, exponents⟩ := append_inj_of_isDigit firstDigits secondDigits
            (exponentChars_ends _) (exponentChars_ends _) (List.cons.inj same).2
          exact ⟨fractions, exponentChars_injective exponents⟩

theorem chars_injective {first second : Numeral} (firstRegular : first.Regular)
    (secondRegular : second.Regular) (same : first.chars = second.chars) : first = second := by
  have starts {numeral : Numeral} (regular : numeral.Regular) :
      ∀ char ∈ (numeral.whole ++ numeral.tail).head?, char.isDigit = true := by
    intro char member
    obtain ⟨digit, digits, listed⟩ := List.exists_cons_of_ne_nil regular.whole_ne_nil
    rw [listed] at member
    cases member
    exact regular.isDigit_whole char (listed ▸ List.mem_cons_self)
  obtain ⟨signs, rest⟩ := sign_inj (starts firstRegular) (starts secondRegular) same
  obtain ⟨wholes, tails⟩ := append_inj_of_isDigit firstRegular.isDigit_whole
    secondRegular.isDigit_whole first.tail_ends second.tail_ends rest
  obtain ⟨fractions, exponents⟩ := tail_injective firstRegular secondRegular tails
  cases first
  cases second
  simp_all

end Numeral

/-! ## Numerals of decimals -/

namespace Decimal

/-- The rational number that a decimal denotes. -/
def value (decimal : Decimal) : ℚ :=
  Nat.ofDigitChars 10 decimal.digits 0 * 10 ^ (decimal.exponent + 1 - decimal.digits.length)

/-- A decimal has digits, and nothing else for digits. -/
structure Regular (decimal : Decimal) : Prop where
  digits_ne_nil : decimal.digits ≠ []
  isDigit_digits : ∀ char ∈ decimal.digits, char.isDigit = true

/-- The decimal written without an exponent. -/
def positionalNumeral (negative : Bool) (decimal : Decimal) : Numeral :=
  if decimal.exponent < 0 then
    ⟨negative, ['0'], List.replicate (decimal.exponent.natAbs - 1) '0' ++ decimal.digits, none⟩
  else
    let whole := decimal.exponent.natAbs + 1
    let fraction := decimal.digits.drop whole
    ⟨negative,
      decimal.digits.take whole ++ List.replicate (whole - decimal.digits.length) '0',
      if fraction.isEmpty then ['0'] else fraction, none⟩

/-- The decimal written with an exponent. -/
def scientificNumeral (negative : Bool) (decimal : Decimal) : Numeral :=
  ⟨negative, decimal.digits.take 1, decimal.digits.drop 1, some decimal.exponent⟩

@[simp]
theorem negative_positionalNumeral (decimal : Decimal) (negative : Bool) :
    (decimal.positionalNumeral negative).negative = negative := by
  unfold positionalNumeral
  split <;> rfl

theorem regular_positionalNumeral {decimal : Decimal} (regular : decimal.Regular)
    (negative : Bool) : (decimal.positionalNumeral negative).Regular := by
  obtain ⟨nonempty, areDigits⟩ := regular
  have zeros (count : Nat) : ∀ char ∈ List.replicate count '0', char.isDigit = true := by
    intro char member
    rw [List.eq_of_mem_replicate member]
    rfl
  have zero : ∀ char ∈ ['0'], char.isDigit = true := List.forall_mem_singleton.mpr rfl
  unfold positionalNumeral
  split
  · exact ⟨nofun, zero, List.forall_mem_append.mpr ⟨zeros _, areDigits⟩⟩
  · refine ⟨?_, List.forall_mem_append.mpr
      ⟨fun char member => areDigits char (List.mem_of_mem_take member), zeros _⟩, ?_⟩
    · intro empty
      have taken := (List.append_eq_nil_iff.mp empty).1
      simp [nonempty] at taken
    · dsimp only
      split
      · exact zero
      · exact fun char member => areDigits char (List.mem_of_mem_drop member)

theorem regular_scientificNumeral {decimal : Decimal} (regular : decimal.Regular)
    (negative : Bool) : (decimal.scientificNumeral negative).Regular := by
  obtain ⟨nonempty, areDigits⟩ := regular
  refine ⟨?_, fun char member => areDigits char (List.mem_of_mem_take member),
    fun char member => areDigits char (List.mem_of_mem_drop member)⟩
  simp [scientificNumeral, nonempty]

theorem ofDigitChars_zeros_append (count : Nat) (digits : List Char) :
    Nat.ofDigitChars 10 (List.replicate count '0' ++ digits) 0 = Nat.ofDigitChars 10 digits 0 := by
  rw [Nat.ofDigitChars_append, Nat.ofDigitChars_replicate_zero, Nat.mul_zero]

theorem ofDigitChars_append_zeros (digits : List Char) (count : Nat) :
    Nat.ofDigitChars 10 (digits ++ List.replicate count '0') 0 =
      10 ^ count * Nat.ofDigitChars 10 digits 0 := by
  rw [Nat.ofDigitChars_append, Nat.ofDigitChars_replicate_zero]

theorem magnitude_positionalNumeral (decimal : Decimal) (negative : Bool) :
    (decimal.positionalNumeral negative).magnitude = decimal.value := by
  unfold positionalNumeral
  split
  case isTrue small =>
    have digits := ofDigitChars_zeros_append (decimal.exponent.natAbs - 1 + 1) decimal.digits
    rw [List.replicate_succ, List.cons_append] at digits
    simp only [Numeral.magnitude, List.singleton_append, digits, value, Option.getD_none,
      List.length_append, List.length_replicate]
    congr 2
    omega
  case isFalse large =>
    dsimp only
    by_cases short : decimal.digits.length ≤ decimal.exponent.natAbs + 1
    · -- The zero behind the point is one more of the zeros that fill the places.
      have digits := ofDigitChars_append_zeros decimal.digits
        (decimal.exponent.natAbs + 1 - decimal.digits.length + 1)
      rw [List.replicate_succ', ← List.append_assoc] at digits
      simp only [Numeral.magnitude, List.take_of_length_le short, List.drop_of_length_le short,
        List.isEmpty_nil, if_true, digits, value, Option.getD_none, List.length_singleton]
      push_cast
      rw [← zpow_natCast, mul_comm ((10 : ℚ) ^ _), mul_assoc, ← zpow_add₀ (by norm_num)]
      congr 2
      omega
    · have fraction : (decimal.digits.drop (decimal.exponent.natAbs + 1)).isEmpty = false := by
        simp only [List.isEmpty_eq_false_iff, ne_eq, List.drop_eq_nil_iff]
        omega
      have noZeros : decimal.exponent.natAbs + 1 - decimal.digits.length = 0 := by omega
      simp only [Numeral.magnitude, fraction, noZeros, List.replicate_zero, List.append_nil,
        Bool.false_eq_true, if_false, List.take_append_drop, value, Option.getD_none,
        List.length_drop]
      congr 2
      omega

theorem magnitude_scientificNumeral {decimal : Decimal} (regular : decimal.Regular)
    (negative : Bool) : (decimal.scientificNumeral negative).magnitude = decimal.value := by
  have length : 0 < decimal.digits.length := List.length_pos_of_ne_nil regular.digits_ne_nil
  simp only [Numeral.magnitude, scientificNumeral, List.take_append_drop, Option.getD_some,
    List.length_drop, value]
  congr 2
  omega

theorem fraction_positionalNumeral_ne_nil {decimal : Decimal} (regular : decimal.Regular)
    (negative : Bool) : (decimal.positionalNumeral negative).fraction ≠ [] := by
  unfold positionalNumeral
  split
  · exact List.append_ne_nil_of_right_ne_nil _ regular.digits_ne_nil
  · dsimp only
    split
    case isTrue => exact List.cons_ne_nil _ _
    case isFalse nonempty => exact fun empty => nonempty (List.isEmpty_iff.mpr empty)

theorem chars_positionalNumeral {decimal : Decimal} (regular : decimal.Regular)
    (negative : Bool) : (decimal.positionalNumeral negative).chars =
      (if negative then ['-'] else []) ++ FloatStyle.positional decimal := by
  have point {fraction : List Char} (nonempty : fraction ≠ []) :
      Numeral.fractionChars fraction = '.' :: fraction := by
    obtain ⟨digit, digits, rfl⟩ := List.exists_cons_of_ne_nil nonempty
    rfl
  rw [Numeral.chars, Numeral.tail, point (fraction_positionalNumeral_ne_nil regular negative)]
  unfold positionalNumeral FloatStyle.positional
  split
  · simp [Numeral.exponentChars]
  · simp only [Numeral.exponentChars, List.append_nil]

theorem chars_scientificNumeral (decimal : Decimal) (negative : Bool) :
    (decimal.scientificNumeral negative).chars =
      (if negative then ['-'] else []) ++ FloatStyle.literal.scientific decimal := by
  have noPlus : (if decimal.exponent < 0 then "" else FloatStyle.literal.plusSign) = "" :=
    ite_self _
  have point (fraction : List Char) : Numeral.fractionChars fraction =
      if fraction.isEmpty then [] else '.' :: fraction := by
    cases fraction <;> rfl
  have body : decimal.digits.take 1 ++ (decimal.scientificNumeral negative).tail =
      FloatStyle.literal.scientific decimal := by
    simp only [Numeral.tail, scientificNumeral, Numeral.exponentChars, point,
      FloatStyle.scientific, noPlus, String.toList_empty, List.append_assoc,
      List.cons_append, List.nil_append]
  exact congrArg _ body

/-! ## Decimals of scaled whole numbers -/

theorem exists_dropTrailingZeros (digits : List Char) :
    ∃ count, digits = dropTrailingZeros digits ++ List.replicate count '0' := by
  let zeros := digits.reverse.takeWhile (· == '0')
  have onlyZeros : zeros = List.replicate zeros.length '0' := by
    rw [List.eq_replicate_iff]
    refine ⟨rfl, fun char member => ?_⟩
    have zero := List.all_eq_true.mp List.all_takeWhile char member
    exact beq_iff_eq.mp zero
  refine ⟨zeros.length, ?_⟩
  calc
    digits = (zeros ++ digits.reverse.dropWhile (· == '0')).reverse := by
      rw [List.takeWhile_append_dropWhile, List.reverse_reverse]
    _ = dropTrailingZeros digits ++ zeros.reverse := List.reverse_append
    _ = dropTrailingZeros digits ++ List.replicate zeros.length '0' := by
      rw [onlyZeros, List.reverse_replicate, List.length_replicate]

/-- The zeros that are dropped from the digits of a number are a power of ten. -/
theorem ofDigitChars_dropTrailingZeros (scaled : Nat) :
    ∃ count, 10 ^ count * Nat.ofDigitChars 10 (dropTrailingZeros (digitsOf scaled)) 0 = scaled ∧
      (dropTrailingZeros (digitsOf scaled)).length + count = (digitsOf scaled).length := by
  obtain ⟨count, split⟩ := exists_dropTrailingZeros (digitsOf scaled)
  refine ⟨count, ?_, ?_⟩
  · rw [← ofDigitChars_append_zeros, ← split]
    exact Nat.ofDigitChars_ten_toDigits
  · have lengths := congrArg List.length split
    rw [List.length_append, List.length_replicate] at lengths
    exact lengths.symm

theorem regular_ofScaled {scaled : Nat} (positive : 0 < scaled) (unit : Int) :
    (ofScaled scaled unit).Regular := by
  constructor
  · intro empty
    obtain ⟨count, digits, -⟩ := ofDigitChars_dropTrailingZeros scaled
    change dropTrailingZeros (digitsOf scaled) = [] at empty
    rw [empty, Nat.ofDigitChars_nil, Nat.mul_zero] at digits
    omega
  · intro char member
    obtain ⟨count, split⟩ := exists_dropTrailingZeros (digitsOf scaled)
    have listed : char ∈ digitsOf scaled := by
      rw [split]
      exact List.mem_append_left _ member
    exact isDigit_of_mem_digitsOf listed

theorem value_ofScaled (scaled : Nat) (unit : Int) :
    (ofScaled scaled unit).value = scaled * 10 ^ unit := by
  obtain ⟨count, digits, lengths⟩ := ofDigitChars_dropTrailingZeros scaled
  have exponents : unit + ((digitsOf scaled).length - 1) + 1 -
      (dropTrailingZeros (digitsOf scaled)).length = count + unit := by
    omega
  have whole : (10 : ℚ) ^ count * Nat.ofDigitChars 10 (dropTrailingZeros (digitsOf scaled)) 0 =
      scaled := by
    exact_mod_cast digits
  simp only [value, ofScaled, exponents]
  rw [zpow_add₀ (by norm_num), zpow_natCast, ← mul_assoc, mul_comm (Nat.cast _), whole]

end Decimal

end Sourcewright
