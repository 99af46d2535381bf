import Mathlib.Tactic.SplitIfs
import Sourcewright.Document.Reader

/-!
# Reading scalars back

The written forms of integers, truth values and `null` are read back.  An integer has to be
followed by something that does not continue a number.  Of the characters of a text it is said
how each of them is written.
-/

namespace Sourcewright.Document

/-! ## Texts -/

theorem hexQuad?_digitChar {code : Nat} (control : code < 0x20) :
    hexQuad? '0' '0' (Nat.digitChar (code / 16)) (Nat.digitChar (code % 16)) = some code := by
  revert code
  decide

/-- A backslash and an escape that stands for a character are read as that character. -/
theorem scanText_backslash {escape rest : List Char} {meaning : Char}
    (scanned : scanEscape escape = .ok (meaning, rest)) :
    scanText ('\\' :: escape) =
      (scanText rest).map fun read => (meaning :: read.1, read.2) := by
  rw [scanText, if_neg (by decide), if_pos rfl]
  split
  case h_1 fault failed => cases scanned.symm.trans failed
  case h_2 found after succeeded =>
    cases scanned.symm.trans succeeded
    cases scanText rest <;> rfl

/-- A character is written behind a backslash, by its code, or as it is. -/
theorem escapedChar_cases (char : Char) :
    (∃ mark, simpleEscape? mark = some char ∧ escapedChar char = ['\\', mark]) ∨
    (char.toNat < 0x20 ∧ escapedChar char = ['\\', 'u', '0', '0',
      Nat.digitChar (char.toNat / 16), Nat.digitChar (char.toNat % 16)]) ∨
    (char ≠ '"' ∧ char ≠ '\\' ∧ ¬ char.toNat < 0x20 ∧ escapedChar char = [char]) := by
  unfold escapedChar
  split_ifs with quote backslash backspace formFeed newline carriageReturn tab control
  · exact .inl ⟨'"', by rw [quote]; rfl, rfl⟩
  · exact .inl ⟨'\\', by rw [backslash]; rfl, rfl⟩
  · exact .inl ⟨'b', backspace ▸ rfl, rfl⟩
  · exact .inl ⟨'f', formFeed ▸ rfl, rfl⟩
  · exact .inl ⟨'n', newline ▸ rfl, rfl⟩
  · exact .inl ⟨'r', carriageReturn ▸ rfl, rfl⟩
  · exact .inl ⟨'t', tab ▸ rfl, rfl⟩
  · exact .inr (.inl ⟨control, rfl⟩)
  · exact .inr (.inr ⟨quote, backslash, control, rfl⟩)

/-! ## Numbers -/

/-- What may follow a value in a document. -/
def Ends (rest : List Char) : Prop :=
  ∀ char ∈ rest.head?, isSpace char = true ∨ char ∈ [',', ']', '\x7d']

theorem Ends.nil : Ends [] :=
  fun _ member => nomatch member

theorem Ends.cons {char : Char} (ending : char ∈ [',', ']', '\x7d']) (rest : List Char) :
    Ends (char :: rest) := by
  rintro _ ⟨⟩
  exact .inr ending

/-- Digits whose value fits are all taken into the significand. -/
theorem absorbDigits_eq {digits : List Char} {significand : Nat}
    (fits : Nat.ofDigitChars 10 digits significand ≤ greatestSignificand) :
    absorbDigits significand digits = (Nat.ofDigitChars 10 digits significand, []) := by
  induction digits generalizing significand with
  | nil => rfl
  | cons digit digits ih =>
      have step : Nat.ofDigitChars 10 (digit :: digits) significand =
          Nat.ofDigitChars 10 digits (significand * 10 + digitValue digit) := by
        rw [Nat.ofDigitChars_cons, Nat.mul_comm]
        rfl
      rw [step] at fits ⊢
      have larger : significand * 10 + digitValue digit ≤ greatestSignificand := by
        rw [Nat.ofDigitChars_eq_ofDigitChars_zero] at fits
        calc significand * 10 + digitValue digit
            ≤ 10 ^ digits.length * (significand * 10 + digitValue digit) :=
              Nat.le_mul_of_pos_left _ (Nat.pow_pos (by decide))
          _ ≤ greatestSignificand := by omega
      rw [absorbDigits, if_pos larger, ih fits]

theorem isDigit_eq (char : Char) : isDigit char = char.isDigit := by
  rw [Bool.eq_iff_iff]
  simp only [isDigit, Char.isDigit, Bool.and_eq_true, decide_eq_true_eq]
  exact Iff.rfl

theorem isDigit_of_mem_digitsOf {value : Nat} {char : Char}
    (member : char ∈ Decimal.digitsOf value) : isDigit char = true := by
  rw [isDigit_eq]
  exact Nat.isDigit_of_mem_toDigits (by decide) (by decide) member

theorem digitChar_ne_zero {value : Nat} (small : value < 10) (positive : 0 < value) :
    Nat.digitChar value ≠ '0' := by
  revert value
  decide

/-- The digits of a positive number do not start with a zero. -/
theorem head_digitsOf {value : Nat} (positive : 0 < value) :
    ∃ first rest, Decimal.digitsOf value = first :: rest ∧ first ≠ '0' := by
  simp only [Decimal.digitsOf]
  induction value using Nat.base_induction 10 (by decide) with
  | single value small =>
      exact ⟨_, _, Nat.toDigits_of_lt_base small, digitChar_ne_zero small positive⟩
  | digit leading last small leadingPositive ih =>
      obtain ⟨first, rest, digits, notZero⟩ := ih leadingPositive
      refine ⟨first, rest ++ Nat.toDigits 10 last, ?_, notZero⟩
      rw [← Nat.toDigits_append_toDigits (by decide) leadingPositive small, digits,
        List.cons_append]

/-- What ends a value does not continue a number. -/
theorem Ends.not_continues {rest : List Char} (ends : Ends rest) :
    rest.head?.any isDigit = false ∧ rest.head?.any isExponentMark = false ∧
      rest.head? ≠ some '.' := by
  cases rest with
  | nil => exact ⟨rfl, rfl, nofun⟩
  | cons char rest =>
      have ending := ends char rfl
      simp only [isSpace, Bool.or_eq_true, beq_iff_eq, List.mem_cons, List.not_mem_nil,
        or_false] at ending
      rcases ending with (((rfl | rfl) | rfl) | rfl) | rfl | rfl | rfl <;>
        exact ⟨rfl, rfl, by simp⟩

theorem finishWhole_eq {digits : List Char} (negative : Bool)
    (fits : Nat.ofDigitChars 10 digits 0 ≤ greatestSignificand)
    {rest : List Char} (ends : Ends rest) :
    finishWhole negative digits rest =
      .ok (integerOfParts negative (Nat.ofDigitChars 10 digits 0), rest) := by
  obtain ⟨-, noExponent, noPoint⟩ := ends.not_continues
  unfold finishWhole
  rw [absorbDigits_eq fits]
  split
  · exact absurd rfl noPoint
  · simp [noExponent]

theorem dropWhile_isDigit_of_ends {rest : List Char} (ends : Ends rest) :
    rest.dropWhile isDigit = rest ∧ rest.takeWhile isDigit = [] := by
  have noDigit := ends.not_continues.1
  cases rest with
  | nil => exact ⟨rfl, rfl⟩
  | cons char rest =>
      simp only [List.head?_cons, Option.any_some] at noDigit
      simp [noDigit]

theorem scanMagnitude_digitsOf {value : Nat} (fits : value ≤ greatestSignificand)
    (negative : Bool) {rest : List Char} (ends : Ends rest) :
    scanMagnitude negative (Decimal.digitsOf value ++ rest) =
      .ok (integerOfParts negative value, rest) := by
  have noDigit := ends.not_continues.1
  have digitsValue : Nat.ofDigitChars 10 (Decimal.digitsOf value) 0 = value :=
    Nat.ofDigitChars_ten_toDigits
  rcases Nat.eq_zero_or_pos value with rfl | positive
  · have digits : Decimal.digitsOf 0 = ['0'] := rfl
    rw [digits] at digitsValue ⊢
    rw [List.singleton_append, scanMagnitude, if_pos rfl, noDigit, if_neg Bool.false_ne_true,
      finishWhole_eq negative (digitsValue ▸ fits) ends, digitsValue]
  · obtain ⟨first, further, digits, notZero⟩ := head_digitsOf positive
    have areDigits : ∀ char ∈ first :: further, isDigit char = true :=
      fun char member => isDigit_of_mem_digitsOf (digits ▸ member)
    obtain ⟨firstDigit, furtherDigits⟩ := List.forall_mem_cons.mp areDigits
    obtain ⟨dropped, taken⟩ := dropWhile_isDigit_of_ends ends
    rw [digits] at digitsValue ⊢
    rw [List.cons_append, scanMagnitude, if_neg notZero, if_pos firstDigit,
      List.takeWhile_append_of_pos furtherDigits, List.dropWhile_append_of_pos furtherDigits,
      dropped, taken, List.append_nil, finishWhole_eq negative (digitsValue ▸ fits) ends,
      digitsValue]

theorem not_isSpace_of_isDigit {char : Char} (digit : isDigit char = true) :
    isSpace char = false ∧ char ≠ '-' := by
  constructor
  · rw [Bool.eq_false_iff]
    intro space
    simp only [isSpace, Bool.or_eq_true, beq_iff_eq] at space
    rcases space with ((rfl | rfl) | rfl) | rfl <;> exact absurd digit (by decide)
  · rintro rfl
    exact absurd digit (by decide)

theorem digitsOf_eq_cons (value : Nat) :
    ∃ first rest, Decimal.digitsOf value = first :: rest ∧ isDigit first = true := by
  obtain ⟨first, rest, digits⟩ := List.exists_cons_of_ne_nil
    (Nat.toDigits_ne_nil : Nat.toDigits 10 value ≠ [])
  exact ⟨first, rest, digits, isDigit_of_mem_digitsOf (digits ▸ List.mem_cons_self)⟩

theorem toList_wholeText (value : Int) :
    (wholeText value).toList =
      (if value < 0 then ['-'] else []) ++ Decimal.digitsOf value.natAbs := by
  unfold wholeText
  split <;> simp

/-- A written whole number starts as numbers do. -/
theorem wholeText_eq_cons (value : Int) :
    ∃ first rest, (wholeText value).toList = first :: rest ∧
      isSpace first = false ∧ (first == '-' || isDigit first) = true := by
  obtain ⟨first, rest, digits, digit⟩ := digitsOf_eq_cons value.natAbs
  rw [toList_wholeText, digits]
  split
  · exact ⟨'-', first :: rest, rfl, rfl, rfl⟩
  · exact ⟨first, rest, rfl, (not_isSpace_of_isDigit digit).1, by simp [digit]⟩

theorem scanNumber_wholeText {value : Int} (fits : value.natAbs ≤ greatestSignificand)
    {rest : List Char} (ends : Ends rest) :
    scanNumber ((wholeText value).toList ++ rest) =
      .ok (integerOfParts (value < 0) value.natAbs, rest) := by
  rw [toList_wholeText]
  by_cases negative : value < 0
  · simpa [scanNumber, negative] using scanMagnitude_digitsOf fits true ends
  · obtain ⟨first, further, digits, digit⟩ := digitsOf_eq_cons value.natAbs
    have scanned := scanMagnitude_digitsOf fits false ends
    rw [digits, List.cons_append] at scanned
    rw [if_neg negative, List.nil_append, digits, List.cons_append, scanNumber]
    · simpa [negative] using scanned
    · rintro _ ⟨⟩
      exact (not_isSpace_of_isDigit digit).2 rfl

/-- A written integer is read back. -/
theorem readInteger_chars (value : Int64) {rest : List Char} (ends : Ends rest) :
    readInteger ((Value.integer value).chars ++ rest) = .ok (.integer value, rest) := by
  have upper : value.toInt < 2 ^ 63 := value.toInt_lt
  have lower : -2 ^ 63 ≤ value.toInt := value.le_toInt
  have half : Nat.pow 2 63 = 9223372036854775808 := rfl
  -- Both signs have digits that fit, so no exponent is needed.
  have fits : value.toInt.natAbs ≤ greatestSignificand := by
    have greatest : greatestSignificand = 18446744073709551615 := rfl
    omega
  have scanned := scanNumber_wholeText fits ends
  obtain ⟨first, further, chars, notSpace, starts⟩ := wholeText_eq_cons value.toInt
  have start : skipSpace ((wholeText value.toInt).toList ++ rest) =
      (wholeText value.toInt).toList ++ rest := by
    rw [chars, List.cons_append, skipSpace, List.dropWhile_cons_of_neg (by simp [notSpace])]
  have startsWell : startsNumber ((wholeText value.toInt).toList ++ rest) = true := by
    rw [chars]
    exact starts
  simp only [Value.chars, readInteger, start, startsWell, if_true, scanned, bind, Except.bind]
  by_cases negative : value.toInt < 0
  · have magnitude : 1 ≤ value.toInt.natAbs ∧ value.toInt.natAbs ≤ Nat.pow 2 63 := by omega
    have opposite : -(value.toInt.natAbs : Int) = value.toInt := by omega
    simp only [integerOfParts, negative, decide_true, if_true, magnitude, and_self, opposite,
      Int64.ofInt_toInt]
    rfl
  · have small : value.toInt.natAbs < Nat.pow 2 63 := by omega
    have same : (value.toInt.natAbs : Int) = value.toInt := by omega
    simp only [integerOfParts, negative, decide_false, Bool.false_eq_true, if_false, small,
      if_true, ← Int64.ofInt_eq_ofNat, same, Int64.ofInt_toInt]
    rfl

/-! ## Other scalars -/

theorem scanLetters_append (letters rest : List Char) :
    scanLetters letters (letters ++ rest) = .ok rest := by
  induction letters with
  | nil => rfl
  | cons letter letters ih => rw [List.cons_append, scanLetters, if_pos rfl, ih]

/-- A written truth value is read back. -/
theorem readTruth_chars (value : Bool) (rest : List Char) :
    readTruth ((Value.truth value).chars ++ rest) = .ok (.truth value, rest) := by
  cases value with
  | true =>
      have start : skipSpace ((Value.truth true).chars ++ rest) = 't' :: ("rue".toList ++ rest) :=
        rfl
      simp only [readTruth, start, scanLetters_append, bind, Except.bind]
      rfl
  | false =>
      have start : skipSpace ((Value.truth false).chars ++ rest) =
          'f' :: ("alse".toList ++ rest) :=
        rfl
      simp only [readTruth, start, scanLetters_append, bind, Except.bind]
      rfl

/-- A written `null` is read back where it is accepted. -/
theorem readNullable_null (read : Reader Value) (rest : List Char) :
    readNullable true read (Value.null.chars ++ rest) = .ok (.null, rest) := by
  have start : skipSpace (Value.null.chars ++ rest) = 'n' :: ("ull".toList ++ rest) :=
    rfl
  simp only [readNullable, start, scanLetters_append, bind, Except.bind, if_true]
  rfl

end Sourcewright.Document
