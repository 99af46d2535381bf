import Sourcewright.Proofs.Emission.Words

/-!
# Integer constants as compilers read them

No target has literals for negative integers.  What is written for one is a minus sign and the
literal of its magnitude, and a compiler looks at the literal first.  In Java a literal may
reach one further right behind a minus sign, and it has 32 bits unless it is marked; in C++ it
has to be in range by itself.

Main statement: every integer constant is read as the integer it was written for, and its
literal is accepted by the target, with one exception.  The magnitude of the least integer is
out of range in C++, and no other literal could stand for it.
-/

namespace Sourcewright.Emission

/-- A literal with or without a minus sign in front of it. -/
structure SignedLiteral where
  negated : Bool
  magnitude : Nat
  /-- Whether the literal is marked as one of 64 bits. -/
  long : Bool
deriving DecidableEq

namespace SignedLiteral

def value (literal : SignedLiteral) : Int :=
  if literal.negated then -literal.magnitude else literal.magnitude

/-- The first magnitude that is out of range for a number of bits with a sign. -/
def bound : (long : Bool) → Nat
  | false => Nat.pow 2 31
  | true => Nat.pow 2 63

/-- Whether a target accepts a literal at its place. -/
def Legal : Target → SignedLiteral → Prop
  | .cpp, literal => literal.long = false ∧ literal.magnitude < bound true
  | .java, literal => literal.magnitude < bound literal.long ∨
      literal.negated = true ∧ literal.magnitude = bound literal.long

instance (target : Target) (literal : SignedLiteral) : Decidable (literal.Legal target) :=
  match target with
  | .cpp => inferInstanceAs (Decidable (_ ∧ _))
  | .java => inferInstanceAs (Decidable (_ ∨ _ ∧ _))

/-- Digits are decimal if they do not start with a zero that belongs to a longer literal. -/
def isDecimal (digits : List Char) : Bool :=
  digits == ['0'] || digits.head?.any (· != '0')

/-- A literal behind its sign. -/
def readUnsigned? (negated : Bool) (text : List Char) : Option SignedLiteral :=
  let digits := text.takeWhile Char.isDigit
  let magnitude := Nat.ofDigitChars 10 digits 0
  if isDecimal digits then
    match text.dropWhile Char.isDigit with
    | [] => some ⟨negated, magnitude, false⟩
    | ['L'] => some ⟨negated, magnitude, true⟩
    | _ => none
  else
    none

/-- The decimal literal that a text consists of, with its sign. -/
def read? : List Char → Option SignedLiteral
  | '-' :: text => readUnsigned? true text
  | text => readUnsigned? false text

end SignedLiteral

def markOf (long : Bool) : List Char :=
  if long then ['L'] else []

open SignedLiteral

theorem isDecimal_digitsOf (value : Nat) : isDecimal (Decimal.digitsOf value) = true := by
  rcases Nat.eq_zero_or_pos value with rfl | positive
  · rfl
  · obtain ⟨first, rest, digits, notZero⟩ := Document.head_digitsOf positive
    simp [isDecimal, digits, notZero]

theorem readUnsigned?_digitsOf (negated : Bool) (magnitude : Nat) (long : Bool) :
    readUnsigned? negated (Decimal.digitsOf magnitude ++ markOf long) =
      some ⟨negated, magnitude, long⟩ := by
  have areDigits : ∀ char ∈ Decimal.digitsOf magnitude, char.isDigit = true :=
    fun char member => isDigit_of_mem_digitsOf member
  have ends : ∀ char ∈ (markOf long).head?, char.isDigit = false := by
    cases long with
    | false => exact nofun
    | true =>
        rintro _ ⟨⟩
        rfl
  have behind : (markOf long).dropWhile Char.isDigit = markOf long := by
    cases long <;> rfl
  have digitsValue : Nat.ofDigitChars 10 (Decimal.digitsOf magnitude) 0 = magnitude :=
    Nat.ofDigitChars_ten_toDigits
  rw [readUnsigned?, Numeral.takeWhile_isDigit_append areDigits ends,
    List.dropWhile_append_of_pos areDigits, behind, isDecimal_digitsOf, digitsValue]
  cases long <;> rfl

theorem read?_wholeText (value : Int) (long : Bool) :
    read? ((wholeText value).toList ++ markOf long) =
      some ⟨decide (value < 0), value.natAbs, long⟩ := by
  rw [Document.toList_wholeText]
  by_cases negative : value < 0
  · rw [if_pos negative, decide_eq_true negative]
    exact readUnsigned?_digitsOf true value.natAbs long
  · rw [if_neg negative, decide_eq_false negative, List.nil_append,
      ← readUnsigned?_digitsOf false value.natAbs long]
    obtain ⟨first, rest, digits, digit⟩ := Document.digitsOf_eq_cons value.natAbs
    have noMinus : first ≠ '-' := (Document.not_isSpace_of_isDigit digit).2
    rw [digits, List.cons_append, read?]
    rintro _ ⟨⟩
    exact noMinus rfl

/-- Whether the literal of an integer is marked. -/
def isMarked : Target → Int64 → Bool
  | .cpp, _ => false
  | .java, value => !decide (-2147483648 ≤ value.toInt ∧ value.toInt ≤ 2147483647)

theorem longMark_eq (target : Target) (value : Int64) :
    longMark target value = markOf (isMarked target value) := by
  cases target with
  | cpp => rfl
  | java =>
      rw [longMark, isMarked, markOf]
      split <;> simp_all

theorem read?_integerText (target : Target) (value : Int64) :
    read? (target.integerText value).toList =
      some ⟨decide (value.toInt < 0), value.toInt.natAbs, isMarked target value⟩ := by
  rw [toList_integerText, longMark_eq, read?_wholeText]

theorem value_of_natAbs (value : Int) (long : Bool) :
    SignedLiteral.value ⟨decide (value < 0), value.natAbs, long⟩ = value := by
  by_cases negative : value < 0
  · simp only [SignedLiteral.value, negative, decide_true, if_true]
    omega
  · simp only [SignedLiteral.value, negative, decide_false, Bool.false_eq_true, if_false]
    omega

theorem eq_minValue_iff (value : Int64) :
    value = Int64.minValue ↔ ¬value.toInt.natAbs < bound true := by
  have lower : -2 ^ 63 ≤ value.toInt := value.le_toInt
  have upper : value.toInt < 2 ^ 63 := value.toInt_lt
  have least : Int64.minValue.toInt = -2 ^ 63 := Int64.toInt_minValue
  have first : bound true = 9223372036854775808 := rfl
  rw [← Int64.toInt_inj]
  omega

theorem legal_cpp_iff (value : Int64) :
    Legal .cpp ⟨decide (value.toInt < 0), value.toInt.natAbs, false⟩ ↔
      value ≠ Int64.minValue := by
  rw [Ne, eq_minValue_iff, Classical.not_not]
  exact and_iff_right rfl

theorem legal_java (value : Int64) :
    Legal .java ⟨decide (value.toInt < 0), value.toInt.natAbs, isMarked .java value⟩ := by
  have lower : -2 ^ 63 ≤ value.toInt := value.le_toInt
  have upper : value.toInt < 2 ^ 63 := value.toInt_lt
  have short : bound false = 2147483648 := rfl
  have long : bound true = 9223372036854775808 := rfl
  by_cases fits : -2147483648 ≤ value.toInt ∧ value.toInt ≤ 2147483647
  · have unmarked : isMarked .java value = false := by simp [isMarked, fits]
    simp only [Legal, unmarked, decide_eq_true_eq]
    omega
  · have marked : isMarked .java value = true := by simp [isMarked, fits]
    simp only [Legal, marked, decide_eq_true_eq]
    omega

/-- Without the least integer, C++ has a literal for every integer; for the least integer it
has none. -/
theorem value_ne_minValue_of_legal {literal : SignedLiteral} (legal : literal.Legal .cpp) :
    literal.value ≠ Int64.minValue.toInt := by
  have inRange := legal.2
  have long : bound true = 9223372036854775808 := rfl
  have least : Int64.minValue.toInt = -2 ^ 63 := Int64.toInt_minValue
  rw [SignedLiteral.value]
  split <;> omega

/-- An integer constant is read as the integer it was written for.  Its literal is accepted by
the target, except for that of the least integer in C++, for which there is no literal that
would be. -/
theorem integer_reads_back (target : Target) (value : Int64) (writer : Writer) :
    (expr target (.literal (.integer value))).run writer =
      (writer.write (target.integerText value), none) ∧
    (∃ literal, SignedLiteral.read? (target.integerText value).toList = some literal ∧
      literal.value = value.toInt ∧
      (literal.Legal target ↔ ¬(target = .cpp ∧ value = Int64.minValue))) ∧
    ∀ literal : SignedLiteral, literal.Legal .cpp → literal.value ≠ Int64.minValue.toInt := by
  refine ⟨rfl, ⟨_, read?_integerText target value, value_of_natAbs value.toInt _, ?_⟩, ?_⟩
  · cases target with
    | cpp =>
        rw [isMarked, legal_cpp_iff]
        simp
    | java => simp [legal_java]
  · intro literal legal
    exact value_ne_minValue_of_legal legal

example (target : Target) :
    (SignedLiteral.read? (target.integerText Int64.minValue).toList).any (·.Legal target) =
      decide (target = .java) := by
  cases target <;> decide +kernel

end Sourcewright.Emission
