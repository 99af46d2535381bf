import Mathlib.Tactic.Tauto
import Sourcewright.Proofs.Emission.Inline
import Sourcewright.Proofs.Number.Rounding

/-!
# Words

The words of an expression are its names, its constants and the spellings of its types.  A
name consists of letters, digits and a few other characters, does not start with a digit, and
is not the word of a constant.

Different constants are written differently: numbers differ from names in their first
character, whole numbers from other ones by the lack of a point and of an exponent, and the
characters of a text can be read back one by one.
-/

namespace Sourcewright

/-! ## Names -/

def isNameChar (char : Char) : Bool :=
  char.isAlphanum || char == '_' || char == '$' || decide (0x80 ≤ char.toNat)

def isName : List Char → Bool
  | [] => false
  | first :: rest => !first.isDigit && (first :: rest).all isNameChar

namespace Target

/-- The words of constants that would be names otherwise. -/
def constantWords (target : Target) : List (List Char) :=
  ["true".toList, "false".toList, target.nullText.toList]

def isIdentifier (target : Target) (chars : List Char) : Bool :=
  isName chars && !target.constantWords.contains chars

end Target

namespace TypeRef

/-- The names in a type, at a place where the type is written. -/
def identifiers : TypeRef → List String
  | .named name => [name]
  | .primitive _ => []

end TypeRef

namespace Expr

mutual

/-- The names that are written for an expression.  The types of parameters, of fields and of
the owners of methods called through a receiver are not written. -/
def identifiers : Expr → List String
  | .literal _ => []
  | .param named => [named.name]
  | .binary _ left right => left.identifiers ++ right.identifiers
  | .assign assigned value => assigned.identifiers ++ value.identifiers
  | .call receiver method arguments =>
    receiver.identifiers ++ method.name :: allIdentifiers arguments
  | .staticCall method arguments =>
    method.owner.identifiers ++ method.name :: allIdentifiers arguments
  | .construct type arguments => type.identifiers ++ allIdentifiers arguments
  | .field _ name => [name]

def allIdentifiers : List Expr → List String
  | [] => []
  | first :: rest => first.identifiers ++ allIdentifiers rest

end

theorem allIdentifiers_eq_flatMap (values : List Expr) :
    allIdentifiers values = values.flatMap identifiers := by
  induction values with
  | nil => rfl
  | cons value values ih => rw [allIdentifiers, ih, List.flatMap_cons]

end Expr

def NamedFor (target : Target) (names : List String) : Prop :=
  ∀ name ∈ names, target.isIdentifier name.toList = true

instance (target : Target) (names : List String) : Decidable (NamedFor target names) :=
  inferInstanceAs (Decidable (∀ name ∈ names, _))

@[simp]
theorem namedFor_nil (target : Target) : NamedFor target [] :=
  nofun

@[simp]
theorem namedFor_cons {target : Target} {name : String} {names : List String} :
    NamedFor target (name :: names) ↔
      target.isIdentifier name.toList = true ∧ NamedFor target names :=
  List.forall_mem_cons

@[simp]
theorem namedFor_append {target : Target} {first second : List String} :
    NamedFor target (first ++ second) ↔ NamedFor target first ∧ NamedFor target second :=
  List.forall_mem_append

theorem namedFor_flatMap {α : Type} {target : Target} {names : α → List String} {parts : List α} :
    NamedFor target (parts.flatMap names) ↔ ∀ part ∈ parts, NamedFor target (names part) := by
  induction parts with
  | nil => simp
  | cons part parts ih => simp [ih]

/-! ## What can be written -/

/-- The names in a type are identifiers, and the target has a spelling for it. -/
def TypeRef.Writable (target : Target) (type : TypeRef) : Prop :=
  NamedFor target type.identifiers ∧ (Emission.typeRef target type).obstacle = none

/-- The names in an expression are identifiers, and there is no obstacle to writing it. -/
def Expr.Writable (target : Target) (value : Expr) : Prop :=
  NamedFor target value.identifiers ∧ (Emission.expr target value).obstacle = none

namespace Expr

variable {target : Target}

theorem writable_binary {operator : Operator} {left right : Expr} :
    (Expr.binary operator left right).Writable target ↔
      (∃ symbol, target.symbol? operator = some symbol) ∧
        left.Writable target ∧ right.Writable target := by
  unfold Writable
  rw [identifiers, namedFor_append, Emission.expr]
  cases target.symbol? operator with
  | none => simp
  | some symbol =>
      simp only [Emission.Script.obstacle_append, Emission.obstacle_operand,
        Emission.Script.obstacle_text, Option.or_none, Option.or_eq_none_iff]
      simp only [Option.some.injEq, exists_eq', true_and]
      tauto

theorem writable_assign {assigned value : Expr} :
    (Expr.assign assigned value).Writable target ↔
      assigned.Writable target ∧ value.Writable target := by
  unfold Writable
  rw [identifiers, namedFor_append, Emission.expr]
  simp only [Emission.Script.obstacle_append, Emission.Script.obstacle_text, Option.or_none,
    Option.or_eq_none_iff]
  tauto

theorem writable_arguments {arguments : List Expr} :
    NamedFor target (allIdentifiers arguments) ∧
        (Emission.Script.parenthesized (Emission.exprs target arguments)).obstacle = none ↔
      ∀ argument ∈ arguments, argument.Writable target := by
  rw [allIdentifiers_eq_flatMap, namedFor_flatMap, Emission.Script.obstacle_parenthesized,
    Emission.exprs_eq_map, List.findSome?_map, List.findSome?_eq_none_iff]
  exact forall₂_and.symm

theorem writable_call {receiver : Expr} {method : MethodRef} {arguments : List Expr} :
    (Expr.call receiver method arguments).Writable target ↔
      receiver.Writable target ∧ target.isIdentifier method.name.toList = true ∧
        ∀ argument ∈ arguments, argument.Writable target := by
  rw [← writable_arguments]
  unfold Writable
  rw [identifiers, namedFor_append, namedFor_cons, Emission.expr]
  simp only [Emission.Script.obstacle_append, Emission.Script.obstacle_text, Option.or_none,
    Option.or_eq_none_iff]
  tauto

theorem writable_staticCall {method : MethodRef} {arguments : List Expr} :
    (Expr.staticCall method arguments).Writable target ↔
      method.owner.Writable target ∧ target.isIdentifier method.name.toList = true ∧
        ∀ argument ∈ arguments, argument.Writable target := by
  rw [← writable_arguments]
  unfold Writable TypeRef.Writable
  rw [identifiers, namedFor_append, namedFor_cons, Emission.expr]
  simp only [Emission.Script.obstacle_append, Emission.Script.obstacle_text, Option.or_none,
    Option.or_eq_none_iff]
  tauto

theorem writable_construct {type : TypeRef} {arguments : List Expr} :
    (Expr.construct type arguments).Writable target ↔
      type.Writable target ∧ ∀ argument ∈ arguments, argument.Writable target := by
  rw [← writable_arguments]
  unfold Writable TypeRef.Writable
  rw [identifiers, namedFor_append, Emission.expr]
  simp only [Emission.Script.obstacle_append, Emission.Script.obstacle_text, Option.none_or,
    Option.or_eq_none_iff]
  tauto

theorem writable_param {named : Param} (writable : (Expr.param named).Writable target) :
    target.isIdentifier named.name.toList = true :=
  (namedFor_cons.mp writable.1).1

theorem writable_field {type : TypeRef} {name : String}
    (writable : (Expr.field type name).Writable target) :
    target.isIdentifier name.toList = true :=
  (namedFor_cons.mp writable.1).1

end Expr

/-! ## Spellings of types -/

theorem isIdentifier_iff {target : Target} {chars : List Char} :
    target.isIdentifier chars = true ↔ isName chars = true ∧ chars ∉ target.constantWords := by
  simp [Target.isIdentifier]

theorem isNameChar_of_mem {chars : List Char} (name : isName chars = true) :
    ∀ char ∈ chars, isNameChar char = true := by
  cases chars with
  | nil => cases name
  | cons first rest =>
      rw [isName, Bool.and_eq_true, List.all_eq_true] at name
      exact name.2

theorem notMem_of_isName {chars : List Char} (name : isName chars = true) {char : Char}
    (other : isNameChar char = false) : char ∉ chars := by
  intro member
  rw [isNameChar_of_mem name char member] at other
  cases other

theorem scopedName_eq_self {name : String} (plain : '.' ∉ name.toList) :
    Target.scopedName name = name := by
  have chars : (name.toList.flatMap fun char => if char = '.' then [':', ':'] else [char]) =
      name.toList := by
    generalize name.toList = chars at plain ⊢
    induction chars with
    | nil => rfl
    | cons char chars ih =>
        rw [List.mem_cons, not_or] at plain
        rw [List.flatMap_cons, if_neg (Ne.symm plain.1), ih plain.2]
        rfl
  rw [Target.scopedName, chars, String.ofList_toList]

/-- The spelling of a type is an identifier. -/
theorem TypeRef.Writable.isIdentifier {target : Target} {type : TypeRef}
    (writable : type.Writable target) :
    target.isIdentifier (Emission.typeChars target type) = true := by
  cases type with
  | named name =>
      have identifier := (namedFor_cons.mp writable.1).1
      have plain : '.' ∉ name.toList :=
        notMem_of_isName (isIdentifier_iff.mp identifier).1 (by decide)
      cases target with
      | cpp => rwa [Emission.typeChars, Target.typeName, scopedName_eq_self plain]
      | java => exact identifier
  | primitive builtin =>
      have supported := writable.2
      revert supported
      cases target <;> cases builtin <;> decide

/-! ## Kinds of constants -/

/-- What the first characters and the marks in a constant tell. -/
inductive WordKind where
  | quoted
  | whole
  | fractional
  | name
deriving DecidableEq

/-- Numbers start with a sign or a digit. -/
def startsNumber (chars : List Char) : Bool :=
  chars.head?.any fun first => first == '-' || first.isDigit

def wordKind (chars : List Char) : WordKind :=
  if startsNumber chars then
    if '.' ∈ chars ∨ 'e' ∈ chars then .fractional else .whole
  else if chars.head? = some '"' then .quoted
  else .name

def Literal.kind : Literal → WordKind
  | .truth _ => .name
  | .integer _ => .whole
  | .float _ => .fractional
  | .text _ => .quoted
  | .null => .name

theorem wordKind_of_isName {chars : List Char} (name : isName chars = true) :
    wordKind chars = .name := by
  cases chars with
  | nil => cases name
  | cons first rest =>
      have nameChar := isNameChar_of_mem name first List.mem_cons_self
      have notQuote : first ≠ '"' := by
        rintro rfl
        exact absurd nameChar (by decide)
      have notMinus : first ≠ '-' := by
        rintro rfl
        exact absurd nameChar (by decide)
      have notDigit : first.isDigit = false := by
        rw [isName, Bool.and_eq_true, Bool.not_eq_true'] at name
        exact name.1
      simp [wordKind, startsNumber, notQuote, notMinus, notDigit]

/-- The mark behind a constant that needs 64 bits. -/
def longMark (target : Target) (value : Int64) : List Char :=
  match target with
  | .cpp => []
  | .java => if -2147483648 ≤ value.toInt ∧ value.toInt ≤ 2147483647 then [] else ['L']

theorem toList_integerText (target : Target) (value : Int64) :
    (target.integerText value).toList =
      (wholeText value.toInt).toList ++ longMark target value := by
  cases target with
  | cpp => simp [Target.integerText, longMark]
  | java =>
      simp only [Target.integerText, longMark]
      split <;> simp

theorem mem_longMark {target : Target} {value : Int64} {char : Char}
    (member : char ∈ longMark target value) : char = 'L' := by
  revert member
  fun_cases longMark target value with
  | case1 => rintro ⟨⟩
  | case2 short => rintro ⟨⟩
  | case3 long => exact List.mem_singleton.mp

/-- A number consists of a sign, digits, and what follows the digits. -/
def IsNumber (chars : List Char) : Prop :=
  ∃ (negative : Bool) (digits tail : List Char), digits ≠ [] ∧
    (∀ char ∈ digits, char.isDigit = true) ∧
    chars = (if negative then ['-'] else []) ++ (digits ++ tail)

theorem isNumber_integerText (target : Target) (value : Int64) :
    IsNumber (target.integerText value).toList := by
  refine ⟨decide (value.toInt < 0), Decimal.digitsOf value.toInt.natAbs, longMark target value,
    Nat.toDigits_ne_nil, fun char member => isDigit_of_mem_digitsOf member, ?_⟩
  rw [toList_integerText, Document.toList_wholeText, List.append_assoc]
  simp only [decide_eq_true_eq]

theorem isNumber_numeral {numeral : Numeral} (regular : numeral.Regular) :
    IsNumber numeral.chars :=
  ⟨numeral.negative, numeral.whole, numeral.tail, regular.whole_ne_nil, regular.isDigit_whole, rfl⟩

theorem IsNumber.startsNumber {chars : List Char} (number : IsNumber chars) :
    startsNumber chars = true := by
  obtain ⟨negative, digits, tail, nonempty, areDigits, rfl⟩ := number
  obtain ⟨digit, rest, rfl⟩ := List.exists_cons_of_ne_nil nonempty
  have isDigit := areDigits digit List.mem_cons_self
  cases negative <;> simp [Sourcewright.startsNumber, isDigit]

theorem wordKind_integerText (target : Target) (value : Int64) :
    wordKind (target.integerText value).toList = .whole := by
  have starts := (isNumber_integerText target value).startsNumber
  have members (char : Char) (member : char ∈ (target.integerText value).toList) :
      char = '-' ∨ char.isDigit = true ∨ char = 'L' := by
    rw [toList_integerText, Document.toList_wholeText, List.mem_append, List.mem_append] at member
    rcases member with (minus | digit) | mark
    · split at minus
      · exact .inl (List.mem_singleton.mp minus)
      · cases minus
    · exact .inr (.inl (isDigit_of_mem_digitsOf digit))
    · exact .inr (.inr (mem_longMark mark))
  have noPoint : '.' ∉ (target.integerText value).toList :=
    fun member => absurd (members '.' member) (by decide)
  have noExponent : 'e' ∉ (target.integerText value).toList :=
    fun member => absurd (members 'e' member) (by decide)
  simp [wordKind, starts, noPoint, noExponent]

theorem exists_numeral_of_isFinite {value : Binary64} (finite : value.isFinite = true) :
    ∃ numeral : Numeral, numeral.Regular ∧ (numeral.fraction ≠ [] ∨ numeral.exponent ≠ none) ∧
      (FloatStyle.literal.text value).toList = numeral.chars := by
  obtain ⟨negative, significand, exponent, classified⟩ :=
    Binary64.exists_classify_of_isFinite finite
  obtain ⟨numeral, regular, -, fractional, chars, -⟩ := Binary64.exists_numeral classified
  exact ⟨numeral, regular, fractional, chars⟩

theorem wordKind_floatText {value : Binary64} (finite : value.isFinite = true) :
    wordKind (FloatStyle.literal.text value).toList = .fractional := by
  obtain ⟨numeral, regular, fractional, chars⟩ := exists_numeral_of_isFinite finite
  have starts := (isNumber_numeral regular).startsNumber
  have marked : '.' ∈ numeral.chars ∨ 'e' ∈ numeral.chars := by
    unfold Numeral.chars Numeral.tail
    rcases fractional with fraction | exponent
    · obtain ⟨digit, digits, listed⟩ := List.exists_cons_of_ne_nil fraction
      rw [listed]
      simp [Numeral.fractionChars]
    · obtain ⟨exponent, given⟩ := Option.ne_none_iff_exists'.mp exponent
      rw [given]
      simp [Numeral.exponentChars]
  rw [chars, wordKind, if_pos starts, if_pos marked]

/-! ## Constants are determined by their words -/

namespace Emission

theorem isFinite_of_supported {target : Target} {value : Binary64}
    (supported : (literal target (.float value)).obstacle = none) : value.isFinite = true := by
  rw [literal] at supported
  split at supported
  case isTrue finite => exact finite
  case isFalse => cases supported

theorem wordKind_literalChars {target : Target} {value : Literal}
    (supported : (literal target value).obstacle = none) :
    wordKind (literalChars target value) = value.kind := by
  cases value with
  | truth value => cases value <;> rfl
  | integer value => exact wordKind_integerText target value
  | float value => exact wordKind_floatText (isFinite_of_supported supported)
  | text value => simp [literalChars, textConstant, wordKind, startsNumber, Literal.kind]
  | null => cases target <;> decide

/-- The characters with a short escape, each with the character behind the backslash. -/
def shortEscapes : List (Char × Char) :=
  [('\\', '\\'), ('"', '"'), ('\n', 'n'), ('\r', 'r'), ('\t', 't')]

theorem constantChar_cases (char : Char) :
    (constantChar char = [char] ∧ char ≠ '\\' ∧ char ≠ '"' ∧
        ¬ (char.toNat < 0x20 ∨ char.toNat = 0x7f)) ∨
      (∃ escape, constantChar char = ['\\', escape] ∧ (char, escape) ∈ shortEscapes) ∨
      (constantChar char = '\\' :: octalDigits char.toNat ∧ char.toNat < 128) := by
  fun_cases constantChar char with
  | case1 backslash => exact .inr (.inl ⟨_, rfl, by subst backslash; decide⟩)
  | case2 _ quote => exact .inr (.inl ⟨_, rfl, by subst quote; decide⟩)
  | case3 _ _ newline => exact .inr (.inl ⟨_, rfl, by subst newline; decide⟩)
  | case4 _ _ _ carriage => exact .inr (.inl ⟨_, rfl, by subst carriage; decide⟩)
  | case5 _ _ _ _ tab => exact .inr (.inl ⟨_, rfl, by subst tab; decide⟩)
  | case6 _ _ _ _ _ control =>
      rw [Bool.or_eq_true, decide_eq_true_iff, beq_iff_eq] at control
      exact .inr (.inr ⟨rfl, by omega⟩)
  | case7 notBackslash notQuote _ _ _ notControl =>
      rw [Bool.or_eq_true, decide_eq_true_iff, beq_iff_eq] at notControl
      exact .inl ⟨rfl, notBackslash, notQuote, notControl⟩

/-- Read a character of a text constant back. -/
def readConstantChar : List Char → Option (Char × List Char)
  | [] => none
  | '\\' :: escape :: rest =>
    match shortEscapes.find? (·.2 == escape), rest with
    | some (char, _), rest => some (char, rest)
    | none, middle :: low :: rest =>
      some (Char.ofNat (Nat.ofDigitChars 8 [escape, middle, low] 0), rest)
    | none, _ => none
  | char :: rest => some (char, rest)

theorem ofDigitChars_octalDigits {value : Nat} (small : value < 128) :
    Nat.ofDigitChars 8 (octalDigits value) 0 = value := by
  have digit : ∀ digit < 8, (Nat.digitChar digit).toNat - '0'.toNat = digit := by decide
  simp only [octalDigits, Nat.ofDigitChars_cons, Nat.ofDigitChars_nil]
  rw [digit _ (by omega), digit _ (by omega), digit _ (by omega)]
  omega

theorem readConstantChar_append (char : Char) (rest : List Char) :
    readConstantChar (constantChar char ++ rest) = some (char, rest) := by
  rcases constantChar_cases char with ⟨form, notBackslash, -⟩ | ⟨escape, form, short⟩ |
    ⟨form, small⟩
  · rw [form, List.singleton_append, readConstantChar]
    exact fun _ _ backslash => absurd backslash notBackslash
  · rw [form]
    simp only [shortEscapes, List.mem_cons, Prod.mk.injEq, List.not_mem_nil, or_false] at short
    rcases short with ⟨rfl, rfl⟩ | ⟨rfl, rfl⟩ | ⟨rfl, rfl⟩ | ⟨rfl, rfl⟩ | ⟨rfl, rfl⟩ <;> rfl
  · have notShort : shortEscapes.find? (·.2 == Nat.digitChar (char.toNat / 64)) = none := by
      have high : char.toNat / 64 = 0 ∨ char.toNat / 64 = 1 := by omega
      rcases high with zero | one
      · rw [zero]
        decide
      · rw [one]
        decide
    have value := ofDigitChars_octalDigits small
    rw [octalDigits] at form value
    rw [form]
    simp only [List.cons_append, List.nil_append, readConstantChar, notShort, value,
      Char.ofNat_toNat]

theorem flatMap_constantChar_injective {first second : List Char}
    (same : first.flatMap constantChar = second.flatMap constantChar) : first = second := by
  induction first generalizing second with
  | nil =>
      cases second with
      | nil => rfl
      | cons char chars =>
          have read := readConstantChar_append char (chars.flatMap constantChar)
          rw [← List.flatMap_cons, ← same] at read
          cases read
  | cons char chars ih =>
      have read := readConstantChar_append char (chars.flatMap constantChar)
      rw [← List.flatMap_cons, same] at read
      cases second with
      | nil => cases read
      | cons other others =>
          rw [List.flatMap_cons, readConstantChar_append] at read
          obtain ⟨chars, rest⟩ := Prod.mk.inj (Option.some.inj read)
          rw [chars, ih rest.symm]

theorem literalChars_injective {target : Target} {first second : Literal}
    (firstSupported : (literal target first).obstacle = none)
    (secondSupported : (literal target second).obstacle = none)
    (same : literalChars target first = literalChars target second) : first = second := by
  have kinds : first.kind = second.kind := by
    rw [← wordKind_literalChars firstSupported, ← wordKind_literalChars secondSupported, same]
  cases first <;> cases second <;> simp only [Literal.kind, reduceCtorEq] at kinds
  case truth.truth first second =>
    cases first <;> cases second <;> first | rfl | cases same
  case truth.null value => cases target <;> cases value <;> cases same
  case null.truth value => cases target <;> cases value <;> cases same
  case null.null => rfl
  case integer.integer first second =>
    rw [literalChars, literalChars, toList_integerText, toList_integerText] at same
    have ends (value : Int64) : ∀ char ∈ (longMark target value).head?, char.isDigit = false := by
      intro char member
      rw [mem_longMark (List.mem_of_mem_head? member)]
      rfl
    obtain ⟨values, -⟩ := wholeText_append_inj (ends first) (ends second) same
    rw [Int64.toInt_inj.mp values]
  case float.float first second =>
    have firstFinite := isFinite_of_supported firstSupported
    have secondFinite := isFinite_of_supported secondSupported
    rw [Binary64.text_injective_of_isFinite firstFinite secondFinite
      (String.toList_injective same)]
  case text.text first second =>
    simp only [literalChars, textConstant, String.toList_ofList, List.cons_append,
      List.cons.injEq, true_and, List.append_cancel_right_eq] at same
    rw [String.toList_injective (flatMap_constantChar_injective same)]

end Emission

end Sourcewright
