import Sourcewright.Proofs.Emission.Levels

/-!
# Grouping

An operand that is an operation is put between parentheses, but the receiver of a call and
the target of an assignment are not.  An expression is grouped if no method is called on an
operation and nothing is assigned to an assignment.  The tokens that a grouped expression has
outside of parentheses tell whether it is an assignment, a binary operation, a call, or
neither of them.
-/

namespace Sourcewright

namespace Expr

def isAssign : Expr → Bool
  | .assign _ _ => true
  | _ => false

/-- The expression at the left end of a chain of calls. -/
def root : Expr → Expr
  | .call receiver _ _ => receiver.root
  | value => value

mutual

/-- No method is called on an operation, and nothing is assigned to an assignment. -/
def grouped : Expr → Bool
  | .literal _ => true
  | .param _ => true
  | .binary _ left right => left.grouped && right.grouped
  | .assign assigned value => !assigned.isAssign && assigned.grouped && value.grouped
  | .call receiver _ arguments =>
    !Emission.isOperation receiver && receiver.grouped && allGrouped arguments
  | .staticCall _ arguments => allGrouped arguments
  | .construct _ arguments => allGrouped arguments
  | .field _ _ => true

def allGrouped : List Expr → Bool
  | [] => true
  | first :: rest => first.grouped && allGrouped rest

end

theorem allGrouped_iff {values : List Expr} :
    allGrouped values = true ↔ ∀ value ∈ values, value.grouped = true := by
  induction values with
  | nil => simp [allGrouped]
  | cons value values ih => rw [allGrouped, Bool.and_eq_true, ih, List.forall_mem_cons]

/-- The left end of a chain of calls in a grouped expression is no operation. -/
theorem isOperation_root {value : Expr} (grouped : value.grouped = true)
    (notOperation : Emission.isOperation value = false) :
    Emission.isOperation value.root = false := by
  induction value using Expr.induction with
  | call receiver method arguments receiverIH argumentsIH =>
      rw [Expr.grouped, Bool.and_eq_true, Bool.and_eq_true, Bool.not_eq_true'] at grouped
      exact receiverIH grouped.1.2 grouped.1.1
  | binary => cases notOperation
  | assign => cases notOperation
  | literal => rfl
  | param => rfl
  | staticCall => rfl
  | construct => rfl
  | field => rfl

end Expr

namespace Emission

/-! ## Symbols outside of parentheses -/

theorem isSymbol_eq_false {chars : List Char} {char : Char} (member : char ∈ chars)
    (nameChar : isNameChar char = true) : isSymbol (.word chars) = false := by
  rw [isSymbol, List.all_eq_false]
  exact ⟨char, member, by simp [nameChar]⟩

theorem isSymbol_name {chars : List Char} (name : isName chars = true) (rest : List Char) :
    isSymbol (.word (chars ++ rest)) = false := by
  cases chars with
  | nil => cases name
  | cons first further =>
      exact isSymbol_eq_false List.mem_cons_self
        (isNameChar_of_mem name first List.mem_cons_self)

theorem isSymbol_number {chars : List Char} (number : IsNumber chars) :
    isSymbol (.word chars) = false := by
  obtain ⟨negative, digits, tail, nonempty, areDigits, rfl⟩ := number
  obtain ⟨digit, rest, rfl⟩ := List.exists_cons_of_ne_nil nonempty
  apply isSymbol_eq_false (List.mem_append_right _ List.mem_cons_self)
  exact isNameChar_of_isDigit (areDigits digit List.mem_cons_self)

theorem isSymbol_literalToken {target : Target} {value : Literal}
    (supported : (literal target value).obstacle = none) :
    isSymbol (literalToken target value) = false := by
  cases value with
  | truth value => cases value <;> rfl
  | integer value => exact isSymbol_number (isNumber_integerText target value)
  | float value =>
      obtain ⟨numeral, regular, -, chars⟩ :=
        exists_numeral_of_isFinite (isFinite_of_supported supported)
      rw [literalToken, literalChars, chars]
      exact isSymbol_number (isNumber_numeral regular)
  | text value => rfl
  | null => cases target <;> rfl

/-- Outside of parentheses, an operation is the only place for a symbol. -/
theorem avoids_symbol {target : Target} {value : Expr} (writable : value.Writable target)
    (rooted : isOperation value.root = false) : Avoids isSymbol (exprTokens target value) := by
  have dot : Avoids isSymbol [.dot] := Avoids.singleton (fun _ => rfl) rfl
  have word {chars : List Char} (name : isName chars = true) (rest : List Char) :
      Avoids isSymbol [.word (chars ++ rest)] :=
    Avoids.singleton (fun _ => rfl) (isSymbol_name name rest)
  have nameWord {chars : List Char} (identifier : target.isIdentifier chars = true) :
      Avoids isSymbol [.word chars] := by
    have name := word (isIdentifier_iff.mp identifier).1 []
    rwa [List.append_nil] at name
  have closed (arguments : List Expr) (argument : Expr) (_ : argument ∈ arguments) :
      Closed (exprTokens target argument) :=
    closed_exprTokens target argument
  induction value using Expr.induction with
  | literal value =>
      rw [exprTokens]
      have symbol := isSymbol_literalToken writable.2
      cases value <;> exact Avoids.singleton (fun _ => rfl) symbol
  | param named => exact nameWord (Expr.writable_param writable)
  | binary => cases rooted
  | assign => cases rooted
  | call receiver method arguments receiverIH argumentsIH =>
      obtain ⟨receiverWritable, identifier, -⟩ := Expr.writable_call.mp writable
      have head := (receiverIH receiverWritable rooted).append (dot.append (nameWord identifier))
      rw [exprTokens]
      exact head.applied rfl (closed arguments)
  | staticCall method arguments argumentsIH =>
      obtain ⟨owner, identifier, -⟩ := Expr.writable_staticCall.mp writable
      rw [exprTokens]
      apply Avoids.applied _ rfl (closed arguments)
      cases target with
      | cpp => exact word (isIdentifier_iff.mp owner.isIdentifier).1 _
      | java => exact (nameWord owner.isIdentifier).append (dot.append (nameWord identifier))
  | construct type arguments argumentsIH =>
      obtain ⟨constructed, -⟩ := Expr.writable_construct.mp writable
      rw [exprTokens]
      apply Avoids.applied _ rfl (closed arguments)
      cases target with
      | cpp => exact nameWord constructed.isIdentifier
      | java =>
          have created : Avoids isSymbol [.word "new".toList] :=
            Avoids.singleton (fun _ => rfl) (by decide)
          exact created.append (nameWord constructed.isIdentifier)
  | field type name =>
      have identifier := Expr.writable_field writable
      have self (rest : List Char) : Avoids isSymbol [.word ("this".toList ++ rest)] :=
        word (by decide) rest
      cases target with
      | cpp => exact self _
      | java => exact (self []).append (dot.append (nameWord identifier))

theorem avoids_symbol_operand {target : Target} {value : Expr} (writable : value.Writable target)
    (grouped : value.grouped = true) :
    Avoids isSymbol (operandTokens (isOperation value) (exprTokens target value)) :=
  Avoids.operand _ rfl (closed_exprTokens target value) fun notOperation =>
    avoids_symbol writable (Expr.isOperation_root grouped notOperation)

theorem avoids_equals {target : Target} {value : Expr} (writable : value.Writable target)
    (grouped : value.grouped = true) (notAssign : value.isAssign = false) :
    Avoids isEquals (exprTokens target value) := by
  by_cases operation : isOperation value = true
  · cases value with
    | binary operator left right =>
        obtain ⟨⟨symbol, spelled⟩, leftWritable, rightWritable⟩ := Expr.writable_binary.mp writable
        rw [Expr.grouped, Bool.and_eq_true] at grouped
        have leftAvoids := (avoids_symbol_operand leftWritable grouped.1).mono isSymbol_of_isEquals
        have rightAvoids :=
          (avoids_symbol_operand rightWritable grouped.2).mono isSymbol_of_isEquals
        have middle : Avoids isEquals [.word symbol.toList] :=
          Avoids.singleton (fun _ => rfl) (isSymbol_symbol spelled).2
        rw [exprTokens, spelled]
        exact leftAvoids.append (middle.append rightAvoids)
    | assign => cases notAssign
    | _ => cases operation
  · rw [Bool.not_eq_true] at operation
    exact (avoids_symbol writable (Expr.isOperation_root grouped operation)).mono
      isSymbol_of_isEquals

/-! ## Shapes -/

/-- Whether a token of a kind stands outside of parentheses. -/
def hasOuter (kind : Token → Bool) (tokens : List Token) : Bool :=
  (levels 0 tokens).any fun pair => pair.1 == 0 && kind pair.2

theorem Avoids.hasOuter_eq_false {kind : Token → Bool} {tokens : List Token}
    (avoids : Avoids kind tokens) : hasOuter kind tokens = false := by
  rw [hasOuter, List.any_eq_false]
  rintro ⟨level, token⟩ member found
  rw [Bool.and_eq_true, beq_iff_eq] at found
  obtain ⟨rfl, found⟩ := found
  rw [avoids.outer 0 token member] at found
  cases found

theorem hasOuter_append_cons {kind : Token → Bool} {first : List Token} (closed : Closed first)
    {token : Token} (found : kind token = true) (rest : List Token) :
    hasOuter kind (first ++ token :: rest) = true := by
  rw [hasOuter, closed.levels_append, levels, List.any_append, List.any_cons]
  simp [found]

inductive Shape where
  | leaf
  | applied
  | binary
  | assign
deriving DecidableEq

def shapeOf (tokens : List Token) : Shape :=
  if hasOuter isEquals tokens then .assign
  else if hasOuter isSymbol tokens then .binary
  else if tokens.getLast? = some .closing then .applied
  else .leaf

def shape : Expr → Shape
  | .literal _ => .leaf
  | .param _ => .leaf
  | .binary _ _ _ => .binary
  | .assign _ _ => .assign
  | .call _ _ _ => .applied
  | .staticCall _ _ => .applied
  | .construct _ _ => .applied
  | .field _ _ => .leaf

theorem shapeOf_of_avoids {tokens : List Token} (avoids : Avoids isSymbol tokens) :
    shapeOf tokens = if tokens.getLast? = some .closing then .applied else .leaf := by
  have noEquals := (avoids.mono isSymbol_of_isEquals).hasOuter_eq_false
  simp [shapeOf, noEquals, avoids.hasOuter_eq_false]

/-- The tokens of a grouped expression tell its shape. -/
theorem shapeOf_exprTokens {target : Target} {value : Expr} (writable : value.Writable target)
    (grouped : value.grouped = true) : shapeOf (exprTokens target value) = shape value := by
  have closing (head : List Token) (arguments : List (List Token)) :
      (head ++ argumentTokens arguments).getLast? = some .closing := by
    rw [argumentTokens, ← List.append_assoc, List.getLast?_concat]
  by_cases operation : isOperation value = true
  · cases value with
    | binary operator left right =>
        have noEquals := (avoids_equals writable grouped rfl).hasOuter_eq_false
        obtain ⟨⟨symbol, spelled⟩, leftWritable, -⟩ := Expr.writable_binary.mp writable
        rw [Expr.grouped, Bool.and_eq_true] at grouped
        have symbols :
            hasOuter isSymbol (exprTokens target (.binary operator left right)) = true := by
          rw [exprTokens, spelled]
          exact hasOuter_append_cons (avoids_symbol_operand leftWritable grouped.1).closed
            (isSymbol_symbol spelled).1 _
        simp [shapeOf, noEquals, symbols, shape]
    | assign assigned value =>
        have equals : hasOuter isEquals (exprTokens target (.assign assigned value)) = true := by
          rw [exprTokens]
          exact hasOuter_append_cons (closed_exprTokens target assigned) (by decide) _
        simp [shapeOf, equals, shape]
    | _ => cases operation
  · rw [Bool.not_eq_true] at operation
    rw [shapeOf_of_avoids (avoids_symbol writable (Expr.isOperation_root grouped operation))]
    cases value with
    | literal value =>
        rw [exprTokens]
        cases value <;> rfl
    | param named => rfl
    | field type name => cases target <;> rfl
    | binary => cases operation
    | assign => cases operation
    | _ => rw [exprTokens, closing, if_pos rfl, shape]

end Emission

end Sourcewright
