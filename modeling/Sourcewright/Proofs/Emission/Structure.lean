import Sourcewright.Proofs.Emission.Unambiguity

/-!
# Structure of written expressions

Writing an expression appends the indentation that is due and the text of the expression.
The indentation is no token, so two expressions that append the same text have the same
tokens, and grouped ones are the same up to types that are not written.

Where a method is called on an operation, or something is assigned to an assignment, the
script is that of another tree.
-/

namespace Sourcewright.Emission

/-- Following the script succeeds and appends the text. -/
def Script.Appends (script : Script) (writer : Writer) (text : String) : Prop :=
  ∃ finished, script.run writer = (finished, none) ∧ finished.code = writer.code ++ text

variable {target : Target} {value : Expr} {writer : Writer} {text : String}

theorem tokens_spaces_append (count : Nat) (chars : List Char) :
    tokens (List.replicate count ' ' ++ chars) = tokens chars := by
  induction count with
  | zero => rfl
  | succ count ih =>
      have space := read_separator (.inl (by decide) : Separates ' ' []) []
        (List.replicate count ' ' ++ chars)
      rw [List.replicate_succ, ← ih, tokens]
      exact space

theorem exprChars_ne_nil (writable : value.Writable target) : exprChars target value ≠ [] := by
  intro empty
  have read := tokens_exprChars writable
  rw [empty] at read
  exact exprTokens_ne_nil target value read.symm

/-- The text that an expression appends has the tokens of the expression. -/
theorem writable_of_appends (named : NamedFor target value.identifiers)
    (appends : (expr target value).Appends writer text) :
    value.Writable target ∧ tokens text.toList = exprTokens target value := by
  obtain ⟨finished, ran, code⟩ := appends
  obtain ⟨steps, supported⟩ := Prod.mk.inj ran
  have writable : value.Writable target := ⟨named, supported⟩
  have nonempty : String.ofList (exprChars target value) ≠ "" := by
    intro empty
    exact exprChars_ne_nil writable (by simpa using congrArg String.toList empty)
  rw [← steps, writes_expr target value supported, Writer.code_write_of_ne nonempty,
    String.append_assoc] at code
  have chars : text.toList = writer.indentation.toList ++ exprChars target value := by
    have cancelled := congrArg String.toList code
    simp only [String.toList_append, String.toList_ofList] at cancelled
    exact (List.append_cancel_left cancelled).symm
  have indentation : ∃ count, writer.indentation.toList = List.replicate count ' ' := by
    unfold Writer.indentation
    split
    · exact ⟨_, String.toList_ofList⟩
    · exact ⟨0, rfl⟩
  obtain ⟨count, spaces⟩ := indentation
  refine ⟨writable, ?_⟩
  rw [chars, spaces, tokens_spaces_append, tokens_exprChars writable]

theorem exprTokens_eq_of_appends {other : Expr} {otherWriter : Writer}
    (named : NamedFor target value.identifiers)
    (otherNamed : NamedFor target other.identifiers)
    (appends : (expr target value).Appends writer text)
    (otherAppends : (expr target other).Appends otherWriter text) :
    exprTokens target value = exprTokens target other := by
  rw [← (writable_of_appends named appends).2, (writable_of_appends otherNamed otherAppends).2]

/-! ## Nothing that is written is lost -/

theorem typeChars_written {type : TypeRef} (writable : type.Writable target) :
    typeChars target (type.written target) = typeChars target type := by
  have plain : '.' ∉ (String.ofList (typeChars target type)).toList := by
    rw [String.toList_ofList]
    exact notMem_of_isName (isIdentifier_iff.mp writable.isIdentifier).1 (by decide)
  rw [TypeRef.written, typeChars]
  cases target with
  | cpp => rw [Target.typeName, scopedName_eq_self plain, String.toList_ofList]
  | java => rw [Target.typeName, String.toList_ofList]

theorem isOperation_written (target : Target) (value : Expr) :
    isOperation (value.written target) = isOperation value := by
  cases value with
  | staticCall => cases target <;> rfl
  | _ => rfl

theorem exprChars_written (writable : value.Writable target) :
    exprChars target (value.written target) = exprChars target value := by
  have listed {arguments : List Expr} (members : ∀ argument ∈ arguments,
      exprChars target (argument.written target) = exprChars target argument) :
      exprsChars target (Expr.allWritten target arguments) = exprsChars target arguments := by
    rw [Expr.allWritten_eq_map, exprsChars_eq_map, exprsChars_eq_map, List.map_map]
    exact List.map_congr_left members
  induction value using Expr.induction with
  | literal value => rfl
  | param named => rfl
  | field type name => rfl
  | binary operator left right leftIH rightIH =>
      obtain ⟨-, leftWritable, rightWritable⟩ := Expr.writable_binary.mp writable
      rw [Expr.written, exprChars, exprChars, isOperation_written, isOperation_written,
        leftIH leftWritable, rightIH rightWritable]
  | assign assigned value assignedIH valueIH =>
      obtain ⟨assignedWritable, valueWritable⟩ := Expr.writable_assign.mp writable
      rw [Expr.written, exprChars, exprChars, assignedIH assignedWritable, valueIH valueWritable]
  | call receiver method arguments receiverIH argumentsIH =>
      obtain ⟨receiverWritable, -, argumentsWritable⟩ := Expr.writable_call.mp writable
      rw [Expr.written, exprChars, exprChars, receiverIH receiverWritable, listed
        fun argument member => argumentsIH argument member (argumentsWritable argument member)]
  | staticCall method arguments argumentsIH =>
      obtain ⟨owner, -, argumentsWritable⟩ := Expr.writable_staticCall.mp writable
      have same := listed
        fun argument member => argumentsIH argument member (argumentsWritable argument member)
      cases target with
      | cpp => rw [Expr.written, exprChars, exprChars, typeChars_written owner, same]
      | java =>
          rw [Expr.written, exprChars, exprChars, exprChars, String.toList_ofList, same]
          simp only [List.append_assoc]
          rfl
  | construct type arguments argumentsIH =>
      obtain ⟨constructed, argumentsWritable⟩ := Expr.writable_construct.mp writable
      rw [Expr.written, exprChars, exprChars, typeChars_written constructed, listed
        fun argument member => argumentsIH argument member (argumentsWritable argument member)]

theorem run_eq_of_written_eq {other : Expr} (writable : value.Writable target)
    (otherWritable : other.Writable target)
    (same : value.written target = other.written target) (writer : Writer) :
    (expr target value).run writer = (expr target other).run writer := by
  have chars : exprChars target value = exprChars target other := by
    rw [← exprChars_written writable, same, exprChars_written otherWritable]
  rw [Script.run, Script.run, writable.2, otherWritable.2,
    writes_expr target value writable.2, writes_expr target other otherWritable.2, chars]

/-- In C++, grouped expressions append the same text exactly if they are the same, up to types
that are not written and with the others as they are spelled. -/
theorem same_text_iff_written_eq {first second : Expr}
    (firstNamed : NamedFor .cpp first.identifiers)
    (secondNamed : NamedFor .cpp second.identifiers) (firstGrouped : first.grouped = true)
    (secondGrouped : second.grouped = true) {firstWriter secondWriter : Writer}
    {firstText secondText : String}
    (firstAppends : (expr .cpp first).Appends firstWriter firstText)
    (secondAppends : (expr .cpp second).Appends secondWriter secondText) :
    (firstText = secondText → first.written .cpp = second.written .cpp) ∧
      (first.written .cpp = second.written .cpp →
        ∀ writer, (expr .cpp first).run writer = (expr .cpp second).run writer) := by
  obtain ⟨firstWritable, -⟩ := writable_of_appends firstNamed firstAppends
  obtain ⟨secondWritable, -⟩ := writable_of_appends secondNamed secondAppends
  constructor
  · rintro rfl
    have tokens := exprTokens_eq_of_appends firstNamed secondNamed firstAppends secondAppends
    exact determined_of_grouped firstWritable firstGrouped second secondWritable secondGrouped
      tokens
  · exact run_eq_of_written_eq firstWritable secondWritable

/-- Only the types that are not written differ between these two calls. -/
theorem same_text_of_unwritten_types :
    (Expr.call (.field (.named "A") "x") ⟨.named "A", "m"⟩
        [.binary .minus (.param ⟨"a", .named "A"⟩) (.literal (.integer (-1)))]).written .cpp =
      (Expr.call (.field (.named "B") "x") ⟨.named "C", "m"⟩
        [.binary .minus (.param ⟨"a", .primitive .integer⟩)
          (.literal (.integer (-1)))]).written .cpp := by
  have firstAppends : (expr .cpp (.call (.field (.named "A") "x") ⟨.named "A", "m"⟩
      [.binary .minus (.param ⟨"a", .named "A"⟩) (.literal (.integer (-1)))])).Appends
      { indent := 4 } "this->x.m(a - -1)" :=
    ⟨_, rfl, by decide +kernel⟩
  have secondAppends : (expr .cpp (.call (.field (.named "B") "x") ⟨.named "C", "m"⟩
      [.binary .minus (.param ⟨"a", .primitive .integer⟩) (.literal (.integer (-1)))])).Appends
      { indent := 2 } "this->x.m(a - -1)" :=
    ⟨_, rfl, by decide +kernel⟩
  exact (same_text_iff_written_eq (by decide) (by decide) (by decide) (by decide) firstAppends
    secondAppends).1 rfl

/-! ## Where parentheses are missing -/

theorem expr_call_binary (target : Target) (operator : Operator) (left : Expr) {right : Expr}
    (notOperation : isOperation right = false) (method : MethodRef) (arguments : List Expr) :
    expr target (.call (.binary operator left right) method arguments) =
      expr target (.binary operator left (.call right method arguments)) := by
  have inner : isOperation (.call right method arguments) = false := rfl
  rw [expr, expr, expr]
  cases target.symbol? operator with
  | none =>
      rw [Script.append_assoc, Script.append_assoc]
      exact Script.append_of_obstacle rfl _
  | some symbol =>
      simp only [notOperation, inner, operand, Bool.false_eq_true, if_false]
      rw [expr]
      simp only [Script.append_assoc]

theorem expr_call_assign (target : Target) (assigned value : Expr) (method : MethodRef)
    (arguments : List Expr) :
    expr target (.call (.assign assigned value) method arguments) =
      expr target (.assign assigned (.call value method arguments)) := by
  rw [expr, expr, expr, expr]
  simp only [Script.append_assoc]

theorem expr_assign_assign (target : Target) (first second value : Expr) :
    expr target (.assign (.assign first second) value) =
      expr target (.assign first (.assign second value)) := by
  rw [expr, expr, expr, expr]
  simp only [Script.append_assoc]

/-! ## Receivers and targets -/

theorem hasOuter_isSymbol_of_isOperation (writable : value.Writable target)
    (operation : isOperation value = true) :
    hasOuter isSymbol (exprTokens target value) = true := by
  cases value with
  | binary operator left right =>
      obtain ⟨⟨symbol, spelled⟩, -, -⟩ := Expr.writable_binary.mp writable
      have closed : Closed (operandTokens (isOperation left) (exprTokens target left)) :=
        Avoids.operand _ rfl (closed_exprTokens target left) fun _ => closed_exprTokens target left
      rw [exprTokens, spelled]
      exact hasOuter_append_cons closed (isSymbol_symbol spelled).1 _
  | assign assigned value =>
      rw [exprTokens]
      exact hasOuter_append_cons (closed_exprTokens target assigned) (by decide) _
  | _ => cases operation

/-- The text of a call whose chain of receivers does not start with an operation is not that
of an operation, and the text of an assignment determines its target if the targets are
grouped and no assignments.  Without these conditions there are trees that are written
alike. -/
theorem receivers_and_targets_determined (target : Target) :
    (∀ (receiver : Expr) (method : MethodRef) (arguments : List Expr) (other : Expr)
        (writer otherWriter : Writer) (text : String),
      NamedFor target (Expr.call receiver method arguments).identifiers →
      NamedFor target other.identifiers →
      isOperation receiver.root = false →
      (expr target (.call receiver method arguments)).Appends writer text →
      (expr target other).Appends otherWriter text →
        isOperation other = false) ∧
    (∀ (assigned value otherAssigned otherValue : Expr) (writer otherWriter : Writer)
        (text : String),
      NamedFor target (Expr.assign assigned value).identifiers →
      NamedFor target (Expr.assign otherAssigned otherValue).identifiers →
      assigned.grouped = true → assigned.isAssign = false →
      otherAssigned.grouped = true → otherAssigned.isAssign = false →
      (expr target (.assign assigned value)).Appends writer text →
      (expr target (.assign otherAssigned otherValue)).Appends otherWriter text →
        assigned.written target = otherAssigned.written target) ∧
    (∀ (operator : Operator) (left right : Expr) (method : MethodRef) (arguments : List Expr),
      isOperation right = false →
        expr target (.call (.binary operator left right) method arguments) =
          expr target (.binary operator left (.call right method arguments))) ∧
    (∀ (assigned value : Expr) (method : MethodRef) (arguments : List Expr),
      expr target (.call (.assign assigned value) method arguments) =
        expr target (.assign assigned (.call value method arguments))) ∧
    ∀ first second value : Expr,
      expr target (.assign (.assign first second) value) =
        expr target (.assign first (.assign second value)) := by
  refine ⟨?_, ?_, ?_, expr_call_assign target, expr_assign_assign target⟩
  · intro receiver method arguments other writer otherWriter text named otherNamed rooted appends
      otherAppends
    obtain ⟨writable, -⟩ := writable_of_appends named appends
    obtain ⟨otherWritable, -⟩ := writable_of_appends otherNamed otherAppends
    have noSymbol := (avoids_symbol writable rooted).hasOuter_eq_false
    rw [exprTokens_eq_of_appends named otherNamed appends otherAppends] at noSymbol
    by_contra operation
    rw [Bool.not_eq_false] at operation
    rw [hasOuter_isSymbol_of_isOperation otherWritable operation] at noSymbol
    cases noSymbol
  · intro assigned value otherAssigned otherValue writer otherWriter text named otherNamed grouped
      notAssign otherGrouped otherNotAssign appends otherAppends
    obtain ⟨assignedWritable, -⟩ :=
      Expr.writable_assign.mp (writable_of_appends named appends).1
    obtain ⟨otherAssignedWritable, -⟩ :=
      Expr.writable_assign.mp (writable_of_appends otherNamed otherAppends).1
    obtain ⟨tokens, -⟩ := exprTokens_assign_inj assignedWritable grouped notAssign
      otherAssignedWritable otherGrouped otherNotAssign
      (exprTokens_eq_of_appends named otherNamed appends otherAppends)
    exact determined_of_grouped assignedWritable grouped otherAssigned otherAssignedWritable
      otherGrouped tokens
  · exact fun operator left right method arguments notOperation =>
      expr_call_binary target operator left notOperation method arguments

/-- A call and an assignment that keep their grouping, and a sum that loses it as a receiver. -/
theorem receivers_and_targets_of_sum :
    isOperation (.call (.param ⟨"a", .named "B"⟩) ⟨.named "B", "m"⟩
        [.binary .plus (.param ⟨"b", .named "B"⟩) (.param ⟨"c", .named "B"⟩)]) = false ∧
      (Expr.binary .plus (.param ⟨"a", .named "A"⟩) (.param ⟨"b", .named "A"⟩)).written .cpp =
        (Expr.binary .plus (.param ⟨"a", .named "B"⟩) (.param ⟨"b", .named "B"⟩)).written .cpp ∧
      expr .cpp (.call (.binary .plus (.param ⟨"a", .named "A"⟩) (.param ⟨"b", .named "A"⟩))
          ⟨.named "A", "m"⟩ []) =
        expr .cpp (.binary .plus (.param ⟨"a", .named "A"⟩)
          (.call (.param ⟨"b", .named "A"⟩) ⟨.named "A", "m"⟩ [])) := by
  have callAppends : (expr .cpp (.call (.param ⟨"a", .named "A"⟩) ⟨.named "A", "m"⟩
      [.binary .plus (.param ⟨"b", .named "A"⟩) (.param ⟨"c", .named "A"⟩)])).Appends
      { indent := 4 } "a.m(b + c)" :=
    ⟨_, rfl, by decide +kernel⟩
  have otherCallAppends : (expr .cpp (.call (.param ⟨"a", .named "B"⟩) ⟨.named "B", "m"⟩
      [.binary .plus (.param ⟨"b", .named "B"⟩) (.param ⟨"c", .named "B"⟩)])).Appends
      { indent := 2 } "a.m(b + c)" :=
    ⟨_, rfl, by decide +kernel⟩
  have assignAppends : (expr .cpp (.assign
      (.binary .plus (.param ⟨"a", .named "A"⟩) (.param ⟨"b", .named "A"⟩))
      (.param ⟨"c", .named "A"⟩))).Appends { indent := 4 } "a + b = c" :=
    ⟨_, rfl, by decide +kernel⟩
  have otherAssignAppends : (expr .cpp (.assign
      (.binary .plus (.param ⟨"a", .named "B"⟩) (.param ⟨"b", .named "B"⟩))
      (.param ⟨"c", .named "B"⟩))).Appends { indent := 2 } "a + b = c" :=
    ⟨_, rfl, by decide +kernel⟩
  obtain ⟨ofCall, ofAssign, ofBinary, -⟩ := receivers_and_targets_determined .cpp
  refine ⟨?_, ?_, ?_⟩
  · exact ofCall _ _ _ _ _ _ _ (by decide) (by decide) rfl callAppends otherCallAppends
  · exact ofAssign _ _ _ _ _ _ _ (by decide) (by decide) (by decide) rfl (by decide) rfl
      assignAppends otherAssignAppends
  · exact ofBinary .plus _ _ _ _ rfl

end Sourcewright.Emission
