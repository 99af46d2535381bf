import Sourcewright.Proofs.Emission.Grouping

/-!
# What the text of an expression tells

The tokens of a grouped expression determine the tree, up to the types that are not written.
The shape of the tree can be told from the tokens outside of parentheses, and the parts of
each shape are found by splitting there.
-/

namespace Sourcewright

/-! ## What is written of a tree -/

/-- The type in place of one that is not written. -/
def TypeRef.unwritten : TypeRef :=
  .named ""

/-- A type as it is spelled. -/
def TypeRef.written (target : Target) (type : TypeRef) : TypeRef :=
  .named (String.ofList (Emission.typeChars target type))

namespace Expr

mutual

/-- The tree without the types that are not written, and with the others as they are spelled.
In Java a type in front of a static method looks like a parameter. -/
def written (target : Target) : Expr → Expr
  | .literal value => .literal value
  | .param named => .param ⟨named.name, .unwritten⟩
  | .binary operator left right => .binary operator (left.written target) (right.written target)
  | .assign assigned value => .assign (assigned.written target) (value.written target)
  | .call receiver method arguments =>
    .call (receiver.written target) ⟨.unwritten, method.name⟩ (allWritten target arguments)
  | .staticCall method arguments =>
    match target with
    | .cpp =>
      .staticCall ⟨method.owner.written target, method.name⟩ (allWritten target arguments)
    | .java =>
      .call (.param ⟨String.ofList (Emission.typeChars target method.owner), .unwritten⟩)
        ⟨.unwritten, method.name⟩ (allWritten target arguments)
  | .construct type arguments => .construct (type.written target) (allWritten target arguments)
  | .field _ name => .field .unwritten name

def allWritten (target : Target) : List Expr → List Expr
  | [] => []
  | first :: rest => first.written target :: allWritten target rest

end

theorem allWritten_eq_map (target : Target) (values : List Expr) :
    allWritten target values = values.map (written target) := by
  induction values with
  | nil => rfl
  | cons value values ih => rw [allWritten, ih, List.map_cons]

end Expr

namespace Emission

/-- The tokens of an expression are those of no other grouped expression, up to what is not
written. -/
def Determined (target : Target) (value : Expr) : Prop :=
  ∀ other : Expr, other.Writable target → other.grouped = true →
    exprTokens target value = exprTokens target other →
      value.written target = other.written target

theorem shape_eq_of_exprTokens_eq {target : Target} {value other : Expr}
    (writable : value.Writable target) (grouped : value.grouped = true)
    (otherWritable : other.Writable target) (otherGrouped : other.grouped = true)
    (same : exprTokens target value = exprTokens target other) : shape other = shape value := by
  rw [← shapeOf_exprTokens otherWritable otherGrouped, ← same,
    shapeOf_exprTokens writable grouped]

/-! ## Constants, parameters and fields -/

theorem literalChars_eq_of_literalToken_eq {target : Target} {first second : Literal}
    (same : literalToken target first = literalToken target second) :
    literalChars target first = literalChars target second := by
  cases first with
  | text first =>
      cases second with
      | text second =>
          rw [literalToken, literalToken, Token.quoted.injEq] at same
          rw [literalChars, literalChars, textConstant, textConstant, same]
      | _ => cases same
  | _ =>
      cases second with
      | text => cases same
      | _ => exact Token.word.inj same

/-- The word of a constant is no name, and it holds no mark but those of numbers. -/
theorem literalToken_ne_word {target : Target} {value : Literal}
    (supported : (literal target value).obstacle = none) {chars : List Char}
    (name : wordKind chars = .name) (other : chars ∉ target.constantWords) :
    literalToken target value ≠ .word chars := by
  intro same
  have kind := wordKind_literalChars supported
  cases value with
  | truth value =>
      cases value
      all_goals
        rw [← Token.word.inj same] at other
        simp [Target.constantWords, literalChars] at other
  | null =>
      rw [← Token.word.inj same] at other
      simp [Target.constantWords, literalChars] at other
  | text value => cases same
  | integer value =>
      rw [Token.word.inj same, name] at kind
      cases kind
  | float value =>
      rw [Token.word.inj same, name] at kind
      cases kind

theorem literalToken_ne_identifier {target : Target} {value : Literal}
    (supported : (literal target value).obstacle = none) {chars : List Char}
    (identifier : target.isIdentifier chars = true) :
    literalToken target value ≠ .word chars := by
  obtain ⟨name, notConstant⟩ := isIdentifier_iff.mp identifier
  exact literalToken_ne_word supported (wordKind_of_isName name) notConstant

theorem fieldTokens_ne_literalToken {target : Target} {value : Literal}
    (supported : (literal target value).obstacle = none) (name : List Char) :
    fieldTokens target name ≠ [literalToken target value] := by
  cases target with
  | java => simp [fieldTokens]
  | cpp =>
      have notConstant : "this->".toList ++ name ∉ Target.cpp.constantWords := by
        have arrows : ∀ word ∈ Target.cpp.constantWords, '>' ∉ word := by decide
        exact fun constant => arrows _ constant (List.mem_append_left _ (by decide))
      have other := literalToken_ne_word supported rfl notConstant
      intro same
      exact other (List.cons.inj same).1.symm

theorem fieldTokens_ne_identifier {target : Target} {chars : List Char}
    (identifier : target.isIdentifier chars = true) (name : List Char) :
    fieldTokens target name ≠ [.word chars] := by
  cases target with
  | java => simp [fieldTokens]
  | cpp =>
      have arrow : '>' ∉ chars := notMem_of_isName (isIdentifier_iff.mp identifier).1 (by decide)
      intro same
      rw [← Token.word.inj (List.cons.inj same).1] at arrow
      exact arrow (List.mem_append_left _ (by decide))

theorem fieldTokens_injective {target : Target} {first second : List Char}
    (same : fieldTokens target first = fieldTokens target second) : first = second := by
  cases target with
  | cpp => simpa [fieldTokens] using same
  | java => simpa [fieldTokens] using same

theorem determined_of_leaf {target : Target} {value : Expr} (writable : value.Writable target)
    (leaf : shape value = .leaf) : Determined target value := by
  intro other otherWritable otherGrouped same
  have grouped : value.grouped = true := by
    cases value with
    | literal => rfl
    | param => rfl
    | field => rfl
    | _ => cases leaf
  have otherLeaf : shape other = .leaf :=
    (shape_eq_of_exprTokens_eq writable grouped otherWritable otherGrouped same).trans leaf
  cases value with
  | literal first =>
      cases other with
      | literal second =>
          have tokens := (List.cons.inj same).1
          rw [literalChars_injective writable.2 otherWritable.2
            (literalChars_eq_of_literalToken_eq tokens)]
      | param named =>
          exact absurd (List.cons.inj same).1
            (literalToken_ne_identifier writable.2 (Expr.writable_param otherWritable))
      | field type name =>
          exact absurd same.symm (fieldTokens_ne_literalToken writable.2 _)
      | _ => cases otherLeaf
  | param named =>
      have identifier := Expr.writable_param writable
      cases other with
      | literal second =>
          exact absurd (List.cons.inj same).1.symm
            (literalToken_ne_identifier otherWritable.2 identifier)
      | param second =>
          have names := Token.word.inj (List.cons.inj same).1
          rw [Expr.written, Expr.written, String.toList_injective names]
      | field type name => exact absurd same.symm (fieldTokens_ne_identifier identifier _)
      | _ => cases otherLeaf
  | field type name =>
      cases other with
      | literal second => exact absurd same (fieldTokens_ne_literalToken otherWritable.2 _)
      | param second =>
          exact absurd same (fieldTokens_ne_identifier (Expr.writable_param otherWritable) _)
      | field otherType otherName =>
          rw [Expr.written, Expr.written, String.toList_injective (fieldTokens_injective same)]
      | _ => cases otherLeaf
  | _ => cases leaf

/-! ## Calls -/

/-- What stands in front of the arguments of a call. -/
inductive Head where
  | member (receiver : Expr) (method : String)
  | static (owner : List Char) (method : String)
  | create (type : List Char)

namespace Head

def tokens (target : Target) : Head → List Token
  | .member receiver method => exprTokens target receiver ++ [.dot, .word method.toList]
  | .static owner method => [.word (owner ++ ':' :: ':' :: method.toList)]
  | .create type => constructTokens target type

def written (target : Target) : Head → List Expr → Expr
  | .member receiver method, arguments =>
    .call (receiver.written target) ⟨.unwritten, method⟩ (Expr.allWritten target arguments)
  | .static owner method, arguments =>
    .staticCall ⟨.named (String.ofList owner), method⟩ (Expr.allWritten target arguments)
  | .create type, arguments =>
    .construct (.named (String.ofList type)) (Expr.allWritten target arguments)

/-- The conditions on the parts of a head. -/
def Valid (target : Target) : Head → Prop
  | .member receiver _ => receiver.Writable target ∧ receiver.grouped = true
  | .static owner _ => ':' ∉ owner
  | .create type => ':' ∉ type

end Head

/-- A call with its head and its arguments. -/
structure Decomposes (target : Target) (value : Expr) (head : Head) (arguments : List Expr) :
    Prop where
  tokens : exprTokens target value =
    head.tokens target ++ argumentTokens (exprsTokens target arguments)
  written : value.written target = head.written target arguments
  valid : head.Valid target
  arguments : ∀ argument ∈ arguments, argument.Writable target ∧ argument.grouped = true

variable {target : Target} {arguments : List Expr}

theorem decomposes_call {receiver : Expr} {method : MethodRef}
    (writable : (Expr.call receiver method arguments).Writable target)
    (grouped : (Expr.call receiver method arguments).grouped = true) :
    Decomposes target (.call receiver method arguments) (.member receiver method.name)
      arguments := by
  obtain ⟨receiverWritable, -, argumentsWritable⟩ := Expr.writable_call.mp writable
  rw [Expr.grouped, Bool.and_eq_true, Bool.and_eq_true, Expr.allGrouped_iff] at grouped
  refine ⟨?_, ?_, ⟨receiverWritable, grouped.1.2⟩, ?_⟩
  · rw [exprTokens, Head.tokens]
  · rw [Expr.written, Head.written]
  · exact fun argument member => ⟨argumentsWritable argument member, grouped.2 argument member⟩

/-- A static call in C++ has the type and the method for its head. -/
theorem decomposes_staticCall_cpp {method : MethodRef}
    (writable : (Expr.staticCall method arguments).Writable .cpp)
    (grouped : (Expr.staticCall method arguments).grouped = true) :
    Decomposes .cpp (.staticCall method arguments)
      (.static (typeChars .cpp method.owner) method.name) arguments := by
  obtain ⟨owner, -, argumentsWritable⟩ := Expr.writable_staticCall.mp writable
  rw [Expr.grouped, Expr.allGrouped_iff] at grouped
  refine ⟨?_, ?_, ?_, ?_⟩
  · rw [exprTokens, Head.tokens, staticTokens]
  · rw [Expr.written, Head.written, TypeRef.written]
  · exact notMem_of_isName (isIdentifier_iff.mp owner.isIdentifier).1 (by decide)
  · exact fun argument member => ⟨argumentsWritable argument member, grouped argument member⟩

/-- The parameter that the owner of a static method looks like. -/
def ownerParam (target : Target) (method : MethodRef) : Expr :=
  .param ⟨String.ofList (typeChars target method.owner), .unwritten⟩

theorem writable_ownerParam {method : MethodRef} (owner : method.owner.Writable target) :
    (ownerParam target method).Writable target := by
  have identifier := owner.isIdentifier
  refine ⟨namedFor_cons.mpr ⟨?_, namedFor_nil target⟩, rfl⟩
  rwa [String.toList_ofList]

/-- A static call in Java looks like a call through a parameter. -/
theorem decomposes_staticCall_java {method : MethodRef}
    (writable : (Expr.staticCall method arguments).Writable .java)
    (grouped : (Expr.staticCall method arguments).grouped = true) :
    Decomposes .java (.staticCall method arguments)
      (.member (ownerParam .java method) method.name) arguments := by
  obtain ⟨owner, -, argumentsWritable⟩ := Expr.writable_staticCall.mp writable
  rw [Expr.grouped, Expr.allGrouped_iff] at grouped
  refine ⟨?_, ?_, ⟨writable_ownerParam owner, rfl⟩, ?_⟩
  · rw [exprTokens, Head.tokens, staticTokens, ownerParam, exprTokens, String.toList_ofList]
    rfl
  · rw [Expr.written, Head.written, ownerParam, Expr.written]
  · exact fun argument member => ⟨argumentsWritable argument member, grouped argument member⟩

theorem decomposes_construct {type : TypeRef}
    (writable : (Expr.construct type arguments).Writable target)
    (grouped : (Expr.construct type arguments).grouped = true) :
    Decomposes target (.construct type arguments) (.create (typeChars target type)) arguments := by
  obtain ⟨constructed, argumentsWritable⟩ := Expr.writable_construct.mp writable
  rw [Expr.grouped, Expr.allGrouped_iff] at grouped
  refine ⟨?_, ?_, ?_, ?_⟩
  · rw [exprTokens, Head.tokens]
  · rw [Expr.written, Head.written, TypeRef.written]
  · exact notMem_of_isName (isIdentifier_iff.mp constructed.isIdentifier).1 (by decide)
  · exact fun argument member => ⟨argumentsWritable argument member, grouped argument member⟩

theorem exists_decomposes {value : Expr} (applied : shape value = .applied)
    (writable : value.Writable target) (grouped : value.grouped = true) :
    ∃ head arguments, Decomposes target value head arguments := by
  cases value with
  | call receiver method arguments => exact ⟨_, _, decomposes_call writable grouped⟩
  | staticCall method arguments =>
      cases target with
      | cpp => exact ⟨_, _, decomposes_staticCall_cpp writable grouped⟩
      | java => exact ⟨_, _, decomposes_staticCall_java writable grouped⟩
  | construct type arguments => exact ⟨_, _, decomposes_construct writable grouped⟩
  | _ => cases applied

namespace Head

theorem closed_tokens (target : Target) (head : Head) : Closed (head.tokens target) := by
  have dot : Closed [.dot] := Avoids.singleton (fun _ => rfl) rfl
  have word (chars : List Char) : Closed [.word chars] := Avoids.singleton (fun _ => rfl) rfl
  cases head with
  | member receiver method =>
      exact (closed_exprTokens target receiver).append (dot.append (word _))
  | static owner method => exact word _
  | create type =>
      cases target with
      | cpp => exact word _
      | java => exact (word _).append (word _)

/-- Only a method that is called through a receiver has a dot in front of its name. -/
theorem exprTokens_append_ne_constructTokens (receiver : Expr) (method type : List Char) :
    exprTokens target receiver ++ [.dot, .word method] ≠ constructTokens target type := by
  intro same
  have nonempty := exprTokens_ne_nil target receiver
  cases target with
  | cpp =>
      have lengths := congrArg List.length same
      simp [constructTokens] at lengths
  | java =>
      obtain ⟨none, -⟩ := List.append_inj' (same.trans (List.nil_append _).symm) rfl
      exact nonempty none

theorem exprTokens_append_ne_word (receiver : Expr) (method chars : List Char) :
    exprTokens target receiver ++ [.dot, .word method] ≠ [.word chars] := by
  intro same
  have lengths := congrArg List.length same
  simp at lengths

theorem word_ne_constructTokens {type : List Char} (plain : ':' ∉ type) (owner method : List Char) :
    [.word (owner ++ ':' :: ':' :: method)] ≠ constructTokens target type := by
  intro same
  cases target with
  | cpp =>
      rw [← Token.word.inj (List.cons.inj same).1] at plain
      exact plain (List.mem_append_right _ List.mem_cons_self)
  | java => simp [constructTokens] at same

theorem constructTokens_injective {first second : List Char}
    (same : constructTokens target first = constructTokens target second) : first = second := by
  cases target with
  | cpp => simpa [constructTokens] using same
  | java => simpa [constructTokens] using same

/-- The tokens of a head are those of no other head, up to what is not written. -/
theorem written_eq {head other : Head} (valid : head.Valid target) (otherValid : other.Valid target)
    (determined : ∀ receiver method, head = .member receiver method → Determined target receiver)
    {further : List Expr}
    (written : Expr.allWritten target arguments = Expr.allWritten target further)
    (same : head.tokens target = other.tokens target) :
    head.written target arguments = other.written target further := by
  cases head with
  | member receiver method =>
      cases other with
      | member otherReceiver otherMethod =>
          obtain ⟨receivers, methods⟩ := List.append_inj' same rfl
          have names : method = otherMethod := by
            simpa [String.toList_inj] using methods
          have receiversWritten :=
            determined receiver method rfl otherReceiver otherValid.1 otherValid.2 receivers
          rw [Head.written, Head.written, receiversWritten, names, written]
      | static owner otherMethod => exact absurd same (exprTokens_append_ne_word _ _ _)
      | create type => exact absurd same (exprTokens_append_ne_constructTokens _ _ _)
  | static owner method =>
      cases other with
      | member receiver otherMethod => exact absurd same.symm (exprTokens_append_ne_word _ _ _)
      | static otherOwner otherMethod =>
          have noColon {chars : List Char} (plain : ':' ∉ chars) :
              ∀ char ∈ chars, ¬ char = ':' := by
            rintro char member rfl
            exact plain member
          have words := Token.word.inj (List.cons.inj same).1
          obtain ⟨owners, -, methods⟩ :=
            append_cons_inj_of_first (noColon valid) (noColon otherValid) rfl rfl words
          have names := String.toList_injective (List.cons.inj methods).2
          rw [Head.written, Head.written, owners, names, written]
      | create type => exact absurd same (word_ne_constructTokens otherValid _ _)
  | create type =>
      cases other with
      | member receiver method =>
          exact absurd same.symm (exprTokens_append_ne_constructTokens _ _ _)
      | static owner method => exact absurd same.symm (word_ne_constructTokens valid _ _)
      | create otherType =>
          rw [Head.written, Head.written, constructTokens_injective same, written]

end Head

/-- The arguments between two parentheses are determined if each of them is. -/
theorem allWritten_eq {further : List Expr}
    (determined : ∀ argument ∈ arguments, Determined target argument)
    (members : ∀ argument ∈ further, argument.Writable target ∧ argument.grouped = true)
    (same : arguments.map (exprTokens target) = further.map (exprTokens target)) :
    Expr.allWritten target arguments = Expr.allWritten target further := by
  induction arguments generalizing further with
  | nil =>
      cases further with
      | nil => rfl
      | cons => cases same
  | cons argument arguments ih =>
      cases further with
      | nil => cases same
      | cons other further =>
          obtain ⟨first, rest⟩ := List.forall_mem_cons.mp determined
          obtain ⟨otherMember, otherRest⟩ := List.forall_mem_cons.mp members
          obtain ⟨tokens, others⟩ := List.cons.inj same
          rw [Expr.allWritten, Expr.allWritten, ih rest otherRest others,
            first other otherMember.1 otherMember.2 tokens]

/-- A call is determined if its receiver and its arguments are. -/
theorem determined_of_decomposes {value : Expr} {head : Head} (writable : value.Writable target)
    (grouped : value.grouped = true) (applied : shape value = .applied)
    (decomposes : Decomposes target value head arguments)
    (receiverDetermined : ∀ receiver method, head = .member receiver method →
      Determined target receiver)
    (argumentsDetermined : ∀ argument ∈ arguments, argument.Writable target →
      argument.grouped = true → Determined target argument) :
    Determined target value := by
  intro other otherWritable otherGrouped same
  have otherApplied : shape other = .applied :=
    (shape_eq_of_exprTokens_eq writable grouped otherWritable otherGrouped same).trans applied
  obtain ⟨otherHead, further, otherDecomposes⟩ :=
    exists_decomposes otherApplied otherWritable otherGrouped
  have closed (values : List Expr) : Closed (listedTokens (exprsTokens target values)) :=
    closed_arguments fun value _ => closed_exprTokens target value
  have parts (values : List Expr) :
      ∀ part ∈ values.map (exprTokens target), Avoids isComma part ∧ part ≠ [] := by
    intro part member
    obtain ⟨value, -, rfl⟩ := List.mem_map.mp member
    exact ⟨avoids_comma target value, exprTokens_ne_nil target value⟩
  rw [decomposes.tokens, otherDecomposes.tokens] at same
  obtain ⟨heads, lists⟩ := (head.closed_tokens target).splitGroup (otherHead.closed_tokens target)
    (closed arguments) (closed further) same
  rw [exprsTokens_eq_map, exprsTokens_eq_map] at lists
  have determined (argument : Expr) (member : argument ∈ arguments) : Determined target argument :=
    argumentsDetermined argument member (decomposes.arguments argument member).1
      (decomposes.arguments argument member).2
  have written := allWritten_eq determined otherDecomposes.arguments
    (listedTokens_injective (parts arguments) (parts further) lists)
  rw [decomposes.written, otherDecomposes.written]
  exact Head.written_eq decomposes.valid otherDecomposes.valid receiverDetermined written heads

/-! ## Operations -/

theorem symbol?_injective {first second : Operator} {symbol : String}
    (firstSpelled : target.symbol? first = some symbol)
    (secondSpelled : target.symbol? second = some symbol) : first = second := by
  have found {operator : Operator} (spelled : target.symbol? operator = some symbol) :
      Operator.all.find? (fun listed => target.symbol? listed == some symbol) = some operator := by
    cases target <;> cases operator <;> cases spelled <;> decide
  exact Option.some.inj ((found firstSpelled).symm.trans (found secondSpelled))

theorem head_exprTokens {value : Expr} (rooted : isOperation value.root = false) :
    (exprTokens target value).head? ≠ some .opening := by
  induction value using Expr.induction with
  | literal value =>
      rw [exprTokens]
      cases value <;> simp [literalToken]
  | param => simp [exprTokens]
  | binary => cases rooted
  | assign => cases rooted
  | call receiver method arguments receiverIH argumentsIH =>
      rw [exprTokens, List.append_assoc, List.head?_append_of_ne_nil _ (exprTokens_ne_nil _ _)]
      exact receiverIH rooted
  | staticCall => cases target <;> simp [exprTokens, staticTokens]
  | construct => cases target <;> simp [exprTokens, constructTokens]
  | field => cases target <;> simp [exprTokens, fieldTokens]

/-- An operand in parentheses is told from one without them by its first token. -/
theorem operandTokens_injective {first second : Expr} (firstGrouped : first.grouped = true)
    (secondGrouped : second.grouped = true)
    (same : operandTokens (isOperation first) (exprTokens target first) =
      operandTokens (isOperation second) (exprTokens target second)) :
    exprTokens target first = exprTokens target second := by
  have notOpening {value : Expr} (grouped : value.grouped = true)
      (notOperation : isOperation value = false) :
      (exprTokens target value).head? ≠ some .opening :=
    head_exprTokens (Expr.isOperation_root grouped notOperation)
  cases firstOperation : isOperation first <;> cases secondOperation : isOperation second <;>
    rw [firstOperation, secondOperation] at same
  case false.false => exact same
  case true.true => exact List.append_cancel_right (List.cons.inj same).2
  case false.true =>
    have starts := notOpening firstGrouped firstOperation
    change exprTokens target first = .opening :: _ at same
    rw [same] at starts
    exact absurd rfl starts
  case true.false =>
    have starts := notOpening secondGrouped secondOperation
    change .opening :: _ = exprTokens target second at same
    rw [← same] at starts
    exact absurd rfl starts

theorem determined_binary {operator : Operator} {left right : Expr}
    (writable : (Expr.binary operator left right).Writable target)
    (grouped : (Expr.binary operator left right).grouped = true)
    (leftDetermined : Determined target left) (rightDetermined : Determined target right) :
    Determined target (.binary operator left right) := by
  intro other otherWritable otherGrouped same
  have shapes := shape_eq_of_exprTokens_eq writable grouped otherWritable otherGrouped same
  cases other with
  | binary otherOperator otherLeft otherRight =>
      obtain ⟨⟨symbol, spelled⟩, leftWritable, -⟩ := Expr.writable_binary.mp writable
      obtain ⟨⟨otherSymbol, otherSpelled⟩, otherLeftWritable, otherRightWritable⟩ :=
        Expr.writable_binary.mp otherWritable
      rw [Expr.grouped, Bool.and_eq_true] at grouped otherGrouped
      rw [exprTokens, exprTokens, spelled, otherSpelled] at same
      obtain ⟨lefts, symbols, rights⟩ := (avoids_symbol_operand leftWritable grouped.1).split
        (avoids_symbol_operand otherLeftWritable otherGrouped.1) (isSymbol_symbol spelled).1
        (isSymbol_symbol otherSpelled).1 same
      have sameSymbol : symbol = otherSymbol := String.toList_injective (Token.word.inj symbols)
      subst sameSymbol
      rw [Expr.written, Expr.written, symbol?_injective spelled otherSpelled,
        leftDetermined otherLeft otherLeftWritable otherGrouped.1
          (operandTokens_injective grouped.1 otherGrouped.1 lefts),
        rightDetermined otherRight otherRightWritable otherGrouped.2
          (operandTokens_injective grouped.2 otherGrouped.2 rights)]
  | _ => cases shapes

theorem exprTokens_assign_inj {assigned value otherAssigned otherValue : Expr}
    (writable : assigned.Writable target) (grouped : assigned.grouped = true)
    (notAssign : assigned.isAssign = false) (otherWritable : otherAssigned.Writable target)
    (otherGrouped : otherAssigned.grouped = true) (otherNotAssign : otherAssigned.isAssign = false)
    (same : exprTokens target (.assign assigned value) =
      exprTokens target (.assign otherAssigned otherValue)) :
    exprTokens target assigned = exprTokens target otherAssigned ∧
      exprTokens target value = exprTokens target otherValue := by
  rw [exprTokens, exprTokens] at same
  obtain ⟨targets, -, values⟩ := (avoids_equals writable grouped notAssign).split
    (avoids_equals otherWritable otherGrouped otherNotAssign) (by decide) (by decide) same
  exact ⟨targets, values⟩

theorem determined_assign {assigned value : Expr}
    (writable : (Expr.assign assigned value).Writable target)
    (grouped : (Expr.assign assigned value).grouped = true)
    (assignedDetermined : Determined target assigned) (valueDetermined : Determined target value) :
    Determined target (.assign assigned value) := by
  intro other otherWritable otherGrouped same
  have shapes := shape_eq_of_exprTokens_eq writable grouped otherWritable otherGrouped same
  cases other with
  | assign otherAssigned otherValue =>
      obtain ⟨assignedWritable, -⟩ := Expr.writable_assign.mp writable
      obtain ⟨otherAssignedWritable, otherValueWritable⟩ := Expr.writable_assign.mp otherWritable
      rw [Expr.grouped, Bool.and_eq_true, Bool.and_eq_true, Bool.not_eq_true']
        at grouped otherGrouped
      obtain ⟨targets, values⟩ := exprTokens_assign_inj assignedWritable grouped.1.2 grouped.1.1
        otherAssignedWritable otherGrouped.1.2 otherGrouped.1.1 same
      rw [Expr.written, Expr.written,
        assignedDetermined otherAssigned otherAssignedWritable otherGrouped.1.2 targets,
        valueDetermined otherValue otherValueWritable otherGrouped.2 values]
  | _ => cases shapes

/-- Grouped expressions with the same tokens are the same, up to what is not written. -/
theorem determined_of_grouped {value : Expr} (writable : value.Writable target)
    (grouped : value.grouped = true) : Determined target value := by
  induction value using Expr.induction with
  | literal value => exact determined_of_leaf writable rfl
  | param named => exact determined_of_leaf writable rfl
  | field type name => exact determined_of_leaf writable rfl
  | binary operator left right leftIH rightIH =>
      obtain ⟨-, leftWritable, rightWritable⟩ := Expr.writable_binary.mp writable
      have parts := grouped
      rw [Expr.grouped, Bool.and_eq_true] at parts
      exact determined_binary writable grouped (leftIH leftWritable parts.1)
        (rightIH rightWritable parts.2)
  | assign assigned value assignedIH valueIH =>
      obtain ⟨assignedWritable, valueWritable⟩ := Expr.writable_assign.mp writable
      have parts := grouped
      rw [Expr.grouped, Bool.and_eq_true, Bool.and_eq_true] at parts
      exact determined_assign writable grouped (assignedIH assignedWritable parts.1.2)
        (valueIH valueWritable parts.2)
  | call receiver method arguments receiverIH argumentsIH =>
      have decomposes := decomposes_call writable grouped
      refine determined_of_decomposes writable grouped rfl decomposes ?_ argumentsIH
      rintro _ _ ⟨⟩
      exact receiverIH decomposes.valid.1 decomposes.valid.2
  | staticCall method arguments argumentsIH =>
      cases target with
      | cpp =>
          have decomposes := decomposes_staticCall_cpp writable grouped
          refine determined_of_decomposes writable grouped rfl decomposes ?_ argumentsIH
          rintro _ _ ⟨⟩
      | java =>
          have decomposes := decomposes_staticCall_java writable grouped
          refine determined_of_decomposes writable grouped rfl decomposes ?_ argumentsIH
          rintro _ _ ⟨⟩
          exact determined_of_leaf decomposes.valid.1 rfl
  | construct type arguments argumentsIH =>
      have decomposes := decomposes_construct writable grouped
      refine determined_of_decomposes writable grouped rfl decomposes ?_ argumentsIH
      rintro _ _ ⟨⟩

end Emission

end Sourcewright
