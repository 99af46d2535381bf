import Sourcewright.Emission.Node
import Sourcewright.Proofs.Emission.Constructs
import Sourcewright.Proofs.Reference.Preparation

/-!
# Obstacles

A script ends at its first obstacle.  So the obstacle of the script for a tree is the first
one among the constructs of the tree, as scripts and lists of constructs are put together in
the same order.
-/

namespace Sourcewright

namespace Target

/-- Whether a target has a form for references of a kind. -/
def rendersKind : Target → ReferenceKind → Bool
  | cpp, .importName => false
  | cpp, _ => true
  | java, .importName => true
  | java, _ => false

/-- The obstacle that a construct is for a target, if the target does not support it. -/
def obstacle? (target : Target) : Construct → Option Emission.Obstacle
  | .type (.named _) => none
  | .type (.primitive builtin) =>
    if (target.primitiveName? builtin).isSome then none else some (.primitive target builtin)
  | .operator applied =>
    if (target.symbol? applied).isSome then none else some (.operator target applied)
  | .float value => if value.isFinite then none else some (.float target value)
  | .conditional branching =>
    if branching.wellFormed then
      none
    else
      some (.conditional branching.conditions.length branching.blocks.length
        (branching.outline.render Emission.outlineWidth))
  | .reference listed =>
    if target.rendersKind listed.kind then none else some (.reference target listed)

/-- The obstacle that comes first in a list of constructs. -/
def firstObstacle (target : Target) (constructs : List Construct) : Option Emission.Obstacle :=
  constructs.findSome? target.obstacle?

@[simp]
theorem firstObstacle_nil (target : Target) : target.firstObstacle [] = none :=
  rfl

@[simp]
theorem firstObstacle_cons (target : Target) (first : Construct) (rest : List Construct) :
    target.firstObstacle (first :: rest) =
      (target.obstacle? first).or (target.firstObstacle rest) := by
  simp only [firstObstacle, List.findSome?_cons]
  cases target.obstacle? first <;> rfl

@[simp]
theorem firstObstacle_append (target : Target) (first second : List Construct) :
    target.firstObstacle (first ++ second) =
      (target.firstObstacle first).or (target.firstObstacle second) :=
  List.findSome?_append

end Target

namespace Emission

/-! ## Obstacles of scripts -/

namespace Script

@[simp]
theorem obstacle_append (first second : Script) :
    (first ++ second).obstacle = first.obstacle.or second.obstacle := by
  cases stopped : first.obstacle with
  | some obstacle => rw [append_of_obstacle stopped, stopped, Option.some_or]
  | none => rw [append_of_no_obstacle stopped, Option.none_or]

@[simp]
theorem obstacle_empty : empty.obstacle = none :=
  rfl

@[simp]
theorem obstacle_step (taken : Step) : (step taken).obstacle = none :=
  rfl

@[simp]
theorem obstacle_stop (obstacle : Obstacle) : (stop obstacle).obstacle = some obstacle :=
  rfl

@[simp]
theorem obstacle_text (written : String) : (text written).obstacle = none :=
  rfl

@[simp]
theorem obstacle_line (written : String) : (line written).obstacle = none :=
  rfl

@[simp]
theorem obstacle_indented (inner : Script) : (indented inner).obstacle = inner.obstacle := by
  simp [indented]

theorem obstacle_sequence (scripts : List Script) :
    (sequence scripts).obstacle = scripts.findSome? obstacle := by
  induction scripts with
  | nil => rfl
  | cons first rest ih =>
      rw [sequence, obstacle_append, ih, List.findSome?_cons]
      cases first.obstacle <;> rfl

theorem obstacle_eachAfter (mark : String) (scripts : List Script) :
    (eachAfter mark scripts).obstacle = scripts.findSome? obstacle := by
  induction scripts with
  | nil => rfl
  | cons first rest ih =>
      rw [eachAfter, obstacle_append, obstacle_append, obstacle_text, ih, List.findSome?_cons,
        Option.none_or]
      cases first.obstacle <;> rfl

@[simp]
theorem obstacle_parenthesized (scripts : List Script) :
    (parenthesized scripts).obstacle = scripts.findSome? obstacle := by
  cases scripts with
  | nil => rfl
  | cons first rest =>
      simp only [parenthesized, obstacle_append, obstacle_text, obstacle_eachAfter,
        Option.none_or, Option.or_none, List.findSome?_cons]
      cases first.obstacle <;> rfl

end Script

/-- If the obstacle of every part is the first one of its constructs, the first obstacle of
the parts is the first one of all constructs. -/
theorem findSome?_obstacle {α : Type} {target : Target} {obstacleOf : α → Option Obstacle}
    {constructs : α → List Construct} {parts : List α}
    (member : ∀ part ∈ parts, obstacleOf part = target.firstObstacle (constructs part)) :
    parts.findSome? obstacleOf = target.firstObstacle (parts.flatMap constructs) := by
  induction parts with
  | nil => rfl
  | cons part parts ih =>
      obtain ⟨first, rest⟩ := List.forall_mem_cons.mp member
      rw [List.findSome?_cons, List.flatMap_cons, Target.firstObstacle_append, ih rest, first]
      cases target.firstObstacle (constructs part) <;> rfl

/-! ## Obstacles of expressions -/

variable (target : Target)

theorem obstacle_literal (value : Literal) :
    (literal target value).obstacle = target.firstObstacle value.constructs := by
  cases value with
  | truth value => cases value <;> rfl
  | float value =>
      cases finite : value.isFinite <;>
        simp [literal, Literal.constructs, Target.obstacle?, finite]
  | integer value => rfl
  | text value => rfl
  | null => rfl

@[simp]
theorem obstacle_typeRef (type : TypeRef) :
    (typeRef target type).obstacle = target.obstacle? (.type type) := by
  cases type with
  | named name => rfl
  | primitive builtin =>
      cases spelled : target.primitiveName? builtin <;>
        simp [typeRef, Script.textOr, Target.obstacle?, spelled]

@[simp]
theorem obstacle_operand (operation : Bool) (inner : Script) :
    (operand operation inner).obstacle = inner.obstacle := by
  cases operation <;> simp [operand]

theorem exprs_eq_map (values : List Expr) : exprs target values = values.map (expr target) := by
  induction values with
  | nil => rfl
  | cons value values ih => simp [exprs, ih]

theorem obstacle_exprs {values : List Expr}
    (member : ∀ value ∈ values,
      (expr target value).obstacle = target.firstObstacle value.constructs) :
    (exprs target values).findSome? Script.obstacle =
      target.firstObstacle (values.flatMap Expr.constructs) := by
  rw [exprs_eq_map, List.findSome?_map]
  exact findSome?_obstacle member

theorem obstacle_expr (value : Expr) :
    (expr target value).obstacle = target.firstObstacle value.constructs := by
  induction value using Expr.induction with
  | literal value => exact obstacle_literal target value
  | param named => rfl
  | binary operator left right leftIH rightIH =>
      cases spelled : target.symbol? operator <;>
        simp [expr, Expr.constructs, Target.obstacle?, spelled, leftIH, rightIH]
  | assign assigned value assignedIH valueIH =>
      simp [expr, Expr.constructs, assignedIH, valueIH]
  | call receiver method arguments receiverIH argumentsIH =>
      simp [expr, Expr.constructs, receiverIH, obstacle_exprs target argumentsIH]
  | staticCall method arguments argumentsIH =>
      simp [expr, Expr.constructs, obstacle_exprs target argumentsIH]
  | construct type arguments argumentsIH =>
      simp [expr, Expr.constructs, obstacle_exprs target argumentsIH]
  | field type name => rfl

theorem obstacle_initialValue (value : Option Expr) :
    (initialValue target value).obstacle =
      target.firstObstacle (Expr.optionalConstructs value) := by
  cases value with
  | none => rfl
  | some value => simp [initialValue, Expr.optionalConstructs, obstacle_expr]

@[simp]
theorem obstacle_param (declared : Param) :
    (param target declared).obstacle = target.obstacle? (.type declared.type) := by
  simp [param]

@[simp]
theorem obstacle_params (declared : List Param) :
    (params target declared).obstacle = target.firstObstacle (Param.listConstructs declared) := by
  rw [params, Script.obstacle_parenthesized, List.findSome?_map, Param.listConstructs,
    List.map_eq_flatMap]
  exact findSome?_obstacle fun part _ => by simp

/-! ## Obstacles of statements -/

@[simp]
theorem obstacle_comment (text : String) : (comment text).obstacle = none := by
  simp [comment, Script.obstacle_sequence]

@[simp]
theorem obstacle_terminated (managesTermination : Bool) (statement : Script) :
    (terminated managesTermination statement).obstacle = statement.obstacle := by
  cases managesTermination <;> simp [terminated]

theorem obstacle_stmts {statements : List Stmt}
    (member : ∀ statement ∈ statements,
      (stmt target statement).obstacle = target.firstObstacle statement.constructs) :
    (stmts target statements).obstacle =
      target.firstObstacle (statements.flatMap Stmt.constructs) := by
  induction statements with
  | nil => rfl
  | cons statement statements ih =>
      obtain ⟨first, rest⟩ := List.forall_mem_cons.mp member
      simp [stmts, first, ih rest]

theorem blockScripts_eq_map (blocks : List Block) :
    blockScripts target blocks = blocks.map (block target) := by
  induction blocks with
  | nil => rfl
  | cons statements blocks ih =>
      rw [blockScripts, ih, List.map_cons, block]

/-- The branches of a conditional meet obstacles in turn: those of a condition, and then
those of the block behind it. -/
theorem obstacle_branches (first : Bool) {conditions : List Expr} {blocks : List Block}
    (inBlocks : ∀ statements ∈ blocks, (block target statements).obstacle =
      target.firstObstacle (statements.flatMap Stmt.constructs))
    (lengths : blocks.length = conditions.length ∨ blocks.length = conditions.length + 1) :
    (branches first (exprs target conditions) (blockScripts target blocks)).obstacle =
      target.firstObstacle (Construct.inTurn (conditions.map Expr.constructs)
        (blocks.map fun statements => statements.flatMap Stmt.constructs)) := by
  rw [exprs_eq_map, blockScripts_eq_map]
  induction conditions generalizing first blocks with
  | nil =>
      match blocks, lengths with
      | [], _ => rfl
      | [statements], _ =>
          simp [branches, Construct.inTurn, inBlocks statements List.mem_cons_self]
  | cons condition conditions ih =>
      cases blocks with
      | nil => simp at lengths
      | cons statements blocks =>
          obtain ⟨inFirst, inRest⟩ := List.forall_mem_cons.mp inBlocks
          have rest := ih false inRest (by simpa using lengths)
          simp [branches, Construct.inTurn, obstacle_expr, inFirst, rest, Option.or_assoc]

theorem lengths_of_wellFormed {branching : Conditional} (formed : branching.wellFormed = true) :
    branching.blocks.length = branching.conditions.length ∨
      branching.blocks.length = branching.conditions.length + 1 := by
  simp only [Conditional.wellFormed, Bool.and_eq_true, Bool.or_eq_true, beq_iff_eq] at formed
  exact formed.2

theorem obstacle_stmt (statement : Stmt) :
    (stmt target statement).obstacle = target.firstObstacle statement.constructs := by
  induction statement using Stmt.induction with
  | expr value => exact obstacle_expr target value
  | declare declared init => simp [stmt, Stmt.constructs, obstacle_initialValue]
  | conditional conditions blocks blocksIH =>
      have inBlocks : ∀ statements ∈ blocks, (block target statements).obstacle =
          target.firstObstacle (statements.flatMap Stmt.constructs) := by
        intro statements inside
        rw [block, Script.obstacle_indented, obstacle_stmts target (blocksIH statements inside)]
      cases formed : Conditional.wellFormed ⟨conditions, blocks⟩ with
      | false => simp [stmt, chain, Stmt.constructs, Target.obstacle?, formed]
      | true =>
          have inBranches := obstacle_branches target true inBlocks (lengths_of_wellFormed formed)
          simp [stmt, chain, Stmt.constructs, Target.obstacle?, formed, inBranches]
  | block statements statementsIH =>
      simp [stmt, Stmt.constructs, obstacle_stmts target statementsIH]
  | ret value =>
      cases value with
      | none => rfl
      | some value => simp [stmt, Stmt.constructs, Expr.optionalConstructs, obstacle_expr]
  | comment text => simp [stmt, Stmt.constructs]

@[simp]
theorem obstacle_block (statements : Block) :
    (block target statements).obstacle =
      target.firstObstacle (statements.flatMap Stmt.constructs) := by
  rw [block, Script.obstacle_indented, obstacle_stmts target fun statement _ =>
    obstacle_stmt target statement]

@[simp]
theorem obstacle_body (statements : Block) :
    (body target statements).obstacle =
      target.firstObstacle (statements.flatMap Stmt.constructs) := by
  simp [body]

/-! ## Obstacles of declarations -/

theorem obstacle_field (declaration : FieldDecl) :
    (field target declaration).obstacle = target.firstObstacle declaration.constructs := by
  cases target <;>
    simp [field, Cpp.field, Java.field, Java.marks, FieldDecl.constructs, obstacle_initialValue]

theorem obstacle_constructor (className : String) (declaration : ConstructorDecl) :
    (constructor target className declaration).obstacle =
      target.firstObstacle declaration.constructs := by
  cases target <;>
    simp [constructor, Cpp.constructor, Java.constructor, ConstructorDecl.constructs]

theorem obstacle_method (declaration : MethodDecl) :
    (method target declaration).obstacle = target.firstObstacle declaration.constructs := by
  cases target <;>
    simp [method, Cpp.method, Java.method, Java.marks, MethodDecl.constructs, Option.or_assoc]

theorem Cpp.obstacle_members (previous : Option MemberScript) (members : List MemberScript) :
    (Cpp.members previous members).obstacle =
      members.findSome? fun member => member.script.obstacle := by
  induction members generalizing previous with
  | nil => rfl
  | cons member members ih =>
      have boundary : (Cpp.boundary previous member).obstacle = none := by
        unfold Cpp.boundary
        split
        · split <;> rfl
        · cases previous <;> rfl
      rw [Cpp.members, Script.obstacle_append, Script.obstacle_append, boundary, ih,
        Script.obstacle_indented, List.findSome?_cons, Option.none_or]
      cases member.script.obstacle <;> rfl

theorem Java.obstacle_members (previous : Option MemberScript) (members : List MemberScript) :
    (Java.members previous members).obstacle =
      members.findSome? fun member => member.script.obstacle := by
  induction members generalizing previous with
  | nil => rfl
  | cons member members ih =>
      have boundary : (Java.boundary previous member).obstacle = none := by
        unfold Java.boundary
        split <;> rfl
      rw [Java.members, Script.obstacle_append, Script.obstacle_append, boundary, ih,
        List.findSome?_cons, Option.none_or]
      cases member.script.obstacle <;> rfl

/-- The scripts of the members of a class, given those of its nested classes. -/
def memberScripts (className : String) (fields : List FieldDecl)
    (constructors : List ConstructorDecl) (methods : List MethodDecl)
    (nested : List MemberScript) : List MemberScript :=
  fields.map (fun declaration =>
      ⟨true, declaration.modifiers.visibility, field target declaration⟩) ++
    constructors.map (fun declaration =>
      .ofModifiers declaration.modifiers (constructor target className declaration)) ++
    methods.map (fun declaration =>
      .ofModifiers declaration.modifiers (method target declaration)) ++
    nested

theorem obstacle_memberScripts (className : String) (fields : List FieldDecl)
    (constructors : List ConstructorDecl) (methods : List MethodDecl) (classes : List ClassDecl)
    {write : ClassDecl → Script}
    (inClasses : ∀ declaration ∈ classes,
      (write declaration).obstacle = target.firstObstacle declaration.constructs) :
    ((memberScripts target className fields constructors methods
        (classes.map fun declaration =>
          .ofModifiers declaration.modifiers (write declaration))).findSome?
        fun member => member.script.obstacle) =
      target.firstObstacle (fields.flatMap FieldDecl.constructs ++
        constructors.flatMap ConstructorDecl.constructs ++
        methods.flatMap MethodDecl.constructs ++ classes.flatMap ClassDecl.constructs) := by
  have inFields := findSome?_obstacle fun declaration (_ : declaration ∈ fields) =>
    obstacle_field target declaration
  have inConstructors := findSome?_obstacle fun declaration (_ : declaration ∈ constructors) =>
    obstacle_constructor target className declaration
  have inMethods := findSome?_obstacle fun declaration (_ : declaration ∈ methods) =>
    obstacle_method target declaration
  simp only [memberScripts, List.findSome?_append, List.findSome?_map,
    Target.firstObstacle_append, ← inFields, ← inConstructors, ← inMethods,
    ← findSome?_obstacle inClasses]
  rfl

theorem Cpp.classDecl_eq (modifiers : Modifiers) (scope name : String)
    (fields : List FieldDecl) (constructors : List ConstructorDecl) (methods : List MethodDecl)
    (classes : List ClassDecl) :
    Cpp.classDecl ⟨modifiers, scope, name, fields, constructors, methods, classes⟩ =
      .line (Cpp.classHeader modifiers name) ++
        Cpp.members none
          (memberScripts .cpp name fields constructors methods (Cpp.nestedClasses classes)) ++
        .line "\x7d;" :=
  rfl

theorem Cpp.nestedClasses_eq_map (classes : List ClassDecl) :
    Cpp.nestedClasses classes = classes.map fun declaration =>
      .ofModifiers declaration.modifiers (Cpp.classDecl declaration) := by
  induction classes with
  | nil => rfl
  | cons declaration classes ih => rw [Cpp.nestedClasses, ih, List.map_cons]

theorem Cpp.obstacle_classDecl (declaration : ClassDecl) :
    (Cpp.classDecl declaration).obstacle =
      Target.cpp.firstObstacle declaration.constructs := by
  induction declaration using ClassDecl.induction with
  | mk modifiers scope name fields constructors methods classes classesIH =>
      rw [Cpp.classDecl_eq, Script.obstacle_append, Script.obstacle_append, Cpp.obstacle_members,
        Cpp.nestedClasses_eq_map, obstacle_memberScripts _ _ _ _ _ _ classesIH]
      simp [ClassDecl.constructs]

theorem Java.classDecl_eq (nested : Bool) (modifiers : Modifiers) (scope name : String)
    (fields : List FieldDecl) (constructors : List ConstructorDecl) (methods : List MethodDecl)
    (classes : List ClassDecl) :
    Java.classDecl nested ⟨modifiers, scope, name, fields, constructors, methods, classes⟩ =
      Java.classHeader nested modifiers name ++
        .indented (Java.members none
          (memberScripts .java name fields constructors methods (Java.nestedClasses classes))) ++
        .line "\x7d" :=
  rfl

theorem Java.nestedClasses_eq_map (classes : List ClassDecl) :
    Java.nestedClasses classes = classes.map fun declaration =>
      .ofModifiers declaration.modifiers (Java.classDecl true declaration) := by
  induction classes with
  | nil => rfl
  | cons declaration classes ih => rw [Java.nestedClasses, ih, List.map_cons]

theorem Java.obstacle_classDecl (nested : Bool) (declaration : ClassDecl) :
    (Java.classDecl nested declaration).obstacle =
      Target.java.firstObstacle declaration.constructs := by
  induction declaration using ClassDecl.induction generalizing nested with
  | mk modifiers scope name fields constructors methods classes classesIH =>
      have inClasses : ∀ declaration ∈ classes, (Java.classDecl true declaration).obstacle =
          Target.java.firstObstacle declaration.constructs :=
        fun declaration inside => classesIH declaration inside true
      rw [Java.classDecl_eq, Script.obstacle_append, Script.obstacle_append,
        Script.obstacle_indented, Java.obstacle_members, Java.nestedClasses_eq_map,
        obstacle_memberScripts _ _ _ _ _ _ inClasses]
      simp [ClassDecl.constructs, Java.classHeader]

theorem Cpp.obstacle_reference (listed : Reference) :
    (Cpp.reference listed).obstacle = Target.cpp.obstacle? (.reference listed) := by
  obtain ⟨kind, path⟩ := listed
  cases kind <;> rfl

theorem Java.obstacle_reference (listed : Reference) :
    (Java.reference listed).obstacle = Target.java.obstacle? (.reference listed) := by
  obtain ⟨kind, path⟩ := listed
  cases kind <;> rfl

theorem obstacle_references {reference : Reference → Script}
    (single : ∀ listed, (reference listed).obstacle = target.obstacle? (.reference listed))
    (written : List Reference) :
    (Script.sequence (written.map reference) ++
        (if written.isEmpty then .empty else .line "")).obstacle =
      target.firstObstacle (written.map .reference) := by
  have blank : (if written.isEmpty then Script.empty else .line "").obstacle = none := by
    split <;> rfl
  rw [Script.obstacle_append, blank, Option.or_none, Script.obstacle_sequence,
    Target.firstObstacle, List.findSome?_map, List.findSome?_map]
  exact congrArg (written.findSome? ·) (funext single)

/-- A file meets the obstacles of its references as they are listed, and then those of its
class. -/
theorem obstacle_file (written : FileDecl) :
    (file target written).obstacle =
      target.firstObstacle (written.references.map .reference ++ written.body.constructs) := by
  rw [Target.firstObstacle_append]
  cases target with
  | cpp =>
      have inNamespace (scope : String) (inner : Script) :
          (Cpp.inNamespace scope inner).obstacle = inner.obstacle := by
        unfold Cpp.inNamespace
        split <;> simp
      rw [file, Cpp.file, Cpp.references, Script.obstacle_append, inNamespace,
        obstacle_references .cpp Cpp.obstacle_reference, Cpp.obstacle_classDecl]
  | java =>
      have package (scope : String) : (Java.package scope).obstacle = none := by
        unfold Java.package
        split <;> rfl
      rw [file, Java.file, Java.references, Script.obstacle_append, Script.obstacle_append, package,
        obstacle_references .java Java.obstacle_reference, Java.obstacle_classDecl,
        Option.none_or]

/-- A tree that is not a file meets the obstacles of its constructs. -/
theorem obstacle_node {tree : Node} (notFile : tree.becomesFile = false) :
    (node target tree).obstacle = target.firstObstacle tree.constructs := by
  cases tree with
  | expr tree => simp [node, Node.constructs, obstacle_expr]
  | stmt tree => simp [node, Node.constructs, obstacle_stmt]
  | block tree => simp [node, Node.constructs, bracketedBlock]
  | field tree => exact obstacle_field target tree
  | constructor tree => exact obstacle_constructor target fragmentName tree
  | method tree => exact obstacle_method target tree
  | classDecl tree => cases notFile
  | file tree => cases notFile

end Emission

end Sourcewright
