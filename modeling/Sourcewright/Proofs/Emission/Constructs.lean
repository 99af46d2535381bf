import Sourcewright.Emission.Obstacle
import Sourcewright.Proofs.Tree.Types
import Sourcewright.Reference.Set

/-!
# The constructs of a tree

Not everything in a tree can be written for every target.  This file lists the
constructs that a target may have no way to write, in the order in which a tree is
written: types where they are written, operators, floating point constants,
conditionals, and references.

Types that stand in a tree but have no place in source text are not listed: those of
parameters and fields in expressions, and the owner of a method that is called through
a receiver.
-/

namespace Sourcewright

/-- The constructs that a target may not be able to write. -/
inductive Construct where
  /-- A type at a place where it is written. -/
  | type (type : TypeRef)
  | operator (operator : Operator)
  | float (value : Binary64)
  | conditional (conditional : Conditional)
  | reference (reference : Reference)

def Literal.constructs : Literal → List Construct
  | .float value => [.float value]
  | .truth _ => []
  | .integer _ => []
  | .text _ => []
  | .null => []

def Param.listConstructs (params : List Param) : List Construct :=
  params.map fun param => .type param.type

namespace Expr

mutual

/-- The constructs of an expression.  An operator comes before its operands. -/
def constructs : Expr → List Construct
  | .literal value => value.constructs
  | .param _ => []
  | .binary operator left right => .operator operator :: constructs left ++ constructs right
  | .assign target value => constructs target ++ constructs value
  | .call receiver _ arguments => constructs receiver ++ allConstructs arguments
  | .staticCall method arguments => .type method.owner :: allConstructs arguments
  | .construct type arguments => .type type :: allConstructs arguments
  | .field _ _ => []

def allConstructs : List Expr → List Construct
  | [] => []
  | expr :: exprs => constructs expr ++ allConstructs exprs

end

@[simp]
theorem allConstructs_eq_flatMap (exprs : List Expr) :
    allConstructs exprs = exprs.flatMap constructs := by
  induction exprs with
  | nil => rfl
  | cons expr exprs ih => simp [allConstructs, ih]

def optionalConstructs (value : Option Expr) : List Construct :=
  value.toList.flatMap constructs

end Expr

/-- The constructs of conditions and blocks in turn: each condition, and then the block
behind it.  What is left of the longer list comes last. -/
def Construct.inTurn : (conditions blocks : List (List Construct)) → List Construct
  | condition :: conditions, block :: blocks => condition ++ block ++ inTurn conditions blocks
  | [], blocks => blocks.flatten
  | conditions, [] => conditions.flatten

namespace Stmt

mutual

/-- The constructs of a statement.  A conditional comes before its parts. -/
def constructs : Stmt → List Construct
  | .expr value => value.constructs
  | .declare param init => .type param.type :: Expr.optionalConstructs init
  | .conditional conditions blocks =>
    .conditional ⟨conditions, blocks⟩ ::
      Construct.inTurn (conditions.map Expr.constructs) (blockConstructs blocks)
  | .block statements => allConstructs statements
  | .ret value => Expr.optionalConstructs value
  | .comment _ => []

def allConstructs : List Stmt → List Construct
  | [] => []
  | statement :: statements => constructs statement ++ allConstructs statements

/-- The constructs of blocks, each block apart. -/
def blockConstructs : List (List Stmt) → List (List Construct)
  | [] => []
  | statements :: blocks => allConstructs statements :: blockConstructs blocks

end

@[simp]
theorem allConstructs_eq_flatMap (statements : List Stmt) :
    allConstructs statements = statements.flatMap constructs := by
  induction statements with
  | nil => rfl
  | cons statement statements ih => simp [allConstructs, ih]

@[simp]
theorem blockConstructs_eq_map (blocks : List (List Stmt)) :
    blockConstructs blocks = blocks.map fun statements => statements.flatMap constructs := by
  induction blocks with
  | nil => rfl
  | cons statements blocks ih => simp [blockConstructs, ih]

end Stmt

def FieldDecl.constructs (declaration : FieldDecl) : List Construct :=
  .type declaration.type :: Expr.optionalConstructs declaration.init

def ConstructorDecl.constructs (declaration : ConstructorDecl) : List Construct :=
  Param.listConstructs declaration.params ++ declaration.body.flatMap Stmt.constructs

def MethodDecl.constructs (declaration : MethodDecl) : List Construct :=
  .type declaration.returnType :: Param.listConstructs declaration.params ++
    declaration.body.flatMap Stmt.constructs

namespace ClassDecl

mutual

/-- The constructs of a class: of its fields, constructors, methods and nested classes. -/
def constructs : ClassDecl → List Construct
  | ⟨_, _, _, fields, constructors, methods, classes⟩ =>
    fields.flatMap FieldDecl.constructs ++ constructors.flatMap ConstructorDecl.constructs ++
      methods.flatMap MethodDecl.constructs ++ allConstructs classes

def allConstructs : List ClassDecl → List Construct
  | [] => []
  | declaration :: declarations => constructs declaration ++ allConstructs declarations

end

@[simp]
theorem allConstructs_eq_flatMap (declarations : List ClassDecl) :
    allConstructs declarations = declarations.flatMap constructs := by
  induction declarations with
  | nil => rfl
  | cons declaration declarations ih => simp [allConstructs, ih]

end ClassDecl

/-- The constructs of references, in the order in which references are listed. -/
def Reference.listConstructs (references : List Reference) : List Construct :=
  (References.empty.insertAll references).toList.map .reference

/-- The constructs of a tree, in the order in which the tree is written. -/
def Node.constructs : Node → List Construct
  | .expr tree => tree.constructs
  | .stmt tree => tree.constructs
  | .block tree => tree.flatMap Stmt.constructs
  | .field tree => tree.constructs
  | .constructor tree => tree.constructs
  | .method tree => tree.constructs
  | .classDecl tree => tree.constructs
  | .file tree => Reference.listConstructs tree.references ++ tree.body.constructs

/-! ## The constructs of a tree with replaced types -/

def Conditional.mapTypes (replace : TypeRef → TypeRef) (conditional : Conditional) :
    Conditional :=
  ⟨conditional.conditions.map (Expr.mapTypes replace),
    conditional.blocks.map fun block => block.map (Stmt.mapTypes replace)⟩

def Construct.mapTypes (replace : TypeRef → TypeRef) : Construct → Construct
  | .type written => .type (replace written)
  | .operator applied => .operator applied
  | .float value => .float value
  | .conditional branching => .conditional (branching.mapTypes replace)
  | .reference listed => .reference listed

section Replaced

variable (replace : TypeRef → TypeRef)

theorem Literal.constructs_mapTypes (value : Literal) :
    value.constructs.map (Construct.mapTypes replace) = value.constructs := by
  cases value <;> rfl

theorem Expr.constructs_mapTypes (expr : Expr) :
    (expr.mapTypes replace).constructs = expr.constructs.map (Construct.mapTypes replace) := by
  induction expr using Expr.induction with
  | literal value => exact (value.constructs_mapTypes replace).symm
  | param named => rfl
  | binary operator left right leftIH rightIH =>
      simp [mapTypes, constructs, leftIH, rightIH, Construct.mapTypes]
  | assign target value targetIH valueIH => simp [mapTypes, constructs, targetIH, valueIH]
  | call receiver method arguments receiverIH argumentsIH =>
      simp [mapTypes, constructs, receiverIH, flatMap_map_parts _ arguments argumentsIH]
  | staticCall method arguments argumentsIH =>
      simp [mapTypes, constructs, flatMap_map_parts _ arguments argumentsIH,
        Construct.mapTypes, MethodRef.mapType]
  | construct type arguments argumentsIH =>
      simp [mapTypes, constructs, flatMap_map_parts _ arguments argumentsIH,
        Construct.mapTypes]
  | field type name => rfl

theorem Expr.optionalConstructs_map (value : Option Expr) :
    Expr.optionalConstructs (value.map (Expr.mapTypes replace)) =
      (Expr.optionalConstructs value).map (Construct.mapTypes replace) := by
  cases value with
  | none => rfl
  | some value => simp [Expr.optionalConstructs, Expr.constructs_mapTypes]

theorem Construct.inTurn_map (change : Construct → Construct)
    (conditions blocks : List (List Construct)) :
    inTurn (conditions.map fun condition => condition.map change)
        (blocks.map fun block => block.map change) =
      (inTurn conditions blocks).map change := by
  induction conditions generalizing blocks with
  | nil => simp [inTurn]
  | cons condition conditions ih =>
      cases blocks with
      | nil => simp [inTurn]
      | cons block blocks => simp [inTurn, ih]

theorem Stmt.constructs_mapTypes (statement : Stmt) :
    (statement.mapTypes replace).constructs =
      statement.constructs.map (Construct.mapTypes replace) := by
  induction statement using Stmt.induction with
  | expr value => exact value.constructs_mapTypes replace
  | declare param init =>
      simp [mapTypes, constructs, Expr.optionalConstructs_map, Construct.mapTypes,
        Param.mapType]
  | conditional conditions blocks blocksIH =>
      have inConditions : (conditions.map (Expr.mapTypes replace)).map Expr.constructs =
          (conditions.map Expr.constructs).map fun condition =>
            condition.map (Construct.mapTypes replace) := by
        simp [Function.comp_def, Expr.constructs_mapTypes]
      have inBlocks : (blocks.map fun block => block.map (mapTypes replace)).map
            (fun block => block.flatMap constructs) =
          (blocks.map fun block => block.flatMap constructs).map fun block =>
            block.map (Construct.mapTypes replace) := by
        rw [List.map_map, List.map_map]
        exact List.map_congr_left fun block inside =>
          flatMap_map_parts _ block (blocksIH block inside)
      simp only [mapTypes, constructs, mapBlockTypes_eq_map, blockConstructs_eq_map,
        inConditions, inBlocks, Construct.inTurn_map, List.map_cons, Construct.mapTypes,
        Conditional.mapTypes]
  | block statements statementsIH =>
      simp [mapTypes, constructs, flatMap_map_parts _ statements statementsIH]
  | ret value => exact Expr.optionalConstructs_map replace value
  | comment text => rfl

theorem Stmt.flatMap_constructs_mapTypes (body : Block) :
    (body.map (Stmt.mapTypes replace)).flatMap Stmt.constructs =
      (body.flatMap Stmt.constructs).map (Construct.mapTypes replace) :=
  flatMap_map_parts _ body fun statement _ => statement.constructs_mapTypes replace

theorem FieldDecl.constructs_mapTypes (declaration : FieldDecl) :
    (declaration.mapTypes replace).constructs =
      declaration.constructs.map (Construct.mapTypes replace) := by
  simp [mapTypes, constructs, Expr.optionalConstructs_map, Construct.mapTypes]

theorem ConstructorDecl.constructs_mapTypes (declaration : ConstructorDecl) :
    (declaration.mapTypes replace).constructs =
      declaration.constructs.map (Construct.mapTypes replace) := by
  simp [mapTypes, constructs, Stmt.flatMap_constructs_mapTypes, Param.listConstructs,
    Construct.mapTypes, Param.mapType]

theorem MethodDecl.constructs_mapTypes (declaration : MethodDecl) :
    (declaration.mapTypes replace).constructs =
      declaration.constructs.map (Construct.mapTypes replace) := by
  simp [mapTypes, constructs, Stmt.flatMap_constructs_mapTypes, Param.listConstructs,
    Construct.mapTypes, Param.mapType]

/-- The constructs of a class with replaced types are those of the class, with their types
replaced. -/
theorem ClassDecl.constructs_mapTypes (declaration : ClassDecl) :
    (declaration.mapTypes replace).constructs =
      declaration.constructs.map (Construct.mapTypes replace) := by
  induction declaration using ClassDecl.induction with
  | mk modifiers scope name fields constructors methods classes classesIH =>
      have inFields := flatMap_map_parts (Construct.mapTypes replace) fields
        fun field _ => FieldDecl.constructs_mapTypes replace field
      have inConstructors := flatMap_map_parts (Construct.mapTypes replace) constructors
        fun constructor _ => ConstructorDecl.constructs_mapTypes replace constructor
      have inMethods := flatMap_map_parts (Construct.mapTypes replace) methods
        fun method _ => MethodDecl.constructs_mapTypes replace method
      have inClasses := flatMap_map_parts (Construct.mapTypes replace) classes classesIH
      simp only [mapTypes, constructs, mapAllTypes_eq_map, allConstructs_eq_flatMap, inFields,
        inConstructors, inMethods, inClasses, List.map_append]

theorem Node.constructs_mapTypes (node : Node) :
    (node.mapTypes replace).constructs =
      node.constructs.map (Construct.mapTypes replace) := by
  cases node with
  | expr tree => exact tree.constructs_mapTypes replace
  | stmt tree => exact tree.constructs_mapTypes replace
  | block tree => exact Stmt.flatMap_constructs_mapTypes replace tree
  | field tree => exact tree.constructs_mapTypes replace
  | constructor tree => exact tree.constructs_mapTypes replace
  | method tree => exact tree.constructs_mapTypes replace
  | classDecl tree => exact tree.constructs_mapTypes replace
  | file tree =>
      have unchanged : (Reference.listConstructs tree.references).map
          (Construct.mapTypes replace) = Reference.listConstructs tree.references :=
        List.map_map
      rw [constructs, List.map_append, unchanged, ← tree.body.constructs_mapTypes]
      rfl

end Replaced

/-! ## The references among the constructs -/

theorem Construct.mem_inTurn {construct : Construct} {conditions blocks : List (List Construct)} :
    construct ∈ inTurn conditions blocks ↔
      construct ∈ conditions.flatten ∨ construct ∈ blocks.flatten := by
  induction conditions generalizing blocks with
  | nil => simp [inTurn]
  | cons condition conditions ih =>
      cases blocks with
      | nil => simp [inTurn]
      | cons block blocks =>
          simp only [inTurn, List.mem_append, ih, List.flatten_cons, or_assoc, or_left_comm]

section NoReference

variable (listed : Reference)

theorem Expr.reference_notMem_constructs (expr : Expr) :
    .reference listed ∉ expr.constructs := by
  induction expr using Expr.induction with
  | literal value => cases value <;> simp [constructs, Literal.constructs]
  | param named => simp [constructs]
  | binary operator left right leftIH rightIH => simp [constructs, leftIH, rightIH]
  | assign target value targetIH valueIH => simp [constructs, targetIH, valueIH]
  | call receiver method arguments receiverIH argumentsIH =>
      simpa [constructs, receiverIH] using argumentsIH
  | staticCall method arguments argumentsIH => simpa [constructs] using argumentsIH
  | construct type arguments argumentsIH => simpa [constructs] using argumentsIH
  | field type name => simp [constructs]

theorem Expr.reference_notMem_optionalConstructs (value : Option Expr) :
    .reference listed ∉ Expr.optionalConstructs value := by
  cases value with
  | none => simp [optionalConstructs]
  | some value => simpa [optionalConstructs] using value.reference_notMem_constructs listed

theorem Stmt.reference_notMem_constructs (statement : Stmt) :
    .reference listed ∉ statement.constructs := by
  induction statement using Stmt.induction with
  | expr value => exact value.reference_notMem_constructs listed
  | declare param init =>
      simpa [constructs] using Expr.reference_notMem_optionalConstructs listed init
  | conditional conditions blocks blocksIH =>
      simpa [constructs, Construct.mem_inTurn, Expr.reference_notMem_constructs] using blocksIH
  | block statements statementsIH => simpa [constructs] using statementsIH
  | ret value => exact Expr.reference_notMem_optionalConstructs listed value
  | comment text => simp [constructs]

theorem FieldDecl.reference_notMem_constructs (declaration : FieldDecl) :
    .reference listed ∉ declaration.constructs := by
  simp [constructs, Expr.reference_notMem_optionalConstructs]

theorem ConstructorDecl.reference_notMem_constructs (declaration : ConstructorDecl) :
    .reference listed ∉ declaration.constructs := by
  simp [constructs, Param.listConstructs, Stmt.reference_notMem_constructs]

theorem MethodDecl.reference_notMem_constructs (declaration : MethodDecl) :
    .reference listed ∉ declaration.constructs := by
  simp [constructs, Param.listConstructs, Stmt.reference_notMem_constructs]

theorem ClassDecl.reference_notMem_constructs (declaration : ClassDecl) :
    .reference listed ∉ declaration.constructs := by
  induction declaration using ClassDecl.induction with
  | mk modifiers scope name fields constructors methods classes classesIH =>
      simpa [constructs, FieldDecl.reference_notMem_constructs,
        ConstructorDecl.reference_notMem_constructs, MethodDecl.reference_notMem_constructs]
        using classesIH

end NoReference

end Sourcewright
