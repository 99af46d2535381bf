import Sourcewright.Proofs.Tree.Induction

/-!
# The types that occur in a tree

`types` lists every type of a tree once for each place where it stands, in the order
in which the places are visited, whether or not the place is written in source text.
`mapTypes` replaces the type at every such place and keeps everything else.

The types of a tree with replaced types are the replacements in order, and replacing types
twice is replacing them once by what the two replacements make of them together.
-/

namespace Sourcewright

def Param.mapType (replace : TypeRef → TypeRef) (param : Param) : Param :=
  { param with type := replace param.type }

def MethodRef.mapType (replace : TypeRef → TypeRef) (method : MethodRef) : MethodRef :=
  { method with owner := replace method.owner }

namespace Expr

mutual

def types : Expr → List TypeRef
  | .literal _ => []
  | .param named => [named.type]
  | .binary _ left right => types left ++ types right
  | .assign target value => types target ++ types value
  | .call receiver method arguments => types receiver ++ method.owner :: allTypes arguments
  | .staticCall method arguments => method.owner :: allTypes arguments
  | .construct type arguments => type :: allTypes arguments
  | .field type _ => [type]

def allTypes : List Expr → List TypeRef
  | [] => []
  | expr :: exprs => types expr ++ allTypes exprs

end

mutual

def mapTypes (replace : TypeRef → TypeRef) : Expr → Expr
  | .literal value => .literal value
  | .param named => .param (named.mapType replace)
  | .binary operator left right =>
    .binary operator (mapTypes replace left) (mapTypes replace right)
  | .assign target value => .assign (mapTypes replace target) (mapTypes replace value)
  | .call receiver method arguments =>
    .call (mapTypes replace receiver) (method.mapType replace) (mapAllTypes replace arguments)
  | .staticCall method arguments =>
    .staticCall (method.mapType replace) (mapAllTypes replace arguments)
  | .construct type arguments => .construct (replace type) (mapAllTypes replace arguments)
  | .field type name => .field (replace type) name

def mapAllTypes (replace : TypeRef → TypeRef) : List Expr → List Expr
  | [] => []
  | expr :: exprs => mapTypes replace expr :: mapAllTypes replace exprs

end

@[simp]
theorem allTypes_eq_flatMap (exprs : List Expr) : allTypes exprs = exprs.flatMap types := by
  induction exprs with
  | nil => rfl
  | cons expr exprs ih => simp [allTypes, ih]

@[simp]
theorem mapAllTypes_eq_map (replace : TypeRef → TypeRef) (exprs : List Expr) :
    mapAllTypes replace exprs = exprs.map (mapTypes replace) := by
  induction exprs with
  | nil => rfl
  | cons expr exprs ih => simp [mapAllTypes, ih]

def optionalTypes (value : Option Expr) : List TypeRef :=
  value.toList.flatMap types

end Expr

namespace Stmt

mutual

def types : Stmt → List TypeRef
  | .expr value => value.types
  | .declare param init => param.type :: Expr.optionalTypes init
  | .conditional conditions blocks => conditions.flatMap Expr.types ++ blockTypes blocks
  | .block statements => allTypes statements
  | .ret value => Expr.optionalTypes value
  | .comment _ => []

def allTypes : List Stmt → List TypeRef
  | [] => []
  | statement :: statements => types statement ++ allTypes statements

def blockTypes : List (List Stmt) → List TypeRef
  | [] => []
  | statements :: blocks => allTypes statements ++ blockTypes blocks

end

mutual

def mapTypes (replace : TypeRef → TypeRef) : Stmt → Stmt
  | .expr value => .expr (value.mapTypes replace)
  | .declare param init => .declare (param.mapType replace) (init.map (Expr.mapTypes replace))
  | .conditional conditions blocks =>
    .conditional (conditions.map (Expr.mapTypes replace)) (mapBlockTypes replace blocks)
  | .block statements => .block (mapAllTypes replace statements)
  | .ret value => .ret (value.map (Expr.mapTypes replace))
  | .comment text => .comment text

def mapAllTypes (replace : TypeRef → TypeRef) : List Stmt → List Stmt
  | [] => []
  | statement :: statements => mapTypes replace statement :: mapAllTypes replace statements

def mapBlockTypes (replace : TypeRef → TypeRef) : List (List Stmt) → List (List Stmt)
  | [] => []
  | statements :: blocks => mapAllTypes replace statements :: mapBlockTypes replace blocks

end

@[simp]
theorem allTypes_eq_flatMap (statements : List Stmt) :
    allTypes statements = statements.flatMap types := by
  induction statements with
  | nil => rfl
  | cons statement statements ih => simp [allTypes, ih]

@[simp]
theorem blockTypes_eq_flatMap (blocks : List (List Stmt)) :
    blockTypes blocks = blocks.flatMap fun statements => statements.flatMap types := by
  induction blocks with
  | nil => rfl
  | cons statements blocks ih => simp [blockTypes, ih]

@[simp]
theorem mapAllTypes_eq_map (replace : TypeRef → TypeRef) (statements : List Stmt) :
    mapAllTypes replace statements = statements.map (mapTypes replace) := by
  induction statements with
  | nil => rfl
  | cons statement statements ih => simp [mapAllTypes, ih]

@[simp]
theorem mapBlockTypes_eq_map (replace : TypeRef → TypeRef) (blocks : List (List Stmt)) :
    mapBlockTypes replace blocks =
      blocks.map fun statements => statements.map (mapTypes replace) := by
  induction blocks with
  | nil => rfl
  | cons statements blocks ih => simp [mapBlockTypes, ih]

end Stmt

def FieldDecl.types (declaration : FieldDecl) : List TypeRef :=
  declaration.type :: Expr.optionalTypes declaration.init

def FieldDecl.mapTypes (replace : TypeRef → TypeRef) (declaration : FieldDecl) : FieldDecl :=
  { declaration with
    type := replace declaration.type
    init := declaration.init.map (Expr.mapTypes replace) }

def ConstructorDecl.types (declaration : ConstructorDecl) : List TypeRef :=
  declaration.params.map Param.type ++ declaration.body.flatMap Stmt.types

def ConstructorDecl.mapTypes (replace : TypeRef → TypeRef) (declaration : ConstructorDecl) :
    ConstructorDecl :=
  { declaration with
    params := declaration.params.map (Param.mapType replace)
    body := declaration.body.map (Stmt.mapTypes replace) }

def MethodDecl.types (declaration : MethodDecl) : List TypeRef :=
  declaration.returnType :: declaration.params.map Param.type ++
    declaration.body.flatMap Stmt.types

def MethodDecl.mapTypes (replace : TypeRef → TypeRef) (declaration : MethodDecl) :
    MethodDecl :=
  { declaration with
    returnType := replace declaration.returnType
    params := declaration.params.map (Param.mapType replace)
    body := declaration.body.map (Stmt.mapTypes replace) }

namespace ClassDecl

mutual

/-- The types that occur in a class, in its nested classes too. -/
def types : ClassDecl → List TypeRef
  | ⟨_, _, _, fields, constructors, methods, classes⟩ =>
    fields.flatMap FieldDecl.types ++ constructors.flatMap ConstructorDecl.types ++
      methods.flatMap MethodDecl.types ++ allTypes classes

def allTypes : List ClassDecl → List TypeRef
  | [] => []
  | declaration :: declarations => types declaration ++ allTypes declarations

end

mutual

/-- The class with its types replaced, in its nested classes too. -/
def mapTypes (replace : TypeRef → TypeRef) : ClassDecl → ClassDecl
  | ⟨modifiers, scope, name, fields, constructors, methods, classes⟩ =>
    ⟨modifiers, scope, name, fields.map (FieldDecl.mapTypes replace),
      constructors.map (ConstructorDecl.mapTypes replace),
      methods.map (MethodDecl.mapTypes replace), mapAllTypes replace classes⟩

def mapAllTypes (replace : TypeRef → TypeRef) : List ClassDecl → List ClassDecl
  | [] => []
  | declaration :: declarations =>
    mapTypes replace declaration :: mapAllTypes replace declarations

end

@[simp]
theorem allTypes_eq_flatMap (declarations : List ClassDecl) :
    allTypes declarations = declarations.flatMap types := by
  induction declarations with
  | nil => rfl
  | cons declaration declarations ih => simp [allTypes, ih]

@[simp]
theorem mapAllTypes_eq_map (replace : TypeRef → TypeRef) (declarations : List ClassDecl) :
    mapAllTypes replace declarations = declarations.map (mapTypes replace) := by
  induction declarations with
  | nil => rfl
  | cons declaration declarations ih => simp [mapAllTypes, ih]

end ClassDecl

namespace Node

/-- The types that occur in a tree. -/
def types : Node → List TypeRef
  | .expr tree => tree.types
  | .stmt tree => tree.types
  | .block tree => tree.flatMap Stmt.types
  | .field tree => tree.types
  | .constructor tree => tree.types
  | .method tree => tree.types
  | .classDecl tree => tree.types
  | .file tree => tree.body.types

/-- The tree with its types replaced.  References are not types. -/
def mapTypes (replace : TypeRef → TypeRef) : Node → Node
  | .expr tree => .expr (tree.mapTypes replace)
  | .stmt tree => .stmt (tree.mapTypes replace)
  | .block tree => .block (tree.map (Stmt.mapTypes replace))
  | .field tree => .field (tree.mapTypes replace)
  | .constructor tree => .constructor (tree.mapTypes replace)
  | .method tree => .method (tree.mapTypes replace)
  | .classDecl tree => .classDecl (tree.mapTypes replace)
  | .file tree => .file ⟨tree.references, tree.body.mapTypes replace⟩

end Node

/-! ## The types of a tree with replaced types -/

/-- If changing the members of a list replaces their parts, it replaces the parts of the
list. -/
theorem flatMap_map_parts {α β : Type} {parts : α → List β} {change : α → α}
    (replace : β → β) (members : List α)
    (member : ∀ part ∈ members, parts (change part) = (parts part).map replace) :
    (members.map change).flatMap parts = (members.flatMap parts).map replace := by
  induction members with
  | nil => rfl
  | cons first rest ih =>
      obtain ⟨atFirst, atRest⟩ := List.forall_mem_cons.mp member
      simp [atFirst, ih atRest]

section Types

variable (replace : TypeRef → TypeRef)

@[simp]
theorem Expr.types_mapTypes (expr : Expr) :
    (expr.mapTypes replace).types = expr.types.map replace := by
  induction expr using Expr.induction with
  | literal value => rfl
  | param named => rfl
  | binary operator left right leftIH rightIH => simp [mapTypes, types, leftIH, rightIH]
  | assign target value targetIH valueIH => simp [mapTypes, types, targetIH, valueIH]
  | call receiver method arguments receiverIH argumentsIH =>
      simp [mapTypes, types, receiverIH, flatMap_map_parts replace arguments argumentsIH,
        MethodRef.mapType]
  | staticCall method arguments argumentsIH =>
      simp [mapTypes, types, flatMap_map_parts replace arguments argumentsIH, MethodRef.mapType]
  | construct type arguments argumentsIH =>
      simp [mapTypes, types, flatMap_map_parts replace arguments argumentsIH]
  | field type name => rfl

theorem Expr.optionalTypes_map (value : Option Expr) :
    Expr.optionalTypes (value.map (Expr.mapTypes replace)) =
      (Expr.optionalTypes value).map replace := by
  cases value with
  | none => rfl
  | some value => simp [Expr.optionalTypes]

@[simp]
theorem Stmt.types_mapTypes (statement : Stmt) :
    (statement.mapTypes replace).types = statement.types.map replace := by
  induction statement using Stmt.induction with
  | expr value => simp [mapTypes, types]
  | declare param init =>
      simp [mapTypes, types, Param.mapType, Expr.optionalTypes_map replace]
  | conditional conditions blocks blocksIH =>
      have inConditions := flatMap_map_parts replace conditions
        fun condition _ => Expr.types_mapTypes replace condition
      have inBlocks := flatMap_map_parts replace blocks
        fun block inside => flatMap_map_parts replace block (blocksIH block inside)
      simp only [mapTypes, types, mapBlockTypes_eq_map, blockTypes_eq_flatMap, inConditions,
        inBlocks, List.map_append]
  | block statements statementsIH =>
      simp [mapTypes, types, flatMap_map_parts replace statements statementsIH]
  | ret value => simp [mapTypes, types, Expr.optionalTypes_map replace]
  | comment text => rfl

theorem FieldDecl.types_mapTypes (declaration : FieldDecl) :
    (declaration.mapTypes replace).types = declaration.types.map replace := by
  simp [mapTypes, types, Expr.optionalTypes_map replace]

theorem ConstructorDecl.types_mapTypes (declaration : ConstructorDecl) :
    (declaration.mapTypes replace).types = declaration.types.map replace := by
  have inBody := flatMap_map_parts replace declaration.body
    fun statement _ => Stmt.types_mapTypes replace statement
  simp [mapTypes, types, inBody, Param.mapType]

theorem MethodDecl.types_mapTypes (declaration : MethodDecl) :
    (declaration.mapTypes replace).types = declaration.types.map replace := by
  have inBody := flatMap_map_parts replace declaration.body
    fun statement _ => Stmt.types_mapTypes replace statement
  simp [mapTypes, types, inBody, Param.mapType]

@[simp]
theorem ClassDecl.types_mapTypes (declaration : ClassDecl) :
    (declaration.mapTypes replace).types = declaration.types.map replace := by
  induction declaration using ClassDecl.induction with
  | mk modifiers scope name fields constructors methods classes classesIH =>
      have inFields := flatMap_map_parts replace fields
        fun field _ => FieldDecl.types_mapTypes replace field
      have inConstructors := flatMap_map_parts replace constructors
        fun constructor _ => ConstructorDecl.types_mapTypes replace constructor
      have inMethods := flatMap_map_parts replace methods
        fun method _ => MethodDecl.types_mapTypes replace method
      have inClasses := flatMap_map_parts replace classes classesIH
      simp only [mapTypes, types, mapAllTypes_eq_map, allTypes_eq_flatMap, inFields,
        inConstructors, inMethods, inClasses, List.map_append]

/-- The types of a tree with replaced types are the replacements in order. -/
@[simp]
theorem Node.types_mapTypes (node : Node) :
    (node.mapTypes replace).types = node.types.map replace := by
  cases node with
  | expr tree => exact Expr.types_mapTypes replace tree
  | stmt tree => exact Stmt.types_mapTypes replace tree
  | block tree =>
      exact flatMap_map_parts replace tree
        fun statement _ => Stmt.types_mapTypes replace statement
  | field tree => exact FieldDecl.types_mapTypes replace tree
  | constructor tree => exact ConstructorDecl.types_mapTypes replace tree
  | method tree => exact MethodDecl.types_mapTypes replace tree
  | classDecl tree => exact ClassDecl.types_mapTypes replace tree
  | file tree => exact ClassDecl.types_mapTypes replace tree.body

end Types

/-! ## Replacing types twice -/

section Twice

variable (first second : TypeRef → TypeRef)

theorem map_map_parts {α : Type} {change again both : α → α} {members : List α}
    (member : ∀ part ∈ members, again (change part) = both part) :
    (members.map change).map again = members.map both := by
  rw [List.map_map]
  exact List.map_congr_left member

theorem Expr.mapTypes_mapTypes (expr : Expr) :
    (expr.mapTypes first).mapTypes second = expr.mapTypes (second ∘ first) := by
  induction expr using Expr.induction with
  | literal value => rfl
  | param named => rfl
  | binary operator left right leftIH rightIH => simp only [mapTypes, leftIH, rightIH]
  | assign target value targetIH valueIH => simp only [mapTypes, targetIH, valueIH]
  | call receiver method arguments receiverIH argumentsIH =>
      simp only [mapTypes, mapAllTypes_eq_map, receiverIH, map_map_parts argumentsIH,
        MethodRef.mapType, Function.comp_apply]
  | staticCall method arguments argumentsIH =>
      simp only [mapTypes, mapAllTypes_eq_map, map_map_parts argumentsIH, MethodRef.mapType,
        Function.comp_apply]
  | construct type arguments argumentsIH =>
      simp only [mapTypes, mapAllTypes_eq_map, map_map_parts argumentsIH, Function.comp_apply]
  | field type name => rfl

theorem Expr.map_mapTypes_mapTypes (value : Option Expr) :
    (value.map (Expr.mapTypes first)).map (Expr.mapTypes second) =
      value.map (Expr.mapTypes (second ∘ first)) := by
  cases value with
  | none => rfl
  | some value => simp only [Option.map_some, mapTypes_mapTypes]

theorem Stmt.mapTypes_mapTypes (statement : Stmt) :
    (statement.mapTypes first).mapTypes second = statement.mapTypes (second ∘ first) := by
  induction statement using Stmt.induction with
  | expr value => simp only [mapTypes, Expr.mapTypes_mapTypes]
  | declare param init =>
      simp only [mapTypes, Expr.map_mapTypes_mapTypes, Param.mapType, Function.comp_apply]
  | conditional conditions blocks blocksIH =>
      have inConditions := map_map_parts fun condition (_ : condition ∈ conditions) =>
        Expr.mapTypes_mapTypes first second condition
      have inBlocks := map_map_parts fun block inside => map_map_parts (blocksIH block inside)
      simp only [mapTypes, mapBlockTypes_eq_map, inConditions, inBlocks]
  | block statements statementsIH =>
      simp only [mapTypes, mapAllTypes_eq_map, map_map_parts statementsIH]
  | ret value => simp only [mapTypes, Expr.map_mapTypes_mapTypes]
  | comment text => rfl

theorem Block.map_mapTypes_mapTypes (body : Block) :
    (body.map (Stmt.mapTypes first)).map (Stmt.mapTypes second) =
      body.map (Stmt.mapTypes (second ∘ first)) :=
  map_map_parts fun statement _ => Stmt.mapTypes_mapTypes first second statement

theorem Param.map_mapType_mapType (params : List Param) :
    (params.map (Param.mapType first)).map (Param.mapType second) =
      params.map (Param.mapType (second ∘ first)) :=
  map_map_parts fun _ _ => rfl

theorem FieldDecl.mapTypes_mapTypes (declaration : FieldDecl) :
    (declaration.mapTypes first).mapTypes second = declaration.mapTypes (second ∘ first) := by
  simp only [mapTypes, Expr.map_mapTypes_mapTypes, Function.comp_apply]

theorem ConstructorDecl.mapTypes_mapTypes (declaration : ConstructorDecl) :
    (declaration.mapTypes first).mapTypes second = declaration.mapTypes (second ∘ first) := by
  simp only [mapTypes, Param.map_mapType_mapType, Block.map_mapTypes_mapTypes]

theorem MethodDecl.mapTypes_mapTypes (declaration : MethodDecl) :
    (declaration.mapTypes first).mapTypes second = declaration.mapTypes (second ∘ first) := by
  simp only [mapTypes, Param.map_mapType_mapType, Block.map_mapTypes_mapTypes,
    Function.comp_apply]

theorem ClassDecl.mapTypes_mapTypes (declaration : ClassDecl) :
    (declaration.mapTypes first).mapTypes second = declaration.mapTypes (second ∘ first) := by
  induction declaration using ClassDecl.induction with
  | mk modifiers scope name fields constructors methods classes classesIH =>
      have inFields := map_map_parts fun field (_ : field ∈ fields) =>
        FieldDecl.mapTypes_mapTypes first second field
      have inConstructors := map_map_parts fun constructor (_ : constructor ∈ constructors) =>
        ConstructorDecl.mapTypes_mapTypes first second constructor
      have inMethods := map_map_parts fun method (_ : method ∈ methods) =>
        MethodDecl.mapTypes_mapTypes first second method
      simp only [mapTypes, mapAllTypes_eq_map, inFields, inConstructors, inMethods,
        map_map_parts classesIH]

/-- Two replacements one after the other are one replacement. -/
theorem Node.mapTypes_mapTypes (node : Node) :
    (node.mapTypes first).mapTypes second = node.mapTypes (second ∘ first) := by
  cases node with
  | expr tree => simp only [mapTypes, Expr.mapTypes_mapTypes]
  | stmt tree => simp only [mapTypes, Stmt.mapTypes_mapTypes]
  | block tree => simp only [mapTypes, Block.map_mapTypes_mapTypes]
  | field tree => simp only [mapTypes, FieldDecl.mapTypes_mapTypes]
  | constructor tree => simp only [mapTypes, ConstructorDecl.mapTypes_mapTypes]
  | method tree => simp only [mapTypes, MethodDecl.mapTypes_mapTypes]
  | classDecl tree => simp only [mapTypes, ClassDecl.mapTypes_mapTypes]
  | file tree => simp only [mapTypes, ClassDecl.mapTypes_mapTypes]

end Twice

end Sourcewright
