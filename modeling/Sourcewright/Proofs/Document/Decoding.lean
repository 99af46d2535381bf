import Sourcewright.Document.Decoding
import Sourcewright.Document.Encoding
import Sourcewright.Proofs.Tree.Induction

/-!
# Trees and their document values

The document value of a tree stands for that tree again.  Lists of trees are treated alike
for all kinds of trees, and the kinds that contain each other by induction on the tree.
-/

namespace Sourcewright

open Document (Value)

/-- If values stand for the trees they were made of, lists of them do. -/
theorem mapM_ofValue? {α : Type} {toValue : α → Value} {ofValue? : Value → Option α}
    {trees : List α} (member : ∀ tree ∈ trees, ofValue? (toValue tree) = some tree) :
    (trees.map toValue).mapM ofValue? = some trees := by
  induction trees with
  | nil => rfl
  | cons tree trees ih =>
      obtain ⟨first, rest⟩ := List.forall_mem_cons.mp member
      simp [List.mapM_cons, first, ih rest]

@[simp]
theorem Primitive.ofName?_name (builtin : Primitive) : ofName? builtin.name = some builtin := by
  cases builtin <;> rfl

@[simp]
theorem Operator.ofName?_name (operator : Operator) : ofName? operator.name = some operator := by
  cases operator <;> rfl

@[simp]
theorem ReferenceKind.ofName?_name (kind : ReferenceKind) : ofName? kind.name = some kind := by
  cases kind <;> rfl

@[simp]
theorem TypeRef.ofValue?_toValue (type : TypeRef) : ofValue? type.toValue = some type := by
  cases type <;> simp [toValue, ofValue?, Primitive.ofValue?]

@[simp]
theorem Operator.ofValue?_toValue (operator : Operator) :
    ofValue? operator.toValue = some operator := by
  simp [toValue, ofValue?]

@[simp]
theorem Modifiers.ofValue?_toValue (modifiers : Modifiers) :
    ofValue? modifiers.toValue = some modifiers := by
  obtain ⟨isPublic, isPrivate, isStatic, isFinal⟩ := modifiers
  cases isPublic <;> cases isPrivate <;> cases isStatic <;> cases isFinal <;> rfl

@[simp]
theorem Literal.ofValue?_toValue (value : Literal) : ofValue? value.toValue = some value := by
  cases value <;> rfl

@[simp]
theorem Param.ofValue?_toValue (param : Param) : ofValue? param.toValue = some param := by
  simp [toValue, ofValue?, Document.Kind.recordOf]

@[simp]
theorem Param.listOfValue?_map (params : List Param) :
    listOfValue? (.list (params.map toValue)) = some params :=
  mapM_ofValue? fun param _ => param.ofValue?_toValue

@[simp]
theorem MethodRef.ofValue?_toValue (method : MethodRef) :
    ofValue? method.toValue = some method := by
  simp [toValue, ofValue?, Document.Kind.recordOf]

namespace Expr

@[simp]
theorem toValues_eq_map (exprs : List Expr) : toValues exprs = exprs.map toValue := by
  induction exprs with
  | nil => rfl
  | cons expr exprs ih => rw [toValues, ih, List.map_cons]

theorem ofValues?_eq_mapM (values : List Value) : ofValues? values = values.mapM ofValue? := by
  induction values with
  | nil => rfl
  | cons value values ih => simp [ofValues?, ih, List.mapM_cons]

theorem toValue_ne_null (expr : Expr) : expr.toValue ≠ .null := by
  cases expr <;> nofun

@[simp]
theorem ofValue?_toValue (expr : Expr) : ofValue? expr.toValue = some expr := by
  induction expr using Expr.induction with
  | literal value => simp [toValue, ofValue?]
  | param named => simp [toValue, ofValue?]
  | binary operator left right leftIH rightIH =>
      simp [toValue, ofValue?, Document.Kind.recordOf, leftIH, rightIH]
  | assign target value targetIH valueIH =>
      simp [toValue, ofValue?, Document.Kind.recordOf, targetIH, valueIH]
  | call receiver method arguments receiverIH argumentsIH =>
      have notNull := receiver.toValue_ne_null
      simp [toValue, ofValue?, Document.Kind.recordOf, receiverIH, ofValues?_eq_mapM,
        mapM_ofValue? argumentsIH]
  | staticCall method arguments argumentsIH =>
      simp [toValue, ofValue?, Document.Kind.recordOf, ofValues?_eq_mapM,
        mapM_ofValue? argumentsIH]
  | construct type arguments argumentsIH =>
      simp [toValue, ofValue?, Document.Kind.recordOf, ofValues?_eq_mapM,
        mapM_ofValue? argumentsIH]
  | field type name => simp [toValue, ofValue?, Document.Kind.recordOf]

@[simp]
theorem ofOptionalValue?_toOptionalValue (value : Option Expr) :
    ofOptionalValue? (toOptionalValue value) = some value := by
  cases value with
  | none => rfl
  | some expr =>
      have notNull := expr.toValue_ne_null
      simp [toOptionalValue, ofOptionalValue?]

end Expr

namespace Stmt

@[simp]
theorem toValues_eq_map (statements : List Stmt) :
    toValues statements = statements.map toValue := by
  induction statements with
  | nil => rfl
  | cons statement statements ih => rw [toValues, ih, List.map_cons]

theorem ofValues?_eq_mapM (values : List Value) : ofValues? values = values.mapM ofValue? := by
  induction values with
  | nil => rfl
  | cons value values ih => simp [ofValues?, ih, List.mapM_cons]

@[simp]
theorem blockValues_eq_map (blocks : List Block) :
    blockValues blocks = blocks.map Block.toValue := by
  induction blocks with
  | nil => rfl
  | cons block blocks ih => rw [blockValues, ih, List.map_cons, Block.toValue]

theorem blocksOfValues?_eq_mapM (values : List Value) :
    blocksOfValues? values = values.mapM Block.ofValue? := by
  induction values with
  | nil => rfl
  | cons value values ih =>
      cases value <;> simp [blocksOfValues?, ih, List.mapM_cons, Block.ofValue?]

@[simp]
theorem ofValue?_toValue (statement : Stmt) : ofValue? statement.toValue = some statement := by
  induction statement using Stmt.induction with
  | expr value => simp [toValue, ofValue?]
  | declare param init => simp [toValue, ofValue?, Document.Kind.recordOf]
  | conditional conditions blocks blocksIH =>
      have inConditions := mapM_ofValue? fun condition (_ : condition ∈ conditions) =>
        condition.ofValue?_toValue
      have inBlocks : (blocks.map Block.toValue).mapM Block.ofValue? = some blocks := by
        refine mapM_ofValue? fun block inside => ?_
        rw [Block.toValue, Block.ofValue?, toValues_eq_map, ofValues?_eq_mapM]
        exact mapM_ofValue? (blocksIH block inside)
      simp [toValue, ofValue?, Document.Kind.recordOf, Expr.ofValues?_eq_mapM, inConditions,
        blocksOfValues?_eq_mapM, inBlocks]
  | block statements statementsIH =>
      simp [toValue, ofValue?, ofValues?_eq_mapM, mapM_ofValue? statementsIH]
  | ret value => simp [toValue, ofValue?]
  | comment text => simp [toValue, ofValue?]

end Stmt

@[simp]
theorem Block.ofValue?_toValue (block : Block) : ofValue? (toValue block) = some block := by
  rw [toValue, ofValue?, Stmt.toValues_eq_map, Stmt.ofValues?_eq_mapM]
  exact mapM_ofValue? fun statement _ => statement.ofValue?_toValue

@[simp]
theorem FieldDecl.ofValue?_toValue (declaration : FieldDecl) :
    ofValue? declaration.toValue = some declaration := by
  simp [toValue, ofValue?, Document.Kind.recordOf]

@[simp]
theorem ConstructorDecl.ofValue?_toValue (declaration : ConstructorDecl) :
    ofValue? declaration.toValue = some declaration := by
  simp [toValue, ofValue?, Document.Kind.recordOf]

@[simp]
theorem MethodDecl.ofValue?_toValue (declaration : MethodDecl) :
    ofValue? declaration.toValue = some declaration := by
  simp [toValue, ofValue?, Document.Kind.recordOf]

namespace ClassDecl

@[simp]
theorem toValues_eq_map (declarations : List ClassDecl) :
    toValues declarations = declarations.map toValue := by
  induction declarations with
  | nil => rfl
  | cons declaration declarations ih => rw [toValues, ih, List.map_cons]

theorem ofValues?_eq_mapM (values : List Value) : ofValues? values = values.mapM ofValue? := by
  induction values with
  | nil => rfl
  | cons value values ih => simp [ofValues?, ih, List.mapM_cons]

@[simp]
theorem ofValue?_toValue (declaration : ClassDecl) :
    ofValue? declaration.toValue = some declaration := by
  induction declaration using ClassDecl.induction with
  | mk modifiers scope name fields constructors methods classes classesIH =>
      have inFields := mapM_ofValue? fun field (_ : field ∈ fields) => field.ofValue?_toValue
      have inConstructors := mapM_ofValue? fun constructor (_ : constructor ∈ constructors) =>
        constructor.ofValue?_toValue
      have inMethods := mapM_ofValue? fun method (_ : method ∈ methods) =>
        method.ofValue?_toValue
      simp [toValue, ofValue?, Document.Kind.recordOf, ofValues?_eq_mapM, inFields,
        inConstructors, inMethods, mapM_ofValue? classesIH]

end ClassDecl

@[simp]
theorem Reference.ofValue?_toValue (reference : Reference) :
    ofValue? reference.toValue = some reference := by
  simp [toValue, ofValue?, Document.Kind.recordOf]

@[simp]
theorem FileDecl.ofValue?_toValue (tree : FileDecl) : ofValue? tree.toValue = some tree := by
  have inReferences := mapM_ofValue? fun reference (_ : reference ∈ tree.references) =>
    reference.ofValue?_toValue
  simp [toValue, ofValue?, Document.Kind.recordOf, inReferences]

/-- The document value of a tree stands for the tree. -/
theorem Node.ofValue?_toValue (node : Node) : ofValue? node.toValue = some node := by
  cases node <;> simp [toValue, ofValue?]

end Sourcewright
