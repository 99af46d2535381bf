import Sourcewright.Proofs.Tree.Recording

/-!
# The parts of a tree in preorder

A tree consists of parts, and every part has children: the parts that it holds directly, in
the order in which they are written.  The preorder of a part starts with the part itself and
goes on with the preorders of its children.

A traversal that records every part before it visits what is inside of it records the preorder:
no part is missed, none is visited twice, and none is taken for a part of another kind.  So every
part is visited by the hook of its own kind.
-/

namespace Sourcewright

/-- A part of a tree that a traversal has a hook for. -/
inductive Part where
  | node (part : Node)
  | file (part : FileDecl)
  | classDecl (part : ClassDecl)
  | field (part : FieldDecl)
  | constructor (part : ConstructorDecl)
  | method (part : MethodDecl)
  | block (part : Block)
  | stmt (part : Stmt)
  | conditional (part : Conditional)
  | expr (part : Expr)
  | param (part : Param)
  | methodRef (part : MethodRef)
  | type (part : TypeRef)

namespace Part

def kind : Part → PartKind
  | .node _ => .node
  | .file _ => .file
  | .classDecl _ => .classDecl
  | .field _ => .field
  | .constructor _ => .constructor
  | .method _ => .method
  | .block _ => .block
  | .stmt _ => .stmt
  | .conditional _ => .conditional
  | .expr _ => .expr
  | .param _ => .param
  | .methodRef _ => .methodRef
  | .type _ => .type

/-- The parts that a part holds directly, in the order in which they are written. -/
def children : Part → List Part
  | .node (.expr tree) => [.expr tree]
  | .node (.stmt tree) => [.stmt tree]
  | .node (.block tree) => [.block tree]
  | .node (.field tree) => [.field tree]
  | .node (.constructor tree) => [.constructor tree]
  | .node (.method tree) => [.method tree]
  | .node (.classDecl tree) => [.classDecl tree]
  | .node (.file tree) => [.file tree]
  | .file part => [.classDecl part.body]
  | .classDecl part =>
    part.fields.map .field ++ part.constructors.map .constructor ++
      part.methods.map .method ++ part.classes.map .classDecl
  | .field part => .type part.type :: part.init.toList.map .expr
  | .constructor part => part.params.map .param ++ [.block part.body]
  | .method part => .type part.returnType :: part.params.map .param ++ [.block part.body]
  | .block part => part.map .stmt
  | .stmt (.expr value) => [.expr value]
  | .stmt (.declare declared init) => .param declared :: init.toList.map .expr
  | .stmt (.conditional conditions blocks) => [.conditional ⟨conditions, blocks⟩]
  | .stmt (.block statements) => [.block statements]
  | .stmt (.ret value) => value.toList.map .expr
  | .stmt (.comment _) => []
  | .conditional part => part.conditions.map .expr ++ part.blocks.map .block
  | .expr (.literal _) => []
  | .expr (.param named) => [.param named]
  | .expr (.binary _ left right) => [.expr left, .expr right]
  | .expr (.assign target value) => [.expr target, .expr value]
  | .expr (.call receiver called arguments) =>
    .expr receiver :: .methodRef called :: arguments.map .expr
  | .expr (.staticCall called arguments) => .methodRef called :: arguments.map .expr
  | .expr (.construct created arguments) => .type created :: arguments.map .expr
  | .expr (.field fieldType _) => [.type fieldType]
  | .param part => [.type part.type]
  | .methodRef part => [.type part.owner]
  | .type _ => []

/-- The size of a part.  A conditional is as large as the statement it forms, of which it is the
child, so statements count for more than what they are made of. -/
noncomputable def size (part : Part) : Nat :=
  2 * sizeOf part + if part.kind = .stmt then 1 else 0

theorem size_lt_of_mem_children {part child : Part} (inside : child ∈ part.children) :
    child.size < part.size := by
  have members {α : Type} [SizeOf α] (parts : List α) (part : α) (member : part ∈ parts) :
      sizeOf part < sizeOf parts :=
    List.sizeOf_lt_of_mem member
  -- One case for each form of a part; the sizes are sums of those of its fields.
  fun_cases children part <;>
    simp only [children, List.mem_append, List.mem_cons, List.mem_map, Option.mem_toList,
      List.not_mem_nil, or_false] at inside <;>
    grind [size, kind, cases FileDecl, cases ClassDecl, cases FieldDecl, cases ConstructorDecl,
      cases MethodDecl, cases Conditional, cases Param, cases MethodRef]

/-- A part, and then everything inside of it: child by child, each before its own children. -/
def preorder (part : Part) : List Part :=
  part :: part.children.attach.flatMap fun ⟨child, _⟩ => child.preorder
termination_by part.size
decreasing_by exact size_lt_of_mem_children ‹_›

theorem preorder_eq (part : Part) :
    part.preorder = part :: part.children.flatMap preorder := by
  rw [preorder, List.flatMap_subtype fun _ _ => rfl, List.unattach_attach]

end Part

namespace Traversal

variable {σ α : Type}

/-- Record a part, then visit what is inside of it. -/
def entering (record : σ → Part → σ) (part : Part) (visit : StateM σ α) : StateM σ α := do
  modify (record · part)
  visit

/-- The traversal that records every part it visits and changes nothing. -/
def recording (record : σ → Part → σ) : Traversal (StateM σ) where
  onNode part visit := entering record (.node part) visit
  onFile part visit := entering record (.file part) visit
  onClass part visit := entering record (.classDecl part) visit
  onField part visit := entering record (.field part) visit
  onConstructor part visit := entering record (.constructor part) visit
  onMethod part visit := entering record (.method part) visit
  onBlock part visit := entering record (.block part) visit
  onStmt part visit := entering record (.stmt part) visit
  onConditional part visit := entering record (.conditional part) visit
  onExpr part visit := entering record (.expr part) visit
  onParam part visit := entering record (.param part) visit
  onMethodRef part visit := entering record (.methodRef part) visit
  onType part visit := entering record (.type part) visit

/-- Tracing records the kinds of the parts. -/
theorem tracing_eq_recording :
    tracing = recording fun kinds part => kinds ++ [part.kind] :=
  rfl

variable {record : σ → Part → σ}

/-- A visit that records what is inside of a part records the preorder of the part if it starts
with the part itself. -/
theorem Records.entering {part : Part} {visit : StateM σ α} {result : α}
    (inside : Records record visit result (part.children.flatMap Part.preorder)) :
    Records record (entering record part visit) result part.preorder := by
  intro state
  rw [Part.preorder_eq]
  exact inside (record state part)

/-- Parts of one kind, visited one after the other, record their preorders. -/
theorem Records.parts {visitAll : List α → StateM σ (List α)} {visit : α → StateM σ α}
    {inject : α → Part} {parts : List α} (nil : visitAll [] = Pure.pure [])
    (cons : ∀ part parts, visitAll (part :: parts) =
      visit part >>= fun first => visitAll parts >>= fun rest => Pure.pure (first :: rest))
    (member : ∀ part ∈ parts, Records record (visit part) part (inject part).preorder) :
    Records record (visitAll parts) parts ((parts.map inject).flatMap Part.preorder) := by
  -- The members are not changed, which is to change them by the identity.
  have listed : Records record (visitAll parts) (parts.map id)
      (parts.flatMap fun part => (inject part).preorder) :=
    .list nil cons member
  rwa [List.map_id, ← List.flatMap_map] at listed

/-! ## What the traversal records, part by part -/

theorem recording_type (part : TypeRef) :
    Records record ((recording record).type part) part (Part.type part).preorder :=
  .entering (.pure part)

theorem recording_param (part : Param) :
    Records record ((recording record).param part) part (Part.param part).preorder :=
  .entering ((recording_type part.type).bind (.pure part))

theorem recording_params (parts : List Param) :
    Records record ((recording record).params parts) parts
      ((parts.map .param).flatMap Part.preorder) :=
  .parts rfl (fun _ _ => rfl) fun part _ => recording_param part

theorem recording_methodRef (part : MethodRef) :
    Records record ((recording record).methodRef part) part (Part.methodRef part).preorder :=
  .entering ((recording_type part.owner).bind (.pure part))

theorem recording_exprs {parts : List Expr}
    (member : ∀ part ∈ parts,
      Records record ((recording record).expr part) part (Part.expr part).preorder) :
    Records record ((recording record).exprs parts) parts
      ((parts.map .expr).flatMap Part.preorder) :=
  .parts rfl (fun _ _ => rfl) member

theorem recording_expr (part : Expr) :
    Records record ((recording record).expr part) part (Part.expr part).preorder := by
  induction part using Expr.induction with
  | literal value => exact .entering (.pure _)
  | param named => exact .entering ((recording_param named).bind (.pure _))
  | binary operator left right leftIH rightIH =>
      exact .entering (leftIH.bind (rightIH.bind (.pure _)))
  | assign target value targetIH valueIH =>
      exact .entering (targetIH.bind (valueIH.bind (.pure _)))
  | call receiver method arguments receiverIH argumentsIH =>
      exact .entering (receiverIH.bind
        ((recording_methodRef method).bind ((recording_exprs argumentsIH).map _)))
  | staticCall method arguments argumentsIH =>
      exact .entering ((recording_methodRef method).bind ((recording_exprs argumentsIH).map _))
  | construct type arguments argumentsIH =>
      exact .entering ((recording_type type).bind ((recording_exprs argumentsIH).map _))
  | field type name => exact .entering ((recording_type type).bind (.pure _))

theorem recording_optionalExpr (part : Option Expr) :
    Records record ((recording record).optionalExpr part) part
      ((part.toList.map .expr).flatMap Part.preorder) := by
  cases part with
  | none => exact .pure none
  | some part => exact (recording_expr part).bind (.pure _)

/-- A block records its preorder if its statements do. -/
theorem recording_onBlock {part : Block}
    (member : ∀ statement ∈ part,
      Records record ((recording record).stmt statement) statement
        (Part.stmt statement).preorder) :
    Records record ((recording record).onBlock part ((recording record).stmts part)) part
      (Part.block part).preorder :=
  .entering (.parts rfl (fun _ _ => rfl) member)

theorem recording_stmt (part : Stmt) :
    Records record ((recording record).stmt part) part (Part.stmt part).preorder := by
  induction part using Stmt.induction with
  | expr value => exact .entering ((recording_expr value).bind (.pure _))
  | declare param init =>
      exact .entering ((recording_param param).bind ((recording_optionalExpr init).map _))
  | conditional conditions blocks blocksIH =>
      have inConditions : Records record ((recording record).exprs conditions) conditions
          ((conditions.map .expr).flatMap Part.preorder) :=
        recording_exprs fun condition _ => recording_expr condition
      have inBlocks : Records record ((recording record).blockList blocks) blocks
          ((blocks.map .block).flatMap Part.preorder) :=
        .parts rfl (fun _ _ => rfl) fun block inside => recording_onBlock (blocksIH block inside)
      have inside : Records record (do
          let conditions ← (recording record).exprs conditions
          let blocks ← (recording record).blockList blocks
          return Conditional.mk conditions blocks) ⟨conditions, blocks⟩
          ((Part.conditional ⟨conditions, blocks⟩).children.flatMap Part.preorder) := by
        rw [Part.children, List.flatMap_append]
        exact inConditions.bind (inBlocks.map _)
      exact .entering (inside.entering.bind (.pure _))
  | block statements statementsIH =>
      exact .entering ((recording_onBlock statementsIH).bind (.pure _))
  | ret value => exact .entering ((recording_optionalExpr value).map _)
  | comment text => exact .entering (.pure _)

theorem recording_block (part : Block) :
    Records record ((recording record).block part) part (Part.block part).preorder :=
  recording_onBlock fun statement _ => recording_stmt statement

theorem recording_field (part : FieldDecl) :
    Records record ((recording record).field part) part (Part.field part).preorder :=
  .entering ((recording_type part.type).bind ((recording_optionalExpr part.init).map _))

theorem recording_constructor (part : ConstructorDecl) :
    Records record ((recording record).constructor part) part
      (Part.constructor part).preorder := by
  apply Records.entering
  rw [Part.children, List.flatMap_append]
  exact (recording_params part.params).bind ((recording_block part.body).bind (.pure part))

theorem recording_method (part : MethodDecl) :
    Records record ((recording record).method part) part (Part.method part).preorder := by
  apply Records.entering
  rw [Part.children, List.cons_append, List.flatMap_cons, List.flatMap_append]
  exact (recording_type part.returnType).bind
    ((recording_params part.params).bind ((recording_block part.body).bind (.pure part)))

theorem recording_classDecl (part : ClassDecl) :
    Records record ((recording record).classDecl part) part (Part.classDecl part).preorder := by
  induction part using ClassDecl.induction with
  | mk modifiers scope name fields constructors methods classes classesIH =>
      have inFields : Records record ((recording record).fields fields) fields _ :=
        .parts rfl (fun _ _ => rfl) fun field _ => recording_field field
      have inConstructors :
          Records record ((recording record).constructors constructors) constructors _ :=
        .parts rfl (fun _ _ => rfl) fun constructor _ => recording_constructor constructor
      have inMethods : Records record ((recording record).methods methods) methods _ :=
        .parts rfl (fun _ _ => rfl) fun method _ => recording_method method
      have inClasses : Records record ((recording record).classes classes) classes _ :=
        .parts rfl (fun _ _ => rfl) classesIH
      apply Records.entering
      simp only [Part.children, List.flatMap_append, List.append_assoc]
      exact inFields.bind (inConstructors.bind (inMethods.bind (inClasses.map _)))

theorem recording_file (part : FileDecl) :
    Records record ((recording record).file part) part (Part.file part).preorder :=
  .entering ((recording_classDecl part.body).bind (.pure part))

/-- A traversal that records the parts it visits records the preorder of the tree, and gives the
tree back. -/
theorem recording_node (part : Node) :
    Records record ((recording record).node part) part (Part.node part).preorder := by
  cases part with
  | expr tree => exact .entering ((recording_expr tree).bind (.pure _))
  | stmt tree => exact .entering ((recording_stmt tree).bind (.pure _))
  | block tree => exact .entering ((recording_block tree).bind (.pure _))
  | field tree => exact .entering ((recording_field tree).bind (.pure _))
  | constructor tree => exact .entering ((recording_constructor tree).bind (.pure _))
  | method tree => exact .entering ((recording_method tree).bind (.pure _))
  | classDecl tree => exact .entering ((recording_classDecl tree).bind (.pure _))
  | file tree => exact .entering ((recording_file tree).bind (.pure _))

/-- The traversal that notes the kind of every part notes exactly the kinds of the parts of the
tree in preorder, and gives the tree back.  So does every traversal that records something else
about the parts it visits. -/
theorem tracing_node_eq_preorder (node : Node) (noted : List PartKind) :
    (tracing.node node).run noted = (node, noted ++ (Part.node node).preorder.map Part.kind) ∧
      ∀ {σ : Type} (record : σ → Part → σ) (state : σ),
        ((recording record).node node).run state =
          (node, (Part.node node).preorder.foldl record state) := by
  constructor
  · rw [tracing_eq_recording, recording_node node noted, List.foldl_append_eq_append,
      ← List.flatMap_def, ← List.map_eq_flatMap]
  · intro σ record state
    exact recording_node node state

end Traversal

end Sourcewright
