import Sourcewright.Proofs.Tree.Determined
import Sourcewright.Tree.Traversal

/-!
# Visiting the types of a tree

A traversal that does nothing of its own at any part but types visits the types of a tree,
each place once and in order, every visit starting from the state that the one before it
left.  The tree it gives back has the outcomes of the visits at the places of its types, and
is the same as before everywhere else.
-/

namespace Sourcewright.Traversal

/-! ## Visits one after the other -/

variable {σ α β : Type}

/-- A traversal does nothing of its own at parts that are not types. -/
structure OnlyAtTypes (traversal : Traversal (StateM σ)) : Prop where
  onNode : ∀ part visit, traversal.onNode part visit = visit
  onFile : ∀ part visit, traversal.onFile part visit = visit
  onClass : ∀ part visit, traversal.onClass part visit = visit
  onField : ∀ part visit, traversal.onField part visit = visit
  onConstructor : ∀ part visit, traversal.onConstructor part visit = visit
  onMethod : ∀ part visit, traversal.onMethod part visit = visit
  onBlock : ∀ part visit, traversal.onBlock part visit = visit
  onStmt : ∀ part visit, traversal.onStmt part visit = visit
  onConditional : ∀ part visit, traversal.onConditional part visit = visit
  onExpr : ∀ part visit, traversal.onExpr part visit = visit
  onParam : ∀ part visit, traversal.onParam part visit = visit
  onMethodRef : ∀ part visit, traversal.onMethodRef part visit = visit

theorem onlyAtTypes_identity : OnlyAtTypes (identity : Traversal (StateM σ)) := by
  constructor <;> intros <;> rfl

theorem onlyAtTypes_ofTypes (visitType : TypeRef → StateM σ TypeRef) :
    OnlyAtTypes (ofTypes visitType) := by
  constructor <;> intros <;> rfl

/-- From every state, a visit ends in the state in which visits to the given types, one
after the other, end, and its result fits the list of their outcomes. -/
def Threads (visitType : TypeRef → StateM σ TypeRef) (visit : StateM σ α)
    (types : List TypeRef) (Fits : List TypeRef → α → Prop) : Prop :=
  ∀ state, (visit.run state).2 = ((types.mapM visitType).run state).2 ∧
    Fits ((types.mapM visitType).run state).1 (visit.run state).1

/-- A result has the outcomes as its types, and is the given part apart from types. -/
def Refills (types : α → List TypeRef) (mapTypes : (TypeRef → TypeRef) → α → α) (part : α)
    (outcomes : List TypeRef) (result : α) : Prop :=
  types result = outcomes ∧
    ∀ type, mapTypes (fun _ => type) result = mapTypes (fun _ => type) part

variable {visitType : TypeRef → StateM σ TypeRef}

theorem Threads.pure {result : α} {Fits : List TypeRef → α → Prop} (fits : Fits [] result) :
    Threads visitType (pure result) [] Fits :=
  fun _ => ⟨rfl, fits⟩

theorem Threads.type {visit : StateM σ TypeRef} {type : TypeRef}
    (visited : visit = visitType type) :
    Threads visitType visit [type] fun outcomes result => outcomes = [result] := by
  intro state
  rw [visited, List.mapM_cons, List.mapM_nil]
  exact ⟨rfl, rfl⟩

theorem run_mapM_append (types further : List TypeRef) (state : σ) :
    ((types ++ further).mapM visitType).run state =
      let (outcomes, between) := (types.mapM visitType).run state
      let (rest, final) := (further.mapM visitType).run between
      (outcomes ++ rest, final) := by
  rw [List.mapM_append]
  rfl

theorem Threads.bind {visit : StateM σ α} {next : α → StateM σ β} {types further : List TypeRef}
    {Fits : List TypeRef → α → Prop} {FitsBoth : List TypeRef → β → Prop}
    (visited : Threads visitType visit types Fits)
    (continued : ∀ outcomes result, Fits outcomes result →
      Threads visitType (next result) further fun rest => FitsBoth (outcomes ++ rest)) :
    Threads visitType (visit >>= next) (types ++ further) FitsBoth := by
  intro state
  obtain ⟨between, fits⟩ := visited state
  obtain ⟨final, fitsBoth⟩ := continued _ _ fits (visit.run state).2
  rw [run_mapM_append]
  rw [between] at final fitsBoth
  have ran : (visit >>= next).run state =
      (next (visit.run state).1).run (visit.run state).2 := rfl
  rw [ran, between]
  exact ⟨final, fitsBoth⟩

theorem Threads.map {visit : StateM σ α} {assemble : α → β} {types : List TypeRef}
    {Fits : List TypeRef → α → Prop} {FitsAll : List TypeRef → β → Prop}
    (visited : Threads visitType visit types Fits)
    (assembled : ∀ outcomes result, Fits outcomes result → FitsAll outcomes (assemble result)) :
    Threads visitType (visit >>= fun part => Pure.pure (assemble part)) types FitsAll :=
  fun state => ⟨(visited state).1, assembled _ _ (visited state).2⟩

/-- Visits to the members of a list one after the other refill the list. -/
theorem Threads.list {visitAll : List α → StateM σ (List α)} {visit : α → StateM σ α}
    {types : α → List TypeRef} {mapTypes : (TypeRef → TypeRef) → α → α} {parts : List α}
    (nil : visitAll [] = Pure.pure [])
    (cons : ∀ part parts, visitAll (part :: parts) =
      visit part >>= fun first => visitAll parts >>= fun rest => Pure.pure (first :: rest))
    (member : ∀ part ∈ parts,
      Threads visitType (visit part) (types part) (Refills types mapTypes part)) :
    Threads visitType (visitAll parts) (parts.flatMap types)
      (Refills (List.flatMap types) (fun replace => List.map (mapTypes replace)) parts) := by
  induction parts with
  | nil =>
      rw [nil]
      exact .pure ⟨rfl, fun _ => rfl⟩
  | cons part parts ih =>
      obtain ⟨first, rest⟩ := List.forall_mem_cons.mp member
      rw [cons]
      refine first.bind fun outcomes visited fits => (ih rest).map fun further others fitsRest => ?_
      constructor
      · rw [List.flatMap_cons, fits.1, fitsRest.1]
      · intro type
        have sameRest := fitsRest.2 type
        simp only [List.map_cons, fits.2 type, sameRest]

/-! ## What a traversal of types visits -/

section OnlyAtTypes

/-- A visit to a part threads the types of the part and refills it. -/
def Visits (traversal : Traversal (StateM σ)) (visit : StateM σ α) (types : α → List TypeRef)
    (mapTypes : (TypeRef → TypeRef) → α → α) (part : α) : Prop :=
  Threads traversal.type visit (types part) (Refills types mapTypes part)

variable {traversal : Traversal (StateM σ)} (only : OnlyAtTypes traversal)

include only

theorem visits_param (part : Param) :
    Visits traversal (traversal.param part) (fun part => [part.type]) Param.mapType part := by
  rw [param, only.onParam]
  refine (Threads.type rfl).map fun outcomes type fits => ⟨?_, fun _ => rfl⟩
  rw [fits]

theorem visits_params (parts : List Param) :
    Visits traversal (traversal.params parts) (List.map Param.type)
      (fun replace => List.map (Param.mapType replace)) parts := by
  have typesEq : List.map Param.type = List.flatMap fun part : Param => [part.type] :=
    funext fun _ => List.map_eq_flatMap
  rw [typesEq]
  exact Threads.list rfl (fun _ _ => rfl) fun part _ => visits_param only part

theorem visits_methodRef (part : MethodRef) :
    Visits traversal (traversal.methodRef part) (fun part => [part.owner]) MethodRef.mapType
      part := by
  rw [methodRef, only.onMethodRef]
  refine (Threads.type rfl).map fun outcomes type fits => ⟨?_, fun _ => rfl⟩
  rw [fits]

omit only in
theorem visits_exprs {parts : List Expr}
    (member : ∀ part ∈ parts,
      Visits traversal (traversal.expr part) Expr.types Expr.mapTypes part) :
    Visits traversal (traversal.exprs parts) (List.flatMap Expr.types)
      (fun replace => List.map (Expr.mapTypes replace)) parts :=
  Threads.list rfl (fun _ _ => rfl) member

theorem visits_expr (part : Expr) :
    Visits traversal (traversal.expr part) Expr.types Expr.mapTypes part := by
  induction part using Expr.induction with
  | literal value =>
      rw [expr, only.onExpr]
      exact .pure ⟨rfl, fun _ => rfl⟩
  | param named =>
      rw [expr, only.onExpr]
      refine (visits_param only named).map fun outcomes visited fits => ⟨fits.1, fun type => ?_⟩
      simp only [Expr.mapTypes, fits.2 type]
  | binary operator left right leftIH rightIH =>
      rw [expr, only.onExpr]
      refine leftIH.bind fun outcomes _ fitsLeft => rightIH.map fun rest _ fitsRight => ?_
      constructor
      · rw [Expr.types, fitsLeft.1, fitsRight.1]
      · intro type
        simp only [Expr.mapTypes, fitsLeft.2 type, fitsRight.2 type]
  | assign target value targetIH valueIH =>
      rw [expr, only.onExpr]
      refine targetIH.bind fun outcomes _ fitsTarget => valueIH.map fun rest _ fitsValue => ?_
      constructor
      · rw [Expr.types, fitsTarget.1, fitsValue.1]
      · intro type
        simp only [Expr.mapTypes, fitsTarget.2 type, fitsValue.2 type]
  | call receiver method arguments receiverIH argumentsIH =>
      rw [expr, only.onExpr, Visits, Expr.types, Expr.allTypes_eq_flatMap]
      refine receiverIH.bind fun outcomes receiver' fitsReceiver =>
        (visits_methodRef only method).bind fun owner method' fitsMethod =>
          (visits_exprs argumentsIH).map fun rest arguments' fitsArguments => ?_
      constructor
      · rw [Expr.types, Expr.allTypes_eq_flatMap, fitsReceiver.1, ← fitsMethod.1,
          fitsArguments.1, List.singleton_append]
      · intro type
        have sameArguments := fitsArguments.2 type
        simp only [Expr.mapTypes, Expr.mapAllTypes_eq_map, fitsReceiver.2 type,
          fitsMethod.2 type, sameArguments]
  | staticCall method arguments argumentsIH =>
      rw [expr, only.onExpr, Visits, Expr.types, Expr.allTypes_eq_flatMap]
      refine (visits_methodRef only method).bind fun owner method' fitsMethod =>
        (visits_exprs argumentsIH).map fun rest arguments' fitsArguments => ?_
      constructor
      · rw [Expr.types, Expr.allTypes_eq_flatMap, ← fitsMethod.1, fitsArguments.1,
          List.singleton_append]
      · intro type
        have sameArguments := fitsArguments.2 type
        simp only [Expr.mapTypes, Expr.mapAllTypes_eq_map, fitsMethod.2 type, sameArguments]
  | construct created arguments argumentsIH =>
      rw [expr, only.onExpr, Visits, Expr.types, Expr.allTypes_eq_flatMap]
      refine (Threads.type rfl).bind fun outcome created' fitsCreated =>
        (visits_exprs argumentsIH).map fun rest arguments' fitsArguments => ?_
      constructor
      · rw [Expr.types, Expr.allTypes_eq_flatMap, fitsCreated, fitsArguments.1,
          List.singleton_append]
      · intro type
        have sameArguments := fitsArguments.2 type
        simp only [Expr.mapTypes, Expr.mapAllTypes_eq_map, sameArguments]
  | field fieldType name =>
      rw [expr, only.onExpr]
      refine (Threads.type rfl).map fun outcomes type fits => ⟨?_, fun _ => rfl⟩
      rw [Expr.types, fits]

theorem visits_optionalExpr (part : Option Expr) :
    Visits traversal (traversal.optionalExpr part) Expr.optionalTypes
      (fun replace => Option.map (Expr.mapTypes replace)) part := by
  cases part with
  | none => exact .pure ⟨rfl, fun _ => rfl⟩
  | some part =>
      have listed (expr : Expr) : Expr.optionalTypes (some expr) = expr.types := by
        simp [Expr.optionalTypes]
      rw [Visits, listed]
      refine (visits_expr only part).map fun outcomes visited fits => ?_
      constructor
      · rw [listed, fits.1]
      · intro type
        simp only [Option.map_some, fits.2 type]

omit only in
theorem visits_stmts {parts : List Stmt}
    (member : ∀ part ∈ parts,
      Visits traversal (traversal.stmt part) Stmt.types Stmt.mapTypes part) :
    Visits traversal (traversal.stmts parts) (List.flatMap Stmt.types)
      (fun replace => List.map (Stmt.mapTypes replace)) parts :=
  Threads.list rfl (fun _ _ => rfl) member

theorem visits_block {part : Block}
    (member : ∀ statement ∈ part,
      Visits traversal (traversal.stmt statement) Stmt.types Stmt.mapTypes statement) :
    Visits traversal (traversal.block part) (List.flatMap Stmt.types)
      (fun replace => List.map (Stmt.mapTypes replace)) part := by
  rw [block, only.onBlock]
  exact visits_stmts member

theorem visits_stmt (part : Stmt) :
    Visits traversal (traversal.stmt part) Stmt.types Stmt.mapTypes part := by
  induction part using Stmt.induction with
  | expr value =>
      rw [stmt, only.onStmt]
      refine (visits_expr only value).map fun outcomes visited fits => ⟨fits.1, fun type => ?_⟩
      simp only [Stmt.mapTypes, fits.2 type]
  | declare declared init =>
      rw [stmt, only.onStmt]
      refine (visits_param only declared).bind fun outcomes _ fitsDeclared =>
        (visits_optionalExpr only init).map fun rest _ fitsInit => ?_
      constructor
      · rw [Stmt.types, ← fitsDeclared.1, fitsInit.1, List.singleton_append]
      · intro type
        have sameInit := fitsInit.2 type
        simp only [Stmt.mapTypes, fitsDeclared.2 type, sameInit]
  | conditional conditions blocks blocksIH =>
      rw [stmt, only.onStmt, only.onConditional, Visits, Stmt.types, Stmt.blockTypes_eq_flatMap]
      have inConditions := visits_exprs fun condition (_ : condition ∈ conditions) =>
        visits_expr only condition
      have inBlocks : Visits traversal (traversal.blockList blocks)
          (List.flatMap (List.flatMap Stmt.types))
          (fun replace => List.map (List.map (Stmt.mapTypes replace))) blocks :=
        Threads.list rfl (fun _ _ => rfl) fun part inside =>
          visits_block only (blocksIH part inside)
      refine Threads.map (inConditions.bind fun outcomes visited fitsConditions =>
        inBlocks.map fun rest others fitsBlocks => ?_) fun outcomes branching fits => fits
      constructor
      · simp only [Conditional.toStmt, Stmt.types, Stmt.blockTypes_eq_flatMap, fitsConditions.1,
          fitsBlocks.1]
      · intro type
        have sameConditions := fitsConditions.2 type
        have sameBlocks := fitsBlocks.2 type
        simp only [Conditional.toStmt, Stmt.mapTypes, Stmt.mapBlockTypes_eq_map, sameConditions,
          sameBlocks]
  | block statements statementsIH =>
      rw [stmt, only.onStmt, only.onBlock, Visits, Stmt.types, Stmt.allTypes_eq_flatMap]
      refine (visits_stmts statementsIH).map fun outcomes visited fits => ?_
      constructor
      · rw [Stmt.types, Stmt.allTypes_eq_flatMap, fits.1]
      · intro type
        have sameStatements := fits.2 type
        simp only [Stmt.mapTypes, Stmt.mapAllTypes_eq_map, sameStatements]
  | ret value =>
      rw [stmt, only.onStmt]
      refine (visits_optionalExpr only value).map fun outcomes visited fits =>
        ⟨fits.1, fun type => ?_⟩
      have sameValue := fits.2 type
      simp only [Stmt.mapTypes, sameValue]
  | comment text =>
      rw [stmt, only.onStmt]
      exact .pure ⟨rfl, fun _ => rfl⟩

theorem visits_body (part : Block) :
    Visits traversal (traversal.block part) (List.flatMap Stmt.types)
      (fun replace => List.map (Stmt.mapTypes replace)) part :=
  visits_block only fun statement _ => visits_stmt only statement

theorem visits_field (part : FieldDecl) :
    Visits traversal (traversal.field part) FieldDecl.types FieldDecl.mapTypes part := by
  rw [field, only.onField]
  refine (Threads.type rfl).bind fun outcome type' fitsType =>
    (visits_optionalExpr only part.init).map fun rest init' fitsInit => ?_
  constructor
  · rw [FieldDecl.types, fitsType, fitsInit.1, List.singleton_append]
  · intro type
    have sameInit := fitsInit.2 type
    simp only [FieldDecl.mapTypes, sameInit]

theorem visits_constructor (part : ConstructorDecl) :
    Visits traversal (traversal.constructor part) ConstructorDecl.types ConstructorDecl.mapTypes
      part := by
  rw [constructor, only.onConstructor]
  refine (visits_params only part.params).bind fun outcomes params' fitsParams =>
    (visits_body only part.body).map fun rest body' fitsBody => ?_
  constructor
  · rw [ConstructorDecl.types, fitsParams.1, fitsBody.1]
  · intro type
    have sameParams := fitsParams.2 type
    have sameBody := fitsBody.2 type
    simp only [ConstructorDecl.mapTypes, sameParams, sameBody]

theorem visits_method (part : MethodDecl) :
    Visits traversal (traversal.method part) MethodDecl.types MethodDecl.mapTypes part := by
  rw [method, only.onMethod]
  refine (Threads.type rfl).bind fun outcome returnType' fitsReturnType =>
    (visits_params only part.params).bind fun outcomes params' fitsParams =>
      (visits_body only part.body).map fun rest body' fitsBody => ?_
  constructor
  · rw [MethodDecl.types, fitsReturnType, fitsParams.1, fitsBody.1, List.singleton_append,
      List.cons_append]
  · intro type
    have sameParams := fitsParams.2 type
    have sameBody := fitsBody.2 type
    simp only [MethodDecl.mapTypes, sameParams, sameBody]

theorem visits_classDecl (part : ClassDecl) :
    Visits traversal (traversal.classDecl part) ClassDecl.types ClassDecl.mapTypes part := by
  induction part using ClassDecl.induction with
  | mk modifiers scope name fields constructors methods classes classesIH =>
      have inFields : Visits traversal (traversal.fields fields) (List.flatMap FieldDecl.types)
          (fun replace => List.map (FieldDecl.mapTypes replace)) fields :=
        Threads.list rfl (fun _ _ => rfl) fun field _ => visits_field only field
      have inConstructors : Visits traversal (traversal.constructors constructors)
          (List.flatMap ConstructorDecl.types)
          (fun replace => List.map (ConstructorDecl.mapTypes replace)) constructors :=
        Threads.list rfl (fun _ _ => rfl) fun constructor _ => visits_constructor only constructor
      have inMethods : Visits traversal (traversal.methods methods)
          (List.flatMap MethodDecl.types)
          (fun replace => List.map (MethodDecl.mapTypes replace)) methods :=
        Threads.list rfl (fun _ _ => rfl) fun method _ => visits_method only method
      have inClasses : Visits traversal (traversal.classes classes)
          (List.flatMap ClassDecl.types)
          (fun replace => List.map (ClassDecl.mapTypes replace)) classes :=
        Threads.list rfl (fun _ _ => rfl) classesIH
      rw [classDecl, only.onClass, Visits, ClassDecl.types, ClassDecl.allTypes_eq_flatMap,
        List.append_assoc, List.append_assoc]
      refine inFields.bind fun _ fields' fitsFields =>
        inConstructors.bind fun _ constructors' fitsConstructors =>
          inMethods.bind fun _ methods' fitsMethods =>
            inClasses.map fun _ classes' fitsClasses => ?_
      constructor
      · rw [ClassDecl.types, ClassDecl.allTypes_eq_flatMap, fitsFields.1, fitsConstructors.1,
          fitsMethods.1, fitsClasses.1, List.append_assoc, List.append_assoc]
      · intro type
        have sameFields := fitsFields.2 type
        have sameConstructors := fitsConstructors.2 type
        have sameMethods := fitsMethods.2 type
        have sameClasses := fitsClasses.2 type
        simp only [ClassDecl.mapTypes, ClassDecl.mapAllTypes_eq_map, sameFields,
          sameConstructors, sameMethods, sameClasses]

/-- A traversal visits the types of a tree in order, and refills the tree with the
outcomes. -/
theorem visits_node (part : Node) :
    Visits traversal (traversal.node part) Node.types Node.mapTypes part := by
  rw [node, only.onNode]
  cases part with
  | expr tree =>
      refine (visits_expr only tree).map fun _ _ fits => ⟨fits.1, fun type => ?_⟩
      simp only [Node.mapTypes, fits.2 type]
  | stmt tree =>
      refine (visits_stmt only tree).map fun _ _ fits => ⟨fits.1, fun type => ?_⟩
      simp only [Node.mapTypes, fits.2 type]
  | block tree =>
      refine (visits_body only tree).map fun _ _ fits => ⟨fits.1, fun type => ?_⟩
      have sameStatements := fits.2 type
      simp only [Node.mapTypes, sameStatements]
  | field tree =>
      refine (visits_field only tree).map fun _ _ fits => ⟨fits.1, fun type => ?_⟩
      simp only [Node.mapTypes, fits.2 type]
  | constructor tree =>
      refine (visits_constructor only tree).map fun _ _ fits => ⟨fits.1, fun type => ?_⟩
      simp only [Node.mapTypes, fits.2 type]
  | method tree =>
      refine (visits_method only tree).map fun _ _ fits => ⟨fits.1, fun type => ?_⟩
      simp only [Node.mapTypes, fits.2 type]
  | classDecl tree =>
      refine (visits_classDecl only tree).map fun _ _ fits => ⟨fits.1, fun type => ?_⟩
      simp only [Node.mapTypes, fits.2 type]
  | file tree =>
      have inBody := visits_classDecl only tree.body
      rw [nodeInside, file, only.onFile]
      refine (inBody.map fun _ _ fits => ?_).map fun _ _ fits => fits
      refine ⟨fits.1, fun type => ?_⟩
      simp only [Node.mapTypes, fits.2 type]

end OnlyAtTypes

/-! ## Laws of traversals -/

/-- Only one tree is the given one refilled with given types. -/
theorem Refills.eq {node first second : Node} {outcomes : List TypeRef}
    (refilled : Refills Node.types Node.mapTypes node outcomes first)
    (likewise : Refills Node.types Node.mapTypes node outcomes second) : first = second :=
  Node.determined (.named "") first second (refilled.1.trans likewise.1.symm)
    ((refilled.2 _).trans (likewise.2 _).symm)

theorem Refills.trans {node middle final : Node} {outcomes further : List TypeRef}
    (refilled : Refills Node.types Node.mapTypes node outcomes middle)
    (again : Refills Node.types Node.mapTypes middle further final) :
    Refills Node.types Node.mapTypes node further final :=
  ⟨again.1, fun type => (again.2 type).trans (refilled.2 type)⟩

/-- The traversal that replaces types by a function without a state. -/
def replacing (σ : Type) (replace : TypeRef → TypeRef) : Traversal (StateM σ) :=
  ofTypes fun type => Pure.pure (replace type)

/-- A traversal whose visits to types leave the state alone leaves it alone, and refills the
tree with the replacements of its types. -/
theorem run_node_of_type_eq_pure {traversal : Traversal (StateM σ)}
    (only : OnlyAtTypes traversal) {replace : TypeRef → TypeRef}
    (visited : traversal.type = fun type => Pure.pure (replace type)) (node : Node) (state : σ) :
    ((traversal.node node).run state).2 = state ∧
      Refills Node.types Node.mapTypes node (node.types.map replace)
        ((traversal.node node).run state).1 := by
  have visits : _ ∧ _ := visits_node only node state
  rw [visited, List.mapM_pure] at visits
  exact visits

/-- A traversal that only says what to do at types runs that on the types of a tree, each
place once and in order, with the state passed on from one to the next.  It gives back the
tree with the outcomes as its types and with everything else as it was.  So replacing nothing
gives back the tree, and two replacements one after the other are one replacement. -/
theorem ofTypes_lawful (visitType : TypeRef → StateM σ TypeRef) (node : Node) (state : σ) :
    (∃ result final, ((ofTypes visitType).node node).run state = (result, final) ∧
      (node.types.mapM visitType).run state = (result.types, final) ∧
      ∀ type, result.mapTypes (fun _ => type) = node.mapTypes fun _ => type) ∧
    ((identity : Traversal (StateM σ)).node node).run state = (node, state) ∧
    ∀ first second : TypeRef → TypeRef,
      ((replacing σ first).node node >>= (replacing σ second).node).run state =
        ((replacing σ (second ∘ first)).node node).run state := by
  refine ⟨?_, ?_, fun first second => ?_⟩
  · have visits : _ ∧ _ := visits_node (onlyAtTypes_ofTypes visitType) node state
    obtain ⟨sameState, refilled⟩ := visits
    exact ⟨_, _, rfl, Prod.ext refilled.1.symm sameState.symm, refilled.2⟩
  · have unchanged : (identity : Traversal (StateM σ)).type =
        fun type => Pure.pure (id type) := rfl
    obtain ⟨sameState, refilled⟩ :=
      run_node_of_type_eq_pure onlyAtTypes_identity unchanged node state
    rw [List.map_id] at refilled
    exact Prod.ext (refilled.eq ⟨rfl, fun _ => rfl⟩) sameState
  · have only (replace : TypeRef → TypeRef) : OnlyAtTypes (replacing σ replace) :=
      onlyAtTypes_ofTypes _
    obtain ⟨firstState, firstRefilled⟩ :=
      run_node_of_type_eq_pure (only first) rfl node state
    obtain ⟨secondState, secondRefilled⟩ := run_node_of_type_eq_pure (only second) rfl
      (((replacing σ first).node node).run state).1 (((replacing σ first).node node).run state).2
    obtain ⟨bothState, bothRefilled⟩ :=
      run_node_of_type_eq_pure (only (second ∘ first)) rfl node state
    rw [firstRefilled.1, List.map_map] at secondRefilled
    refine Prod.ext ((firstRefilled.trans secondRefilled).eq bothRefilled) ?_
    exact secondState.trans (firstState.trans bothState.symm)

end Sourcewright.Traversal
