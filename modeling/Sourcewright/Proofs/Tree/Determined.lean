import Sourcewright.Proofs.Tree.Types

/-!
# Trees are determined by their types and what is left

A tree is determined by the types that stand in it and by what is left when all of them are
replaced by one and the same type.  What is left says how many types each part has, so the
list of types is cut up among the parts in only one way.  A tree none of whose types is
changed by a replacement is therefore not changed itself.
-/

namespace Sourcewright

/-- No other part has the same types and is left the same when types are blanked out. -/
def DeterminedByTypes {α : Type} (types : α → List TypeRef) (blank : α → α) (part : α) : Prop :=
  ∀ other, types part = types other → blank part = blank other → part = other

theorem length_types_of_blank {α : Type} {types : α → List TypeRef} {blank : α → α}
    {replace : TypeRef → TypeRef}
    (typesBlank : ∀ part, types (blank part) = (types part).map replace) {part other : α}
    (same : blank part = blank other) : (types part).length = (types other).length := by
  have lengths := congrArg List.length (typesBlank part)
  rw [same, typesBlank other, List.length_map, List.length_map] at lengths
  exact lengths.symm

theorem DeterminedByTypes.list {α : Type} {types : α → List TypeRef} {blank : α → α}
    {replace : TypeRef → TypeRef}
    (typesBlank : ∀ part, types (blank part) = (types part).map replace)
    {parts others : List α} (member : ∀ part ∈ parts, DeterminedByTypes types blank part)
    (sameTypes : parts.flatMap types = others.flatMap types)
    (sameBlank : parts.map blank = others.map blank) : parts = others := by
  induction parts generalizing others with
  | nil =>
      rw [List.map_nil, eq_comm, List.map_eq_nil_iff] at sameBlank
      exact sameBlank.symm
  | cons part parts ih =>
      cases others with
      | nil => cases sameBlank
      | cons other others =>
          obtain ⟨first, rest⟩ := List.forall_mem_cons.mp member
          obtain ⟨blankFirst, blankRest⟩ := List.cons.inj sameBlank
          rw [List.flatMap_cons, List.flatMap_cons] at sameTypes
          -- The first parts have equally many types, so the lists of types split alike.
          obtain ⟨typesFirst, typesRest⟩ :=
            List.append_inj sameTypes (length_types_of_blank typesBlank blankFirst)
          rw [first other typesFirst blankFirst, ih rest typesRest blankRest]

section Determined

variable (type : TypeRef)

theorem Param.determined {first second : Param} (sameType : first.type = second.type)
    (sameBlank : first.mapType (fun _ => type) = second.mapType fun _ => type) :
    first = second := by
  obtain ⟨name, firstType⟩ := first
  obtain ⟨otherName, secondType⟩ := second
  obtain rfl : firstType = secondType := sameType
  obtain rfl : name = otherName := congrArg Param.name sameBlank
  rfl

theorem MethodRef.determined {first second : MethodRef} (sameOwner : first.owner = second.owner)
    (sameBlank : first.mapType (fun _ => type) = second.mapType fun _ => type) :
    first = second := by
  obtain ⟨firstOwner, name⟩ := first
  obtain ⟨secondOwner, otherName⟩ := second
  obtain rfl : firstOwner = secondOwner := sameOwner
  obtain rfl : name = otherName := congrArg MethodRef.name sameBlank
  rfl

theorem Expr.determined (expr : Expr) :
    DeterminedByTypes Expr.types (Expr.mapTypes fun _ => type) expr := by
  have typesBlank := Expr.types_mapTypes fun _ => type
  induction expr using Expr.induction with
  | literal value =>
      intro other _ sameBlank
      cases other <;> cases sameBlank
      rfl
  | param named =>
      intro other sameTypes sameBlank
      cases other <;> simp only [mapTypes, reduceCtorEq, param.injEq] at sameBlank
      rw [Param.determined type (List.cons.inj sameTypes).1 sameBlank]
  | binary operator left right leftIH rightIH =>
      intro other sameTypes sameBlank
      cases other <;> simp only [mapTypes, reduceCtorEq, binary.injEq] at sameBlank
      obtain ⟨rfl, blankLeft, blankRight⟩ := sameBlank
      obtain ⟨typesLeft, typesRight⟩ :=
        List.append_inj sameTypes (length_types_of_blank typesBlank blankLeft)
      rw [leftIH _ typesLeft blankLeft, rightIH _ typesRight blankRight]
  | assign target value targetIH valueIH =>
      intro other sameTypes sameBlank
      cases other <;> simp only [mapTypes, reduceCtorEq, assign.injEq] at sameBlank
      obtain ⟨blankTarget, blankValue⟩ := sameBlank
      obtain ⟨typesTarget, typesValue⟩ :=
        List.append_inj sameTypes (length_types_of_blank typesBlank blankTarget)
      rw [targetIH _ typesTarget blankTarget, valueIH _ typesValue blankValue]
  | call receiver method arguments receiverIH argumentsIH =>
      intro other sameTypes sameBlank
      cases other <;>
        simp only [mapTypes, mapAllTypes_eq_map, reduceCtorEq, call.injEq] at sameBlank
      obtain ⟨blankReceiver, blankMethod, blankArguments⟩ := sameBlank
      simp only [types, allTypes_eq_flatMap] at sameTypes
      obtain ⟨typesReceiver, typesFurther⟩ :=
        List.append_inj sameTypes (length_types_of_blank typesBlank blankReceiver)
      obtain ⟨sameOwner, typesArguments⟩ := List.cons.inj typesFurther
      rw [receiverIH _ typesReceiver blankReceiver,
        MethodRef.determined type sameOwner blankMethod,
        DeterminedByTypes.list typesBlank argumentsIH typesArguments blankArguments]
  | staticCall method arguments argumentsIH =>
      intro other sameTypes sameBlank
      cases other <;>
        simp only [mapTypes, mapAllTypes_eq_map, reduceCtorEq, staticCall.injEq] at sameBlank
      obtain ⟨blankMethod, blankArguments⟩ := sameBlank
      simp only [types, allTypes_eq_flatMap] at sameTypes
      obtain ⟨sameOwner, typesArguments⟩ := List.cons.inj sameTypes
      rw [MethodRef.determined type sameOwner blankMethod,
        DeterminedByTypes.list typesBlank argumentsIH typesArguments blankArguments]
  | construct created arguments argumentsIH =>
      intro other sameTypes sameBlank
      cases other <;>
        simp only [mapTypes, mapAllTypes_eq_map, reduceCtorEq, construct.injEq] at sameBlank
      simp only [types, allTypes_eq_flatMap] at sameTypes
      obtain ⟨sameCreated, typesArguments⟩ := List.cons.inj sameTypes
      rw [sameCreated,
        DeterminedByTypes.list typesBlank argumentsIH typesArguments sameBlank.2]
  | field fieldType name =>
      intro other sameTypes sameBlank
      cases other <;> simp only [mapTypes, reduceCtorEq, field.injEq] at sameBlank
      rw [(List.cons.inj sameTypes).1, sameBlank.2]

theorem Expr.optional_determined {first second : Option Expr}
    (sameTypes : Expr.optionalTypes first = Expr.optionalTypes second)
    (sameBlank : first.map (Expr.mapTypes fun _ => type) =
      second.map (Expr.mapTypes fun _ => type)) : first = second := by
  cases first with
  | none =>
      rw [Option.map_none, eq_comm, Option.map_eq_none_iff] at sameBlank
      exact sameBlank.symm
  | some first =>
      cases second with
      | none => cases sameBlank
      | some second =>
          simp only [optionalTypes, Option.toList_some, List.flatMap_singleton] at sameTypes
          rw [Expr.determined type first second sameTypes (Option.some.inj sameBlank)]

theorem Stmt.determined (statement : Stmt) :
    DeterminedByTypes Stmt.types (Stmt.mapTypes fun _ => type) statement := by
  have typesBlank := Stmt.types_mapTypes fun _ => type
  induction statement using Stmt.induction with
  | expr value =>
      intro other sameTypes sameBlank
      cases other <;> simp only [mapTypes, reduceCtorEq, expr.injEq] at sameBlank
      rw [Expr.determined type value _ sameTypes sameBlank]
  | declare param init =>
      intro other sameTypes sameBlank
      cases other <;> simp only [mapTypes, reduceCtorEq, declare.injEq] at sameBlank
      obtain ⟨blankParam, blankInit⟩ := sameBlank
      obtain ⟨sameType, typesInit⟩ := List.cons.inj sameTypes
      rw [Param.determined type sameType blankParam,
        Expr.optional_determined type typesInit blankInit]
  | conditional conditions blocks blocksIH =>
      intro other sameTypes sameBlank
      cases other <;>
        simp only [mapTypes, mapBlockTypes_eq_map, reduceCtorEq, conditional.injEq] at sameBlank
      obtain ⟨blankConditions, blankBlocks⟩ := sameBlank
      simp only [types, blockTypes_eq_flatMap] at sameTypes
      have typesConditions (conditions : List Expr) := flatMap_map_parts (fun _ => type) conditions
        fun condition _ => Expr.types_mapTypes (fun _ => type) condition
      have typesBlock (block : Block) := flatMap_map_parts (fun _ => type) block
        fun statement _ => Stmt.types_mapTypes (fun _ => type) statement
      obtain ⟨inConditions, inBlocks⟩ :=
        List.append_inj sameTypes (length_types_of_blank typesConditions blankConditions)
      have conditionsDetermined (condition : Expr) (_ : condition ∈ conditions) :=
        Expr.determined type condition
      have blocksDetermined (block : Block) (inside : block ∈ blocks) :
          DeterminedByTypes (fun block : Block => block.flatMap Stmt.types)
            (fun block => block.map (Stmt.mapTypes fun _ => type)) block :=
        fun _ => DeterminedByTypes.list typesBlank (blocksIH block inside)
      rw [DeterminedByTypes.list (Expr.types_mapTypes fun _ => type) conditionsDetermined
          inConditions blankConditions,
        DeterminedByTypes.list typesBlock blocksDetermined inBlocks blankBlocks]
  | block statements statementsIH =>
      intro other sameTypes sameBlank
      cases other <;>
        simp only [mapTypes, mapAllTypes_eq_map, reduceCtorEq, block.injEq] at sameBlank
      simp only [types, allTypes_eq_flatMap] at sameTypes
      rw [DeterminedByTypes.list typesBlank statementsIH sameTypes sameBlank]
  | ret value =>
      intro other sameTypes sameBlank
      cases other <;> simp only [mapTypes, reduceCtorEq, ret.injEq] at sameBlank
      rw [Expr.optional_determined type sameTypes sameBlank]
  | comment text =>
      intro other _ sameBlank
      cases other <;> cases sameBlank
      rfl

theorem Param.list_determined {first second : List Param}
    (sameTypes : first.map Param.type = second.map Param.type)
    (sameBlank : first.map (Param.mapType fun _ => type) =
      second.map (Param.mapType fun _ => type)) : first = second := by
  rw [List.map_eq_flatMap, List.map_eq_flatMap] at sameTypes
  have typesBlank (param : Param) :
      [(param.mapType fun _ => type).type] = [param.type].map fun _ => type := rfl
  refine DeterminedByTypes.list typesBlank (fun param _ other sameType blank => ?_) sameTypes
    sameBlank
  exact Param.determined type (List.cons.inj sameType).1 blank

theorem Block.determined {first second : Block}
    (sameTypes : first.flatMap Stmt.types = second.flatMap Stmt.types)
    (sameBlank : first.map (Stmt.mapTypes fun _ => type) =
      second.map (Stmt.mapTypes fun _ => type)) : first = second :=
  DeterminedByTypes.list (Stmt.types_mapTypes fun _ => type)
    (fun statement _ => Stmt.determined type statement) sameTypes sameBlank

theorem FieldDecl.determined (declaration : FieldDecl) :
    DeterminedByTypes FieldDecl.types (FieldDecl.mapTypes fun _ => type) declaration := by
  intro other sameTypes sameBlank
  obtain ⟨modifiers, fieldType, name, init⟩ := declaration
  obtain ⟨otherModifiers, otherType, otherName, otherInit⟩ := other
  simp only [mapTypes, mk.injEq] at sameBlank
  obtain ⟨rfl, -, rfl, blankInit⟩ := sameBlank
  obtain ⟨sameType, typesInit⟩ := List.cons.inj sameTypes
  obtain rfl : fieldType = otherType := sameType
  obtain rfl : init = otherInit := Expr.optional_determined type typesInit blankInit
  rfl

theorem ConstructorDecl.determined (declaration : ConstructorDecl) :
    DeterminedByTypes ConstructorDecl.types (ConstructorDecl.mapTypes fun _ => type)
      declaration := by
  intro other sameTypes sameBlank
  obtain ⟨modifiers, params, body⟩ := declaration
  obtain ⟨otherModifiers, otherParams, otherBody⟩ := other
  simp only [mapTypes, mk.injEq] at sameBlank
  obtain ⟨rfl, blankParams, blankBody⟩ := sameBlank
  have lengths := congrArg List.length blankParams
  obtain ⟨typesParams, typesBody⟩ := List.append_inj sameTypes (by simpa using lengths)
  obtain rfl : params = otherParams := Param.list_determined type typesParams blankParams
  obtain rfl : body = otherBody := Block.determined type typesBody blankBody
  rfl

theorem MethodDecl.determined (declaration : MethodDecl) :
    DeterminedByTypes MethodDecl.types (MethodDecl.mapTypes fun _ => type) declaration := by
  intro other sameTypes sameBlank
  obtain ⟨modifiers, name, returnType, params, body⟩ := declaration
  obtain ⟨otherModifiers, otherName, otherReturnType, otherParams, otherBody⟩ := other
  simp only [mapTypes, mk.injEq] at sameBlank
  obtain ⟨rfl, rfl, -, blankParams, blankBody⟩ := sameBlank
  obtain ⟨sameReturnType, typesFurther⟩ := List.cons.inj sameTypes
  obtain rfl : returnType = otherReturnType := sameReturnType
  have lengths := congrArg List.length blankParams
  obtain ⟨typesParams, typesBody⟩ := List.append_inj typesFurther (by simpa using lengths)
  obtain rfl : params = otherParams := Param.list_determined type typesParams blankParams
  obtain rfl : body = otherBody := Block.determined type typesBody blankBody
  rfl

theorem ClassDecl.determined (declaration : ClassDecl) :
    DeterminedByTypes ClassDecl.types (ClassDecl.mapTypes fun _ => type) declaration := by
  induction declaration using ClassDecl.induction with
  | mk modifiers scope name fields constructors methods classes classesIH =>
      intro other sameTypes sameBlank
      obtain ⟨otherModifiers, otherScope, otherName, otherFields, otherConstructors,
        otherMethods, otherClasses⟩ := other
      simp only [mapTypes, mapAllTypes_eq_map, mk.injEq] at sameBlank
      obtain ⟨rfl, rfl, rfl, blankFields, blankConstructors, blankMethods, blankClasses⟩ :=
        sameBlank
      simp only [types, allTypes_eq_flatMap, List.append_assoc] at sameTypes
      -- Each list of members has equally many types on both sides, one list after the other.
      have fieldTypes := FieldDecl.types_mapTypes fun _ => type
      have constructorTypes := ConstructorDecl.types_mapTypes fun _ => type
      have methodTypes := MethodDecl.types_mapTypes fun _ => type
      obtain ⟨typesFields, afterFields⟩ := List.append_inj sameTypes
        (length_types_of_blank (fun fields => flatMap_map_parts _ fields
          fun field _ => fieldTypes field) blankFields)
      obtain ⟨typesConstructors, afterConstructors⟩ := List.append_inj afterFields
        (length_types_of_blank (fun constructors => flatMap_map_parts _ constructors
          fun constructor _ => constructorTypes constructor) blankConstructors)
      obtain ⟨typesMethods, typesClasses⟩ := List.append_inj afterConstructors
        (length_types_of_blank (fun methods => flatMap_map_parts _ methods
          fun method _ => methodTypes method) blankMethods)
      rw [DeterminedByTypes.list fieldTypes (fun field _ => FieldDecl.determined type field)
          typesFields blankFields,
        DeterminedByTypes.list constructorTypes
          (fun constructor _ => ConstructorDecl.determined type constructor)
          typesConstructors blankConstructors,
        DeterminedByTypes.list methodTypes
          (fun method _ => MethodDecl.determined type method) typesMethods blankMethods,
        DeterminedByTypes.list (ClassDecl.types_mapTypes fun _ => type) classesIH
          typesClasses blankClasses]

/-- Trees with the same types in the same order are the same if they are the same once all
types are replaced by one. -/
theorem Node.determined (node : Node) :
    DeterminedByTypes Node.types (Node.mapTypes fun _ => type) node := by
  intro other sameTypes sameBlank
  cases node <;> cases other <;>
    simp only [mapTypes, reduceCtorEq, expr.injEq, stmt.injEq, block.injEq, field.injEq,
      constructor.injEq, method.injEq, classDecl.injEq, file.injEq] at sameBlank
  case expr.expr tree other => rw [Expr.determined type tree other sameTypes sameBlank]
  case stmt.stmt tree other => rw [Stmt.determined type tree other sameTypes sameBlank]
  case block.block tree other => rw [Block.determined type sameTypes sameBlank]
  case field.field tree other => rw [FieldDecl.determined type tree other sameTypes sameBlank]
  case constructor.constructor tree other =>
    rw [ConstructorDecl.determined type tree other sameTypes sameBlank]
  case method.method tree other => rw [MethodDecl.determined type tree other sameTypes sameBlank]
  case classDecl.classDecl tree other =>
    rw [ClassDecl.determined type tree other sameTypes sameBlank]
  case file.file tree other =>
    obtain ⟨references, body⟩ := tree
    obtain ⟨otherReferences, otherBody⟩ := other
    obtain ⟨rfl, blankBody⟩ := FileDecl.mk.inj sameBlank
    rw [ClassDecl.determined type body otherBody sameTypes blankBody]

end Determined

/-! ## Trees whose types are not changed -/

variable {replace : TypeRef → TypeRef}

/-- A tree none of whose types is changed by a replacement is not changed by it. -/
theorem Node.mapTypes_eq_self (node : Node)
    (fixed : ∀ type ∈ node.types, replace type = type) : node.mapTypes replace = node := by
  apply Node.determined (.named "")
  · rw [types_mapTypes, List.map_congr_left fixed, List.map_id']
  · exact node.mapTypes_mapTypes replace _

/-- A replacement leaves a tree as it is exactly if it leaves all of its types as they
are. -/
theorem Node.mapTypes_eq_self_iff (node : Node) :
    node.mapTypes replace = node ↔ ∀ type ∈ node.types, replace type = type := by
  constructor
  · intro same type member
    have listed : node.types.map replace = node.types := by
      rw [← Node.types_mapTypes, same]
    exact List.map_inj_left.mp (listed.trans node.types.map_id.symm) type member
  · exact Node.mapTypes_eq_self node

end Sourcewright
