import Sourcewright.Document.Load
import Sourcewright.Proofs.Document.Decoding
import Sourcewright.Proofs.Document.PresentationReading
import Sourcewright.Proofs.Emission.Constructs

/-!
# Written trees are loaded again

Loading the document of a tree gives back the tree, unless the brackets of the document nest
too deep.  So does loading any other presentation of its value.  Floating point constants are
left out, as not all of them have digits.
-/

namespace Sourcewright

open Document

/-! ## Trees without floating point constants -/

/-- No floating point constant is among the constructs. -/
def Construct.FloatFree (constructs : List Construct) : Prop :=
  ∀ value, .float value ∉ constructs

namespace Construct

@[simp]
theorem floatFree_append {first second : List Construct} :
    FloatFree (first ++ second) ↔ FloatFree first ∧ FloatFree second := by
  simp only [FloatFree, List.mem_append, not_or, forall_and]

@[simp]
theorem floatFree_flatMap {α : Type} {parts : List α} {constructs : α → List Construct} :
    FloatFree (parts.flatMap constructs) ↔ ∀ part ∈ parts, FloatFree (constructs part) := by
  simp only [FloatFree, List.mem_flatMap, not_exists, not_and]
  exact ⟨fun free part inside value => free value part inside,
    fun free value part inside => free part inside value⟩

@[simp]
theorem floatFree_type_cons {type : TypeRef} {constructs : List Construct} :
    FloatFree (.type type :: constructs) ↔ FloatFree constructs := by
  simp [FloatFree]

@[simp]
theorem floatFree_operator_cons {applied : Operator} {constructs : List Construct} :
    FloatFree (.operator applied :: constructs) ↔ FloatFree constructs := by
  simp [FloatFree]

@[simp]
theorem floatFree_conditional_cons {branching : Conditional} {constructs : List Construct} :
    FloatFree (.conditional branching :: constructs) ↔ FloatFree constructs := by
  simp [FloatFree]

theorem floatFree_inTurn {conditions blocks : List (List Construct)} :
    FloatFree (inTurn conditions blocks) ↔
      FloatFree conditions.flatten ∧ FloatFree blocks.flatten := by
  simp only [FloatFree, mem_inTurn, not_or, forall_and]

end Construct

open Construct (FloatFree)

/-! ## Values of trees -/

theorem fits_carrying {kind : Kind} {alternatives : List Alternative}
    (defined : kind.definition = .choice alternatives) {name : String} {shape : Shape}
    {value : Value} (fits : Fits false shape value) (known : carrying name shape ∈ alternatives) :
    Fits false (.tree kind) (.variant name value) :=
  .variant defined known rfl fits

theorem fits_withMembers {kind content : Kind} {alternatives : List Alternative}
    {expected : Expected} {members : List Member}
    (defined : kind.definition = .choice alternatives)
    (contentDefined : content.definition = .record expected members) {name : String}
    {values : List Value}
    (fits : List.Forall₂ (fun member value => Fits member.nullable member.shape value)
      members values) (known : withMembers name content ∈ alternatives) :
    Fits false (.tree kind) (.variant name (content.recordOf values)) :=
  .variant defined known rfl (.members contentDefined fits)

theorem fits_name {α : Type} {kind : Kind} {all : List α} {name : α → String}
    (defined : kind.definition = tags (all.map name)) {entry : α} (known : entry ∈ all) :
    Fits false (.tree kind) (.tag (name entry)) :=
  .tag defined (List.mem_map_of_mem (List.mem_map_of_mem known))

theorem fits_map {α : Type} {element : Shape} {toValue : α → Value} {trees : List α}
    (fits : ∀ tree ∈ trees, Fits false element (toValue tree)) :
    Fits false (.list element) (.list (trees.map toValue)) := by
  refine .list fun item member => ?_
  obtain ⟨tree, inside, rfl⟩ := List.mem_map.mp member
  exact fits tree inside

theorem Primitive.fits (builtin : Primitive) :
    Fits false (.tree .primitive) (.tag builtin.name) :=
  fits_name rfl (by cases builtin <;> decide)

theorem TypeRef.fits (type : TypeRef) : Fits false (.tree .type) type.toValue := by
  cases type with
  | named name => exact fits_carrying rfl (.text name) (by simp)
  | primitive builtin => exact fits_carrying rfl builtin.fits (by simp)

theorem Operator.fits (operator : Operator) :
    Fits false (.tree .operator) operator.toValue :=
  fits_name rfl (by cases operator <;> decide)

theorem Modifiers.fits (modifiers : Modifiers) :
    Fits false modifiersShape modifiers.toValue :=
  fits_map fun modifier _ => fits_name rfl (by cases modifier <;> decide)

theorem Literal.fits {value : Literal} (free : FloatFree value.constructs) :
    Fits false (.tree .literal) value.toValue := by
  cases value with
  | truth value => exact fits_carrying rfl (.truth value) (by simp)
  | integer value => exact fits_carrying rfl (.integer value) (by simp)
  | float value => exact absurd List.mem_cons_self (free value)
  | text value => exact fits_carrying rfl (.text value) (by simp)
  | null => exact .tag rfl (by simp)

theorem Param.fits (param : Param) : Fits false (.tree .param) param.toValue :=
  Fits.members rfl (.cons (.text param.name)
    (.cons param.type.fits .nil))

theorem MethodRef.fits (method : MethodRef) :
    Fits false (.tree .methodRef) method.toValue :=
  Fits.members rfl (.cons method.owner.fits
    (.cons (.text method.name) .nil))

namespace Expr

theorem fits {expr : Expr} (free : FloatFree expr.constructs) :
    Fits false (.tree .expr) expr.toValue := by
  -- The members of each variant fit one by one, in the order of its definition.
  induction expr using Expr.induction with
  | literal value => exact fits_carrying rfl (Literal.fits free) (by simp)
  | param named => exact fits_carrying rfl named.fits (by simp)
  | binary operator left right leftIH rightIH =>
      simp only [constructs, List.cons_append, Construct.floatFree_append,
        Construct.floatFree_operator_cons] at free
      exact fits_withMembers rfl rfl (.cons operator.fits
        (.cons (leftIH free.1) (.cons (rightIH free.2) .nil))) (by simp)
  | assign target value targetIH valueIH =>
      simp only [constructs, Construct.floatFree_append] at free
      exact fits_withMembers rfl rfl (.cons (targetIH free.1)
        (.cons (valueIH free.2) .nil)) (by simp)
  | call receiver method arguments receiverIH argumentsIH =>
      simp only [constructs, allConstructs_eq_flatMap, Construct.floatFree_append,
        Construct.floatFree_flatMap] at free
      have argumentsFit := fits_map fun argument inside =>
        argumentsIH argument inside (free.2 argument inside)
      rw [toValue, toValues_eq_map]
      exact fits_withMembers rfl rfl (.cons (receiverIH free.1).orNull
        (.cons method.fits (.cons argumentsFit .nil))) (by simp)
  | staticCall method arguments argumentsIH =>
      simp only [constructs, allConstructs_eq_flatMap, Construct.floatFree_type_cons,
        Construct.floatFree_flatMap] at free
      have argumentsFit := fits_map fun argument inside =>
        argumentsIH argument inside (free argument inside)
      rw [toValue, toValues_eq_map]
      exact fits_withMembers rfl rfl (.cons (.null _)
        (.cons method.fits (.cons argumentsFit .nil))) (by simp)
  | construct type arguments argumentsIH =>
      simp only [constructs, allConstructs_eq_flatMap, Construct.floatFree_type_cons,
        Construct.floatFree_flatMap] at free
      have argumentsFit := fits_map fun argument inside =>
        argumentsIH argument inside (free argument inside)
      rw [toValue, toValues_eq_map]
      exact fits_withMembers rfl rfl (.cons type.fits
        (.cons argumentsFit .nil)) (by simp)
  | field type name =>
      exact fits_withMembers rfl rfl (.cons type.fits
        (.cons (.text name) .nil)) (by simp)

theorem fitsOrNull {value : Option Expr} (free : FloatFree (optionalConstructs value)) :
    Fits true (.tree .expr) (toOptionalValue value) := by
  cases value with
  | none => exact .null _
  | some expr => exact (fits (by simpa [optionalConstructs] using free)).orNull

end Expr

namespace Stmt

theorem fits {statement : Stmt} (free : FloatFree statement.constructs) :
    Fits false (.tree .stmt) statement.toValue := by
  induction statement using Stmt.induction with
  | expr value => exact fits_carrying rfl (Expr.fits free) (by simp)
  | declare param init =>
      simp only [constructs, Construct.floatFree_type_cons] at free
      exact fits_withMembers rfl rfl (.cons param.fits
        (.cons (Expr.fitsOrNull free) .nil)) (by simp)
  | conditional conditions blocks blocksIH =>
      simp only [constructs, blockConstructs_eq_map, Construct.floatFree_conditional_cons,
        Construct.floatFree_inTurn, ← List.flatMap_def, Construct.floatFree_flatMap] at free
      have conditionsFit := fits_map fun condition inside =>
        Expr.fits (free.1 condition inside)
      have blocksFit : Fits false (.list blockShape) (.list (blocks.map Block.toValue)) := by
        refine fits_map fun block inside => ?_
        rw [Block.toValue, toValues_eq_map]
        exact fits_map fun statement within =>
          blocksIH block inside statement within (free.2 block inside statement within)
      have members : Fits false (.tree .conditional) (Kind.conditional.recordOf
          [.list (conditions.map Expr.toValue), .list (blocks.map Block.toValue)]) :=
        Fits.members rfl (.cons conditionsFit (.cons blocksFit .nil))
      rw [toValue, Expr.toValues_eq_map, blockValues_eq_map]
      exact fits_carrying rfl members (by simp)
  | block statements statementsIH =>
      simp only [constructs, allConstructs_eq_flatMap, Construct.floatFree_flatMap] at free
      have inside : Fits false blockShape (.list (statements.map toValue)) :=
        fits_map fun statement inside => statementsIH statement inside (free statement inside)
      rw [toValue, toValues_eq_map]
      exact fits_carrying rfl inside (by simp)
  | ret value =>
      have placed : Content.place? (.value (.tree .expr) true) = some (true, .tree .expr) := rfl
      exact .variant rfl (by simp) placed (Expr.fitsOrNull free)
  | comment text => exact fits_carrying rfl (.text text) (by simp)

end Stmt

theorem Block.fits {block : Block} (free : FloatFree (block.flatMap Stmt.constructs)) :
    Fits false blockShape (Block.toValue block) := by
  rw [Construct.floatFree_flatMap] at free
  rw [Block.toValue, Stmt.toValues_eq_map]
  exact fits_map fun statement inside => Stmt.fits (free statement inside)

theorem FieldDecl.fits {declaration : FieldDecl} (free : FloatFree declaration.constructs) :
    Fits false (.tree .field) declaration.toValue := by
  simp only [constructs, Construct.floatFree_type_cons] at free
  exact Fits.members rfl (.cons declaration.modifiers.fits
    (.cons declaration.type.fits (.cons (.text declaration.name)
      (.cons (Expr.fitsOrNull free) .nil))))

theorem fits_params (params : List Param) :
    Fits false (.list (.tree .param)) (.list (params.map Param.toValue)) :=
  fits_map fun param _ => param.fits

theorem ConstructorDecl.fits {declaration : ConstructorDecl}
    (free : FloatFree declaration.constructs) :
    Fits false (.tree .constructor) declaration.toValue := by
  rw [constructs, Construct.floatFree_append] at free
  exact Fits.members rfl (.cons declaration.modifiers.fits
    (.cons (fits_params declaration.params)
      (.cons (Block.fits free.2) .nil)))

theorem MethodDecl.fits {declaration : MethodDecl}
    (free : FloatFree declaration.constructs) :
    Fits false (.tree .method) declaration.toValue := by
  rw [constructs, Construct.floatFree_append] at free
  exact Fits.members rfl (.cons declaration.modifiers.fits
    (.cons (.text declaration.name)
      (.cons declaration.returnType.fits
        (.cons (fits_params declaration.params)
          (.cons (Block.fits free.2) .nil)))))

theorem ClassDecl.fits {declaration : ClassDecl} (free : FloatFree declaration.constructs) :
    Fits false (.tree .classDecl) declaration.toValue := by
  induction declaration using ClassDecl.induction with
  | mk modifiers scope name fields constructors methods classes classesIH =>
      simp only [constructs, allConstructs_eq_flatMap, Construct.floatFree_append,
        Construct.floatFree_flatMap, and_assoc] at free
      obtain ⟨inFields, inConstructors, inMethods, inClasses⟩ := free
      have fieldsFit := fits_map fun field inside =>
        FieldDecl.fits (inFields field inside)
      have constructorsFit := fits_map fun constructor inside =>
        ConstructorDecl.fits (inConstructors constructor inside)
      have methodsFit := fits_map fun method inside =>
        MethodDecl.fits (inMethods method inside)
      have classesFit := fits_map fun nested inside =>
        classesIH nested inside (inClasses nested inside)
      rw [toValue, toValues_eq_map]
      exact Fits.members rfl (.cons modifiers.fits
        (.cons (.text scope) (.cons (.text name)
          (.cons fieldsFit (.cons constructorsFit
            (.cons methodsFit (.cons classesFit .nil)))))))

theorem Reference.fits (reference : Reference) :
    Fits false (.tree .reference) reference.toValue := by
  have kindFit : Fits false (.tree .referenceKind) (.tag reference.kind.name) :=
    fits_name rfl (by cases reference.kind <;> decide)
  exact Fits.members rfl (.cons kindFit
    (.cons (.text reference.path) .nil))

theorem FileDecl.fits {tree : FileDecl} (free : FloatFree tree.body.constructs) :
    Fits false (.tree .file) tree.toValue := by
  have referencesFit := fits_map fun reference (_ : reference ∈ tree.references) =>
    reference.fits
  exact Fits.members rfl (.cons referencesFit
    (.cons (ClassDecl.fits free) .nil))

/-- The document value of a tree without floating point constants fits its place. -/
theorem Node.fits {node : Node} (free : FloatFree node.constructs) :
    Fits false (.tree .node) node.toValue := by
  cases node with
  | expr tree => exact fits_carrying rfl (Expr.fits free) (by simp)
  | stmt tree => exact fits_carrying rfl (Stmt.fits free) (by simp)
  | block tree => exact fits_carrying rfl (Block.fits free) (by simp)
  | field tree => exact fits_carrying rfl (FieldDecl.fits free) (by simp)
  | constructor tree => exact fits_carrying rfl (ConstructorDecl.fits free) (by simp)
  | method tree => exact fits_carrying rfl (MethodDecl.fits free) (by simp)
  | classDecl tree => exact fits_carrying rfl (ClassDecl.fits free) (by simp)
  | file tree =>
      rw [constructs, Construct.floatFree_append] at free
      exact fits_carrying rfl (FileDecl.fits free.2) (by simp)

/-! ## Loading -/

namespace Node

theorem toList_render (node : Node) : (Documented.render node).toList = node.toValue.chars :=
  String.toList_ofList

/-- The brackets of the document of a tree nest as deep as those of its value. -/
theorem bracketNesting_render {node : Node} (free : FloatFree node.constructs) :
    bracketNesting (Documented.render node).toList = node.toValue.nesting := by
  rw [toList_render, (fits free).nests.bracketNesting_chars]

theorem limited_readChars_render {node : Node} (free : FloatFree node.constructs) :
    Limited (bracketNesting (Documented.render node).toList ≤ depthLimit)
      (readChars (.tree .node) (Documented.render node).toList) node.toValue := by
  have read := (fits free).reads depthLimit [] .nil
  rw [bracketNesting_render free, toList_render]
  rw [List.append_nil] at read
  exact read.andThen rfl

/-- A tree without floating point constants is loaded from its document if the brackets of
the document nest no more than 127 deep; otherwise the document is rejected as malformed, as
brackets nest too deep. -/
theorem load_render (node : Node) (free : FloatFree node.constructs) :
    (bracketNesting (Documented.render node).toList ≤ 127 →
      Documented.load Node (Documented.render node) = .ok node) ∧
    (127 < bracketNesting (Documented.render node).toList →
      ∃ rejection, Documented.load Node (Documented.render node) = .error rejection ∧
        rejection.cause.message = "recursion limit exceeded" ∧
        rejection.cause.kind = .malformed) := by
  obtain ⟨within, beyond⟩ := limited_readChars_render free
  constructor
  · intro shallow
    have read : Document.read (.tree .node) (Documented.render node) = .ok node.toValue := by
      rw [Document.read, within shallow]
    rw [Documented.load]
    simp only [Documented.shape, Documented.ofValue?, read, ofValue?_toValue]
  · intro deep
    obtain ⟨remaining, stopped⟩ := beyond (Nat.not_le_of_lt deep)
    refine ⟨Rejection.ofFault (Documented.render node).toList (.placed .depthLimit remaining),
      ?_, rfl, rfl⟩
    rw [Documented.load]
    simp only [Documented.shape, Document.read, stopped]

end Node

/-- A comment in as many blocks as are asked for. -/
def Stmt.inBlocks : Nat → Stmt
  | 0 => .comment "[\"\x01"
  | count + 1 => .block [inBlocks count]

theorem Stmt.constructs_inBlocks (count : Nat) : (inBlocks count).constructs = [] := by
  induction count with
  | zero => rfl
  | succ count ih => simp [inBlocks, constructs, ih]

theorem Stmt.nesting_inBlocks (count : Nat) : (inBlocks count).toValue.nesting = 2 * count + 1 := by
  induction count with
  | zero => rfl
  | succ count ih =>
      simp only [inBlocks, toValue, toValues, Value.nesting, Value.mostNesting, ih]
      omega

/-- A document that nests 127 deep is loaded, and one that nests 128 deep is not. -/
theorem Node.load_render_inBlocks :
    (bracketNesting (Documented.render (Node.block [Stmt.inBlocks 62])).toList = 127 ∧
      Documented.load Node (Documented.render (Node.block [Stmt.inBlocks 62])) =
        .ok (.block [Stmt.inBlocks 62])) ∧
    (bracketNesting (Documented.render (Node.stmt (Stmt.inBlocks 63))).toList = 128 ∧
      ∃ rejection, Documented.load Node (Documented.render (Node.stmt (Stmt.inBlocks 63))) =
          .error rejection ∧
        rejection.cause.message = "recursion limit exceeded" ∧
        rejection.cause.kind = .malformed) := by
  have shallowFree : FloatFree (Node.block [Stmt.inBlocks 62]).constructs := by
    simp [Node.constructs, Stmt.constructs_inBlocks, FloatFree]
  have deepFree : FloatFree (Node.stmt (Stmt.inBlocks 63)).constructs := by
    simp [Node.constructs, Stmt.constructs_inBlocks, FloatFree]
  have shallow : (Node.block [Stmt.inBlocks 62]).toValue.nesting = 127 := by
    simp [Node.toValue, Block.toValue, Value.nesting, Value.mostNesting, Stmt.nesting_inBlocks]
  have deep : (Node.stmt (Stmt.inBlocks 63)).toValue.nesting = 128 := by
    simp [Node.toValue, Value.nesting, Stmt.nesting_inBlocks]
  rw [← bracketNesting_render shallowFree] at shallow
  rw [← bracketNesting_render deepFree] at deep
  exact ⟨⟨shallow, (load_render _ shallowFree).1 (by omega)⟩,
    deep, (load_render _ deepFree).2 (by omega)⟩

/-! ## Other presentations -/

namespace Node

/-- The document of a tree presents its value, and every document that presents its value is
loaded as the tree. -/
theorem load_of_presents (node : Node) (free : FloatFree node.constructs)
    (shallow : bracketNesting (Documented.render node).toList ≤ 127) :
    Presents false (.tree .node) node.toValue (Documented.render node).toList ∧
      ∀ document : Padded, Presents false (.tree .node) node.toValue document.body →
        Documented.load Node (String.ofList document.chars) = .ok node := by
  rw [bracketNesting_render free] at shallow
  constructor
  · rw [toList_render]
    exact (fits free).presents
  · intro document presents
    have read : Document.read (.tree .node) (String.ofList document.chars) =
        .ok node.toValue := by
      rw [Document.read, String.toList_ofList, presents.readChars shallow]
    rw [Documented.load]
    simp only [Documented.shape, Documented.ofValue?, read, ofValue?_toValue]

/-- A field of which the members stand in another order, without those that are empty, and
with a member that is not known. -/
def scattered : List Char :=
  "\x7b\"name\":\"x\", \"note\":[\x7b\x7d] ,\"type\":\x7b\"named\":\"T\"\x7d\x7d".toList

theorem presents_scattered :
    Presents false (.tree .field) (FieldDecl.toValue ⟨{}, .named "T", "x", none⟩) scattered := by
  let name := (required "name" .text, Value.text "x")
  let type := (required "type" (.tree .type), TypeRef.toValue (.named "T"))
  let dropped := [(emptyByDefault "modifiers" (.tree .modifier), Value.list []),
    (absentByDefault "init" (.tree .expr), Value.null)]
  let note : Entry := ⟨⟨[' '], "note".toList.flatMap escapedChar, [], by decide, by decide⟩,
    ⟨[], "[\x7b\x7d]".toList, [' '], by decide, by decide⟩⟩
  let entries := [(some name, Entry.bare "name" name.2.chars), (none, note),
    (some type, Entry.bare "type" type.2.chars)]
  have noteFormed : WellFormed note.value.body := by
    have object : WellFormed (Padded.bare "\x7b\x7d".toList).body :=
      .object .nil (nofun : ∀ entry ∈ ([] : List Entry), WellFormedText entry.key.body) nofun
    exact .list .nil (List.forall_mem_singleton.mpr object)
  have complete : (entries.filterMap Prod.fst ++ dropped).Perm
      (Kind.field.members.zip [.list [], type.2, name.2, .null]) :=
    (List.Perm.swap _ _ _).trans ((List.Perm.cons _ (.swap _ _ _)).trans (.swap _ _ _))
  have known {pair : Member × Value} {entry : Entry} (member : (some pair, entry) ∈ entries) :
      entry = .bare pair.1.name pair.2.chars ∧ (pair = name ∨ pair = type) := by
    simp only [entries, List.mem_cons, List.not_mem_nil, or_false, Prod.mk.injEq,
      Option.some.injEq, reduceCtorEq, false_and, false_or] at member
    rcases member with ⟨rfl, rfl⟩ | ⟨rfl, rfl⟩
    · exact ⟨rfl, .inl rfl⟩
    · exact ⟨rfl, .inr rfl⟩
  change Presents false (.tree .field) _
    ('\x7b' :: ([] ++ (separated (entries.map fun entry => entry.2.chars) ++ ['\x7d'])))
  refine .record rfl rfl complete ?_ .nil (fun pair entry member => ?_)
    (fun pair entry member => ?_) (fun entry member => ?_)
  · simp [dropped, emptyByDefault, absentByDefault, optionalNames, Member.emptyValue?]
  · rw [(known member).1]
    exact spells_flatMap_escapedChar _
  · rw [(known member).1]
    rcases (known member).2 with rfl | rfl
    · exact .text (spells_flatMap_escapedChar _)
    · exact (TypeRef.fits (.named "T")).presents
  · obtain rfl : entry = note := by simpa [entries] using member
    exact ⟨noteFormed, "note", spells_flatMap_escapedChar _, by decide⟩

theorem load_of_presents_scattered :
    Documented.load Node
        (String.ofList (" \x7b\"field\":".toList ++ (scattered ++ "\x7d\n".toList))) =
      .ok (.field ⟨{}, .named "T", "x", none⟩) := by
  have free : FloatFree (Node.field ⟨{}, .named "T", "x", none⟩).constructs := nofun
  have shallow : bracketNesting (Documented.render
      (Node.field ⟨{}, .named "T", "x", none⟩)).toList ≤ 127 := by
    rw [bracketNesting_render free]
    decide
  have presents : Presents false (.tree .node) _
      ('\x7b' :: ((Entry.bare "field" _).chars ++ ['\x7d'])) :=
    .variant rfl (.tail _ (.tail _ (.tail _ (.head _)))) rfl (spells_flatMap_escapedChar _)
      presents_scattered
  have loaded := (load_of_presents _ free shallow).2
    ⟨[' '], _, ['\n'], by decide, by decide⟩ presents
  exact loaded

end Node

end Sourcewright
