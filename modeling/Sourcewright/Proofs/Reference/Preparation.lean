import Mathlib.Data.Finset.Card
import Sourcewright.Generate
import Sourcewright.Proofs.Reference.Listing
import Sourcewright.Proofs.Reference.Qualified
import Sourcewright.Proofs.Tree.Rearrangement
import Sourcewright.Proofs.Tree.Recording

/-!
# Prepared trees

Preparing a tree simplifies its types and, if the tree becomes a file, attaches the
references that the types need.  Every type counts, also one that is never written, and
nothing but the types and the references that were there before counts.

A prepared tree has no qualified types left, and all of its references are attached, so
preparing it once more changes nothing.
-/

namespace Sourcewright

namespace Node

/-- The references attached to a tree; only files have any. -/
def references : Node → List Reference
  | .file tree => tree.references
  | _ => []

/-- Whether a tree is prepared as a file: classes and files are. -/
def becomesFile : Node → Bool
  | .classDecl _ => true
  | .file _ => true
  | _ => false

theorem becomesFile_mapTypes (replace : TypeRef → TypeRef) (node : Node) :
    (node.mapTypes replace).becomesFile = node.becomesFile := by
  cases node <;> rfl

end Node

/-- The whole name of a type, if it is qualified. -/
def TypeRef.qualifiedName? : TypeRef → Option String
  | .primitive _ => none
  | .named name => if (TypeRef.named name).splitQualified?.isSome then some name else none

namespace Target

/-- A type needs a reference in the source text of a target: a qualified name is brought
into scope, and the header and the scope of a primitive type are. -/
inductive Needs : Target → TypeRef → Reference → Prop
  | importedName {name : String} (qualified : (TypeRef.named name).Qualified) :
      Needs java (.named name) ⟨.importName, name⟩
  | usedName {name : String} (qualified : (TypeRef.named name).Qualified) :
      Needs cpp (.named name) ⟨.useName, scopedName name⟩
  | stringHeader : Needs cpp (.primitive .string) ⟨.includeHeader, "<string>"⟩
  | stringScope : Needs cpp (.primitive .string) ⟨.useNamespace, "std"⟩
  | fixedWidthHeader {builtin : Primitive}
      (fixedWidth : builtin ∈ [.byte, .unsignedLong, .unsignedInt, .unsignedShort,
        .unsignedByte]) :
      Needs cpp (.primitive builtin) ⟨.includeHeader, "<cstdint>"⟩

theorem needsFixedWidthHeader_iff {builtin : Primitive} :
    needsFixedWidthHeader builtin = true ↔
      builtin ∈ [.byte, .unsignedLong, .unsignedInt, .unsignedShort, .unsignedByte] := by
  cases builtin <;> decide

theorem mem_primitiveReferences_iff (target : Target) (builtin : Primitive)
    (reference : Reference) :
    reference ∈ target.primitiveReferences builtin ↔
      target.Needs (.primitive builtin) reference := by
  constructor
  · intro member
    cases target with
    | java => cases member
    | cpp =>
        by_cases isString : builtin = .string
        · subst isString
          simp only [primitiveReferences, List.mem_cons, List.not_mem_nil, or_false] at member
          rcases member with rfl | rfl
          · exact .stringHeader
          · exact .stringScope
        · simp only [primitiveReferences, List.mem_ite_nil_right, List.mem_singleton] at member
          obtain ⟨fixedWidth, rfl⟩ := member
          exact .fixedWidthHeader (needsFixedWidthHeader_iff.mp fixedWidth)
  · intro needed
    cases needed with
    | stringHeader => decide
    | stringScope => decide
    | fixedWidthHeader fixedWidth =>
        have notString : builtin ≠ .string := by
          rintro rfl
          revert fixedWidth
          decide
        simp [primitiveReferences, needsFixedWidthHeader_iff.mpr fixedWidth]

theorem mem_typeReferences_iff (target : Target) (type : TypeRef) (reference : Reference) :
    reference ∈ target.typeReferences type ↔ target.Needs type reference := by
  cases type with
  | primitive builtin => exact mem_primitiveReferences_iff target builtin reference
  | named name =>
      simp only [typeReferences, List.mem_ite_nil_right, List.mem_singleton,
        TypeRef.splitQualified?_isSome_iff]
      constructor
      · rintro ⟨qualified, rfl⟩
        cases target with
        | cpp => exact .usedName qualified
        | java => exact .importedName qualified
      · intro needed
        cases needed with
        | importedName qualified => exact ⟨qualified, rfl⟩
        | usedName qualified => exact ⟨qualified, rfl⟩

/-! ## Resolving -/

theorem records_resolveType (target : Target) (type : TypeRef) :
    Traversal.Records (fun references type => references.insertAll (target.typeReferences type))
      (target.resolveType type) type.simplified [type] :=
  fun _ => rfl

theorem mem_foldl_insertAll (target : Target) {types : List TypeRef} {references : References}
    {reference : Reference} :
    reference ∈ (types.foldl (fun references type =>
        references.insertAll (target.typeReferences type)) references).toList ↔
      reference ∈ references.toList ∨ ∃ type ∈ types, target.Needs type reference := by
  induction types generalizing references with
  | nil => simp
  | cons type types ih =>
      rw [List.foldl_cons, ih, References.mem_insertAll, mem_typeReferences_iff]
      simp only [List.mem_cons, exists_eq_or_imp, or_assoc]

/-- Resolving replaces every type of a tree by its simple name. -/
theorem resolve_fst (target : Target) (node : Node) :
    (target.resolve node).1 = node.mapTypes TypeRef.simplified := by
  rw [resolve, Traversal.records_node (records_resolveType target) node]

/-- Resolving collects what the types of a tree need, and nothing else. -/
theorem mem_resolve_snd (target : Target) {node : Node} {reference : Reference} :
    reference ∈ (target.resolve node).2.toList ↔
      ∃ type ∈ node.types, target.Needs type reference := by
  rw [resolve, Traversal.records_node (records_resolveType target) node, mem_foldl_insertAll]
  simp

/-! ## Preparing -/

theorem prepare_classDecl (target : Target) (declaration : ClassDecl) :
    target.prepare (.classDecl declaration) =
      .file ⟨(target.resolve (.classDecl declaration)).2.toList,
        declaration.mapTypes TypeRef.simplified⟩ := by
  have resolved := target.resolve_fst (.classDecl declaration)
  rw [prepare, ← Prod.mk.eta (p := target.resolve _), resolved]
  rfl

theorem prepare_file (target : Target) (tree : FileDecl) :
    target.prepare (.file tree) =
      .file ⟨((target.resolve (.file tree)).2.insertAll tree.references).toList,
        tree.body.mapTypes TypeRef.simplified⟩ := by
  have resolved := target.resolve_fst (.file tree)
  rw [prepare, ← Prod.mk.eta (p := target.resolve _), resolved]
  rfl

theorem prepare_of_not_becomesFile (target : Target) {node : Node}
    (fragment : node.becomesFile = false) :
    target.prepare node = node.mapTypes TypeRef.simplified := by
  have resolved := target.resolve_fst node
  rw [prepare, ← Prod.mk.eta (p := target.resolve _), resolved]
  cases node with
  | classDecl tree => cases fragment
  | file tree => cases fragment
  | expr tree => rfl
  | stmt tree => rfl
  | block tree => rfl
  | field tree => rfl
  | constructor tree => rfl
  | method tree => rfl

/-- A prepared file lists the references of a set: those that the types need, and those
that were attached before. -/
theorem exists_references_prepare (target : Target) {node : Node}
    (becomes : node.becomesFile = true) :
    ∃ references : References, (target.prepare node).references = references.toList ∧
      ∀ reference, reference ∈ references.toList ↔
        reference ∈ node.references ∨ ∃ type ∈ node.types, target.Needs type reference := by
  cases node with
  | classDecl declaration =>
      refine ⟨(target.resolve (.classDecl declaration)).2, ?_, fun reference => ?_⟩
      · rw [prepare_classDecl]
        rfl
      · rw [mem_resolve_snd]
        simp [Node.references]
  | file tree =>
      refine ⟨(target.resolve (.file tree)).2.insertAll tree.references, ?_,
        fun reference => ?_⟩
      · rw [prepare_file]
        rfl
      · rw [References.mem_insertAll, mem_resolve_snd, or_comm]
        rfl
  | _ => cases becomes

/-- Prepared files with the same types and the same references attached before have the
same references. -/
theorem references_prepare_congr (target : Target) {node other : Node}
    (becomes : node.becomesFile = true) (otherBecomes : other.becomesFile = true)
    (types : SameMembers node.types other.types)
    (references : SameMembers node.references other.references) :
    (target.prepare node).references = (target.prepare other).references := by
  obtain ⟨listing, listed, members⟩ := target.exists_references_prepare becomes
  obtain ⟨otherListing, otherListed, otherMembers⟩ :=
    target.exists_references_prepare otherBecomes
  have same : listing = otherListing := by
    apply References.eq_of_mem_iff
    intro reference
    rw [members, otherMembers, references reference]
    simp only [types _]
  rw [listed, otherListed, same]

theorem references_prepare_of_not_becomesFile (target : Target) {node : Node}
    (fragment : node.becomesFile = false) : (target.prepare node).references = [] := by
  rw [prepare_of_not_becomesFile target fragment]
  cases node with
  | file tree => cases fragment
  | _ => rfl

theorem mem_qualifiedNames {node : Node} {name : String} :
    name ∈ node.types.filterMap TypeRef.qualifiedName? ↔
      ∃ type ∈ node.types, java.Needs type ⟨.importName, name⟩ := by
  simp only [List.mem_filterMap, ← mem_typeReferences_iff]
  constructor
  · rintro ⟨type, member, qualified⟩
    refine ⟨type, member, ?_⟩
    cases type with
    | primitive builtin => cases qualified
    | named other =>
        simp only [TypeRef.qualifiedName?, Option.ite_none_right_eq_some,
          Option.some.injEq] at qualified
        obtain ⟨split, rfl⟩ := qualified
        simp [typeReferences, split, nameReference]
  · rintro ⟨type, member, needed⟩
    refine ⟨type, member, ?_⟩
    cases type with
    | primitive builtin => cases needed
    | named other =>
        simp only [typeReferences, List.mem_ite_nil_right, List.mem_singleton, nameReference,
          Reference.mk.injEq, true_and] at needed
        obtain ⟨split, rfl⟩ := needed
        simp [TypeRef.qualifiedName?, split]

/-- A class is prepared for Java with one import for each qualified name that occurs in
it. -/
theorem length_imports (declaration : ClassDecl) :
    (java.prepare (.classDecl declaration)).references.length =
      ((Node.classDecl declaration).types.filterMap TypeRef.qualifiedName?).toFinset.card := by
  have becomes : (Node.classDecl declaration).becomesFile = true := rfl
  obtain ⟨listing, listed, members⟩ := java.exists_references_prepare becomes
  have imported : ∀ reference ∈ listing.toList, reference.kind = .importName := by
    intro reference member
    obtain ⟨type, -, needed⟩ := ((members reference).mp member).resolve_left (nomatch ·)
    cases needed
    rfl
  -- All of the references are imports, so they differ in their paths.
  have distinct : (listing.toList.map Reference.path).Nodup := by
    refine listing.toList_nodup.map_on ?_
    rintro ⟨firstKind, firstPath⟩ first ⟨secondKind, secondPath⟩ second paths
    have firstImported := imported _ first
    have secondImported := imported _ second
    simp_all
  have names : (listing.toList.map Reference.path).Perm
      ((Node.classDecl declaration).types.filterMap TypeRef.qualifiedName?).dedup := by
    rw [List.perm_ext_iff_of_nodup distinct (List.nodup_dedup _)]
    intro name
    rw [List.mem_dedup, mem_qualifiedNames, List.mem_map]
    constructor
    · rintro ⟨⟨kind, path⟩, member, rfl⟩
      obtain rfl : kind = .importName := imported _ member
      exact ((members _).mp member).resolve_left (nomatch ·)
    · intro needed
      exact ⟨⟨.importName, name⟩, (members _).mpr (.inr needed), rfl⟩
  rw [listed, List.card_toFinset, ← names.length_eq, List.length_map]

/-- The references of a prepared class or file are listed in order without repeats: those
attached before, and what the types of the tree need.  They depend on nothing else, so
rearranging the tree does not change them, and Java has one import for each qualified name
of a class.  No other tree is given references. -/
theorem references_prepare (target : Target) (node : Node) :
    (node.becomesFile = true →
      (target.prepare node).references.Pairwise Reference.Before ∧
      (∀ reference, reference ∈ (target.prepare node).references ↔
        reference ∈ node.references ∨ ∃ type ∈ node.types, target.Needs type reference) ∧
      (∀ other : Node, other.becomesFile = true → SameMembers node.types other.types →
        SameMembers node.references other.references →
          (target.prepare node).references = (target.prepare other).references)) ∧
    (∀ first second : ClassDecl, Relation.ReflTransGen ClassDecl.Rearranged first second →
      (target.prepare (.classDecl first)).references =
        (target.prepare (.classDecl second)).references ∧
      ∀ attached, (target.prepare (.file ⟨attached, first⟩)).references =
        (target.prepare (.file ⟨attached, second⟩)).references) ∧
    (∀ declaration, node = .classDecl declaration →
      (java.prepare node).references.length =
        (node.types.filterMap TypeRef.qualifiedName?).toFinset.card) ∧
    (node.becomesFile = false → (target.prepare node).references = []) := by
  refine ⟨fun becomes => ?_, fun first second rearrangements => ?_, ?_,
    target.references_prepare_of_not_becomesFile⟩
  · obtain ⟨listing, listed, members⟩ := target.exists_references_prepare becomes
    refine ⟨listed ▸ listing.ordered, listed ▸ members, ?_⟩
    intro other otherBecomes types references
    exact target.references_prepare_congr becomes otherBecomes types references
  · have types := ClassDecl.types_of_rearrangements rearrangements
    exact ⟨target.references_prepare_congr rfl rfl types (.refl _),
      fun attached => target.references_prepare_congr rfl rfl types (.refl attached)⟩
  · rintro declaration rfl
    exact length_imports declaration

/-! ## Preparing twice -/

theorem mapTypes_simplified_simplified (node : Node) :
    (node.mapTypes TypeRef.simplified).mapTypes TypeRef.simplified =
      node.mapTypes TypeRef.simplified := by
  apply Node.mapTypes_eq_self
  intro type member
  rw [Node.types_mapTypes, List.mem_map] at member
  obtain ⟨original, -, rfl⟩ := member
  exact original.simplified_simplified

/-- Resolving a resolved tree does not change it. -/
theorem resolve_resolve_fst (target : Target) (node : Node) :
    (target.resolve (target.resolve node).1).1 = (target.resolve node).1 := by
  rw [resolve_fst, resolve_fst, mapTypes_simplified_simplified]

/-- What a simplified type needs is what a primitive type needs. -/
theorem needs_simplified_iff {target : Target} {type : TypeRef} {reference : Reference} :
    target.Needs type.simplified reference ↔
      ∃ builtin, type = .primitive builtin ∧ target.Needs type reference := by
  constructor
  · intro needed
    have unqualified := type.splitQualified?_simplified
    have notQualified : ¬ type.simplified.Qualified := by
      rw [← TypeRef.splitQualified?_isSome_iff, unqualified]
      simp
    cases simple : type.simplified with
    | named name =>
        rw [simple] at needed notQualified
        cases needed with
        | importedName qualified => exact absurd qualified notQualified
        | usedName qualified => exact absurd qualified notQualified
    | primitive builtin =>
        have same := TypeRef.simplified_eq_primitive_iff.mp simple
        exact ⟨builtin, same, by rwa [simple, ← same] at needed⟩
  · rintro ⟨builtin, rfl, needed⟩
    exact needed

/-- Resolving a resolved tree collects what its primitive types need. -/
theorem mem_resolve_resolve_snd (target : Target) {node : Node} {reference : Reference} :
    reference ∈ (target.resolve (target.resolve node).1).2.toList ↔
      ∃ builtin, .primitive builtin ∈ node.types ∧
        target.Needs (.primitive builtin) reference := by
  rw [mem_resolve_snd, resolve_fst, Node.types_mapTypes]
  simp only [List.mem_map, exists_exists_and_eq_and, needs_simplified_iff]
  constructor
  · rintro ⟨type, member, builtin, rfl, needed⟩
    exact ⟨builtin, member, needed⟩
  · rintro ⟨builtin, member, needed⟩
    exact ⟨_, member, builtin, rfl, needed⟩

/-- A file is prepared already if its types are simple and what they need is among its
references, which are the listing of a set. -/
theorem prepare_file_eq_self (target : Target) {references : References}
    {body : ClassDecl} (simple : body.mapTypes TypeRef.simplified = body)
    (attached : ∀ type ∈ body.types, ∀ reference, target.Needs type reference →
      reference ∈ references.toList) :
    target.prepare (.file ⟨references.toList, body⟩) = .file ⟨references.toList, body⟩ := by
  have merged : (target.resolve (.file ⟨references.toList, body⟩)).2.insertAll
      references.toList = references := by
    apply References.eq_of_mem_iff
    intro reference
    rw [References.mem_insertAll, mem_resolve_snd]
    constructor
    · rintro (⟨type, member, needed⟩ | member)
      · exact attached type member reference needed
      · exact member
    · exact .inr
  rw [prepare_file, merged, simple]

/-- What the simplified types of a class need, the types of the class need. -/
theorem needs_of_mem_types_simplified {target : Target} {body : ClassDecl} {type : TypeRef}
    {reference : Reference} (member : type ∈ (body.mapTypes TypeRef.simplified).types)
    (needed : target.Needs type reference) :
    ∃ type ∈ body.types, target.Needs type reference := by
  rw [ClassDecl.types_mapTypes, List.mem_map] at member
  obtain ⟨original, member, rfl⟩ := member
  obtain ⟨_, _, needed⟩ := needs_simplified_iff.mp needed
  exact ⟨original, member, needed⟩

theorem classDecl_simplified_simplified (body : ClassDecl) :
    (body.mapTypes TypeRef.simplified).mapTypes TypeRef.simplified =
      body.mapTypes TypeRef.simplified :=
  Node.classDecl.inj (mapTypes_simplified_simplified (.classDecl body))

theorem prepare_prepare (target : Target) (node : Node) :
    target.prepare (target.prepare node) = target.prepare node := by
  cases becomes : node.becomesFile with
  | false =>
      have stays : (node.mapTypes TypeRef.simplified).becomesFile = false := by
        rw [Node.becomesFile_mapTypes, becomes]
      rw [prepare_of_not_becomesFile target becomes, prepare_of_not_becomesFile target stays,
        mapTypes_simplified_simplified]
  | true =>
      cases node with
      | classDecl body =>
          rw [prepare_classDecl]
          refine prepare_file_eq_self target (classDecl_simplified_simplified body) ?_
          intro type member reference needed
          rw [mem_resolve_snd]
          exact needs_of_mem_types_simplified member needed
      | file tree =>
          rw [prepare_file]
          refine prepare_file_eq_self target (classDecl_simplified_simplified tree.body) ?_
          intro type member reference needed
          rw [References.mem_insertAll, mem_resolve_snd]
          exact .inl (needs_of_mem_types_simplified member needed)
      | _ => cases becomes

theorem kind_of_needs_primitive {target : Target} {builtin : Primitive} {reference : Reference}
    (needed : target.Needs (.primitive builtin) reference) :
    reference.kind ≠ .useName ∧ reference.kind ≠ .importName := by
  cases needed <;> decide

/-- Preparing a prepared tree changes nothing, and neither does it change what is generated.
A second resolution keeps the tree and collects only what primitive types need, which the
first one collected too, and which is nothing for Java; and the first one keeps a tree
exactly if no type in it is qualified. -/
theorem prepare_idempotent (target : Target) (node : Node) :
    target.prepare (target.prepare node) = target.prepare node ∧
    (∀ indent, target.generate indent (target.prepare node) = target.generate indent node) ∧
    (target.resolve (target.resolve node).1).1 = (target.resolve node).1 ∧
    (∀ reference ∈ (target.resolve (target.resolve node).1).2.toList,
      reference.kind ≠ .useName ∧ reference.kind ≠ .importName ∧
        reference ∈ (target.resolve node).2.toList ∧
        ∃ builtin, .primitive builtin ∈ node.types ∧
          target.Needs (.primitive builtin) reference) ∧
    (target = java → (target.resolve (target.resolve node).1).2.toList = []) ∧
    ((target.resolve node).1 = node ↔ ∀ type ∈ node.types, type.splitQualified? = none) := by
  refine ⟨target.prepare_prepare node, fun indent => ?_, target.resolve_resolve_fst node, ?_, ?_,
    ?_⟩
  · simp only [generate, prepare_prepare]
  · intro reference member
    obtain ⟨builtin, occurs, needed⟩ := (target.mem_resolve_resolve_snd).mp member
    obtain ⟨notUsed, notImported⟩ := kind_of_needs_primitive needed
    exact ⟨notUsed, notImported, (target.mem_resolve_snd).mpr ⟨_, occurs, needed⟩, builtin,
      occurs, needed⟩
  · rintro rfl
    refine List.eq_nil_iff_forall_not_mem.mpr fun reference member => ?_
    obtain ⟨builtin, -, needed⟩ := (java.mem_resolve_resolve_snd).mp member
    cases needed
  · rw [resolve_fst, Node.mapTypes_eq_self_iff]
    simp only [TypeRef.simplified_eq_self_iff]

end Target

end Sourcewright
