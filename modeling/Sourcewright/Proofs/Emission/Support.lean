import Sourcewright.Proofs.Emission.Obstacles

/-!
# Which trees can be written

A tree can be written exactly if the target supports each of its constructs, and if it
cannot, the obstacle is the first construct that is not supported.

A tree is prepared before it is written.  This replaces its types by simple names, which no
target lacks, and attaches references, which the target has a form for.  So neither makes an
obstacle or removes one.
-/

namespace Sourcewright

namespace Target

variable (target : Target)

theorem rendersKind_of_needs {target : Target} {type : TypeRef} {reference : Reference}
    (needed : target.Needs type reference) : target.rendersKind reference.kind = true := by
  cases needed <;> rfl

/-- Simplifying types neither makes obstacles nor removes any. -/
theorem obstacle?_simplified_eq_none_iff (construct : Construct) :
    target.obstacle? (construct.mapTypes TypeRef.simplified) = none ↔
      target.obstacle? construct = none := by
  cases construct with
  | type written =>
      cases written with
      | primitive builtin => rfl
      | named name =>
          simp only [Construct.mapTypes, TypeRef.simplified]
          split <;> exact Iff.rfl
  | conditional branching =>
      simp [Construct.mapTypes, obstacle?, Conditional.wellFormed, Conditional.mapTypes]
  | operator applied => rfl
  | float value => rfl
  | reference listed => rfl

/-- References that the target has a form for are no obstacles, so they can be left out. -/
theorem firstObstacle_references {all some : References}
    (included : ∀ reference ∈ some.toList, reference ∈ all.toList)
    (rendered : ∀ reference ∈ all.toList,
      reference ∈ some.toList ∨ target.rendersKind reference.kind = true) :
    target.firstObstacle (all.toList.map .reference) =
      target.firstObstacle (some.toList.map .reference) := by
  -- Without the references that the target has a form for, the two listings are the same.
  have unrendered : all.toList.filter (fun reference => !target.rendersKind reference.kind) =
      some.toList.filter fun reference => !target.rendersKind reference.kind := by
    refine (all.ordered.filter _).eq_of_mem_iff (some.ordered.filter _) fun reference => ?_
    simp only [List.mem_filter, Bool.not_eq_true']
    constructor
    · rintro ⟨member, notRendered⟩
      refine ⟨(rendered reference member).resolve_right ?_, notRendered⟩
      simp [notRendered]
    · rintro ⟨member, notRendered⟩
      exact ⟨included reference member, notRendered⟩
  have onlyUnrendered (listed : List Reference) :
      target.firstObstacle (listed.map .reference) = target.firstObstacle
        ((listed.filter fun reference => !target.rendersKind reference.kind).map .reference) := by
    induction listed with
    | nil => rfl
    | cons first rest ih =>
        cases renders : target.rendersKind first.kind <;> simp [obstacle?, renders, ih]
  rw [onlyUnrendered, unrendered, ← onlyUnrendered]

/-- A prepared file meets the obstacles of the references that were attached before. -/
theorem obstacle_prepared_file {references : References} (attached : List Reference)
    (types : List TypeRef)
    (members : ∀ reference, reference ∈ references.toList ↔
      reference ∈ attached ∨ ∃ type ∈ types, target.Needs type reference)
    (body : ClassDecl) :
    (Emission.file target ⟨references.toList, body⟩).obstacle =
      target.firstObstacle (Reference.listConstructs attached ++ body.constructs) := by
  have leftOut : target.firstObstacle (references.toList.map .reference) =
      target.firstObstacle (Reference.listConstructs attached) := by
    apply firstObstacle_references
    · intro reference member
      rw [References.mem_insertAll] at member
      exact (members reference).mpr (.inl (member.resolve_left (nomatch ·)))
    · intro reference member
      rcases (members reference).mp member with listed | ⟨type, -, needed⟩
      · exact .inl (References.mem_insertAll.mpr (.inr listed))
      · exact .inr (rendersKind_of_needs needed)
  rw [Emission.obstacle_file, firstObstacle_append, firstObstacle_append, leftOut]

/-- A prepared tree meets the obstacles of the constructs of the tree, with their types
simplified. -/
theorem obstacle_prepare (node : Node) :
    (Emission.node target (target.prepare node)).obstacle =
      target.firstObstacle (node.constructs.map (Construct.mapTypes TypeRef.simplified)) := by
  rw [← Node.constructs_mapTypes]
  cases becomes : node.becomesFile with
  | false =>
      have stays : (node.mapTypes TypeRef.simplified).becomesFile = false := by
        rw [Node.becomesFile_mapTypes, becomes]
      rw [prepare_of_not_becomesFile target becomes, Emission.obstacle_node target stays]
  | true =>
      cases node with
      | classDecl tree =>
          -- What the types need is listed in the file, but never stops the script.
          rw [prepare_classDecl]
          apply obstacle_prepared_file target [] tree.types
          intro reference
          rw [mem_resolve_snd]
          simp [Node.types]
      | file tree =>
          rw [prepare_file]
          apply obstacle_prepared_file target tree.references tree.body.types
          intro reference
          rw [References.mem_insertAll, mem_resolve_snd, or_comm]
          rfl
      | _ => cases becomes

/-- The outcome of generating a tree is decided by the first obstacle among its
constructs. -/
theorem generate_eq_error_iff {indent : Nat} {node : Node} {obstacle : Emission.Obstacle} :
    target.generate indent node = .error obstacle ↔
      target.firstObstacle (node.constructs.map (Construct.mapTypes TypeRef.simplified)) =
        some obstacle := by
  rw [← obstacle_prepare, generate, Emission.Script.run]
  cases (Emission.node target (target.prepare node)).obstacle <;> simp

theorem exists_generate_eq_ok_iff {indent : Nat} {node : Node} :
    (∃ file, target.generate indent node = .ok file) ↔
      ∀ construct ∈ node.constructs, target.obstacle? construct = none := by
  have simplified : (∃ file, target.generate indent node = .ok file) ↔
      target.firstObstacle (node.constructs.map (Construct.mapTypes TypeRef.simplified)) =
        none := by
    rw [← obstacle_prepare, generate, Emission.Script.run]
    cases (Emission.node target (target.prepare node)).obstacle <;> simp
  rw [simplified, firstObstacle, List.findSome?_eq_none_iff]
  simp [obstacle?_simplified_eq_none_iff]

end Target

/-- The references among the constructs of a tree are those attached to it. -/
theorem Node.reference_mem_constructs_iff {node : Node} {listed : Reference} :
    .reference listed ∈ node.constructs ↔ listed ∈ node.references := by
  cases node with
  | expr tree => simp [constructs, references, tree.reference_notMem_constructs]
  | stmt tree => simp [constructs, references, tree.reference_notMem_constructs]
  | block tree => simp [constructs, references, Stmt.reference_notMem_constructs]
  | field tree => simp [constructs, references, tree.reference_notMem_constructs]
  | constructor tree => simp [constructs, references, tree.reference_notMem_constructs]
  | method tree => simp [constructs, references, tree.reference_notMem_constructs]
  | classDecl tree => simp [constructs, references, tree.reference_notMem_constructs]
  | file tree =>
      simp [constructs, references, tree.body.reference_notMem_constructs,
        Reference.listConstructs, References.mem_insertAll]

/-- A target supports what is written of a tree, and every reference attached to it. -/
structure Node.SupportedBy (node : Node) (target : Target) : Prop where
  primitives : ∀ builtin, .type (.primitive builtin) ∈ node.constructs →
    (target.primitiveName? builtin).isSome
  operators : ∀ applied, .operator applied ∈ node.constructs → (target.symbol? applied).isSome
  floats : ∀ value, .float value ∈ node.constructs → value.isFinite
  conditionals : ∀ branching, .conditional branching ∈ node.constructs → branching.wellFormed
  references : ∀ listed ∈ node.references, target.rendersKind listed.kind

theorem Node.supportedBy_iff {node : Node} {target : Target} :
    node.SupportedBy target ↔
      ∀ construct ∈ node.constructs, target.obstacle? construct = none := by
  constructor
  · intro supported construct member
    cases construct with
    | type written =>
        cases written with
        | named name => rfl
        | primitive builtin =>
            exact if_pos (supported.primitives builtin member)
    | operator applied => exact if_pos (supported.operators applied member)
    | float value => exact if_pos (supported.floats value member)
    | conditional branching => exact if_pos (supported.conditionals branching member)
    | reference listed =>
        exact if_pos (supported.references listed (reference_mem_constructs_iff.mp member))
  · intro supported
    constructor
    · intro builtin member
      simpa [Target.obstacle?, Option.isSome_iff_ne_none] using supported _ member
    · intro applied member
      simpa [Target.obstacle?, Option.isSome_iff_ne_none] using supported _ member
    · intro value member
      simpa [Target.obstacle?] using supported _ member
    · intro branching member
      simpa [Target.obstacle?] using supported _ member
    · intro listed member
      simpa [Target.obstacle?] using supported _ (reference_mem_constructs_iff.mpr member)

/-- A tree is generated exactly if the target supports it.  Otherwise the obstacle is the
first construct that the target does not support, in the order in which the tree is
written, and with its types simplified. -/
theorem Target.generate_outcome (target : Target) (indent : Nat) (node : Node) :
    ((∃ file, target.generate indent node = .ok file) ↔ node.SupportedBy target) ∧
    ∀ obstacle, target.generate indent node = .error obstacle ↔
      ∃ before construct after, node.constructs = before ++ construct :: after ∧
        (∀ earlier ∈ before, target.obstacle? earlier = none) ∧
        target.obstacle? (construct.mapTypes TypeRef.simplified) = some obstacle := by
  refine ⟨?_, fun obstacle => ?_⟩
  · rw [exists_generate_eq_ok_iff, Node.supportedBy_iff]
  · rw [generate_eq_error_iff, firstObstacle, List.findSome?_map, List.findSome?_eq_some_iff]
    simp only [Function.comp_apply, obstacle?_simplified_eq_none_iff]
    constructor
    · rintro ⟨before, construct, after, split, stopped, unstopped⟩
      exact ⟨before, construct, after, split, unstopped, stopped⟩
    · rintro ⟨before, construct, after, split, unstopped, stopped⟩
      exact ⟨before, construct, after, split, stopped, unstopped⟩

end Sourcewright
