import Sourcewright.Proofs.Emission.Layout

/-!
# Branches of conditionals

A conditional keeps its conditions and its blocks in two lists.  If the lists match, it is a
chain of branches, each with a condition and a block, and possibly a last block without a
condition.

Main statement: a chain is written branch by branch, each header on a line of its own and
each block one level further in; a conditional that is no chain is refused before anything
is written.
-/

namespace Sourcewright

/-- A condition, and the block that is run if it holds. -/
structure Branch where
  condition : Expr
  block : Block

/-- Branches in the order in which they are tried, and the block that is run if none of
their conditions holds. -/
structure BranchChain where
  first : Branch
  further : List Branch
  otherwise : Option Block

/-- The conditional that tries the branches of a chain. -/
def BranchChain.toConditional (chain : BranchChain) : Conditional where
  conditions := chain.first.condition :: chain.further.map Branch.condition
  blocks := chain.first.block :: (chain.further.map Branch.block ++ chain.otherwise.toList)

/-- A conditional has a condition, a block for each condition, and at most one block
more. -/
def Conditional.Matched (branching : Conditional) : Prop :=
  1 ≤ branching.conditions.length ∧
    (branching.blocks.length = branching.conditions.length ∨
      branching.blocks.length = branching.conditions.length + 1)

theorem Conditional.wellFormed_iff_matched {branching : Conditional} :
    branching.wellFormed = true ↔ branching.Matched := by
  simp [wellFormed, Matched, Nat.one_le_iff_ne_zero]

theorem BranchChain.wellFormed_toConditional (chain : BranchChain) :
    chain.toConditional.wellFormed = true := by
  rw [Conditional.wellFormed_iff_matched]
  cases otherwise : chain.otherwise <;>
    simp [Conditional.Matched, toConditional, otherwise]

/-- Conditions and blocks that match can be paired, and leave at most one block. -/
theorem exists_branches {conditions : List Expr} {blocks : List Block}
    (lengths : blocks.length = conditions.length ∨ blocks.length = conditions.length + 1) :
    ∃ (branches : List Branch) (otherwise : Option Block),
      conditions = branches.map Branch.condition ∧
        blocks = branches.map Branch.block ++ otherwise.toList := by
  induction conditions generalizing blocks with
  | nil =>
      match blocks, lengths with
      | [], _ => exact ⟨[], none, rfl, rfl⟩
      | [last], _ => exact ⟨[], some last, rfl, rfl⟩
  | cons condition conditions ih =>
      cases blocks with
      | nil => simp at lengths
      | cons statements blocks =>
          obtain ⟨branches, otherwise, rfl, rfl⟩ := ih (by simpa using lengths)
          exact ⟨⟨condition, statements⟩ :: branches, otherwise, rfl, rfl⟩

theorem Conditional.Matched.exists_chain {branching : Conditional} (matched : branching.Matched) :
    ∃ chain : BranchChain, chain.toConditional = branching := by
  obtain ⟨conditions, blocks⟩ := branching
  obtain ⟨present, lengths⟩ := matched
  cases conditions with
  | nil => cases present
  | cons condition conditions =>
      cases blocks with
      | nil => simp at lengths
      | cons statements blocks =>
          have behind : blocks.length = conditions.length ∨
              blocks.length = conditions.length + 1 := by simpa using lengths
          obtain ⟨branches, otherwise, rfl, rfl⟩ := exists_branches behind
          exact ⟨⟨⟨condition, statements⟩, branches, otherwise⟩, rfl⟩

namespace Emission

open Script

variable (target : Target)

/-- A target supports every part of a conditional. -/
structure PartsSupported (branching : Conditional) : Prop where
  conditions : ∀ condition ∈ branching.conditions, ∀ construct ∈ condition.constructs,
    target.obstacle? construct = none
  blocks : ∀ statements ∈ branching.blocks, ∀ statement ∈ statements,
    ∀ construct ∈ statement.constructs, target.obstacle? construct = none

/-- The lines of a branch: a header with its condition, and its block one level further
in. -/
def branchLines (inside : Block → List Line) (opening : String) (branch : Branch) : List Line :=
  ⟨0, opening ++ String.ofList (exprChars target branch.condition) ++ ") \x7b"⟩ ::
    (inside branch.block).map Line.raise

/-- The lines of a chain, given those of the statements in its blocks. -/
def chainLines (inside : Block → List Line) (chain : BranchChain) : List Line :=
  branchLines target inside "if (" chain.first ++
    chain.further.flatMap (branchLines target inside "\x7d else if (") ++
    chain.otherwise.toList.flatMap (fun statements =>
      ⟨0, "\x7d else \x7b"⟩ :: (inside statements).map Line.raise) ++
    [⟨0, "\x7d"⟩]

variable {target} {inside : Block → List Line}

theorem laysOut_branch (opening : String) {branch : Branch}
    (laid : (stmts target branch.block).LaysOut (inside branch.block)) :
    LaysOut (.step (.startLine opening) ++ expr target branch.condition ++ .text ") \x7b" ++
        .step .endLine ++ block target branch.block)
      (branchLines target inside opening branch) := by
  have header := LaysOut.between opening
    ((writes_expr target branch.condition).append (.text ") \x7b"))
  rw [← append_assoc, String.ofList_append, String.ofList_toList, ← String.append_assoc]
    at header
  exact header.append laid.indented

/-- The branches behind the first one, and the block without a condition. -/
theorem laysOut_furtherBranches {further : List Branch} {otherwise : Option Block}
    (laid : ∀ statements ∈ further.map Branch.block ++ otherwise.toList,
      (stmts target statements).LaysOut (inside statements)) :
    LaysOut (branches false ((further.map Branch.condition).map (expr target))
        ((further.map Branch.block ++ otherwise.toList).map (block target)))
      (further.flatMap (branchLines target inside "\x7d else if (") ++
        otherwise.toList.flatMap fun statements =>
          ⟨0, "\x7d else \x7b"⟩ :: (inside statements).map Line.raise) := by
  induction further with
  | nil =>
      cases otherwise with
      | none => exact .empty
      | some statements =>
          have written := (LaysOut.line "\x7d else \x7b").append
            (laid statements List.mem_cons_self).indented
          rw [Option.toList_some, List.flatMap_nil, List.flatMap_singleton]
          exact written
  | cons branch further ih =>
      rw [List.map_cons, List.cons_append, List.forall_mem_cons] at laid
      rw [List.flatMap_cons, List.append_assoc]
      exact (laysOut_branch "\x7d else if (" laid.1).append (ih laid.2)

theorem laysOut_chain {chained : BranchChain}
    (laid : ∀ statements ∈ chained.toConditional.blocks,
      (stmts target statements).LaysOut (inside statements)) :
    (conditional target chained.toConditional).LaysOut (chainLines target inside chained) := by
  obtain ⟨first, further⟩ := List.forall_mem_cons.mp laid
  rw [conditional, Conditional.toStmt, stmt, chain, if_pos chained.wellFormed_toConditional,
    exprs_eq_map, blockScripts_eq_map, chainLines, List.append_assoc (branchLines _ _ _ _)]
  exact ((laysOut_branch "if (" first).append (laysOut_furtherBranches further)).append
    (.line "\x7d")

theorem obstacle_stmts_of_supported {statements : Block}
    (supported : ∀ statement ∈ statements, ∀ construct ∈ statement.constructs,
      target.obstacle? construct = none) :
    (stmts target statements).obstacle = none := by
  rw [obstacle_stmts target fun statement _ => obstacle_stmt target statement,
    Target.firstObstacle, List.findSome?_eq_none_iff]
  intro construct member
  obtain ⟨statement, inBlock, inStatement⟩ := List.mem_flatMap.mp member
  exact supported statement inBlock construct inStatement

theorem obstacle_expr_of_supported {value : Expr}
    (supported : ∀ construct ∈ value.constructs, target.obstacle? construct = none) :
    (expr target value).obstacle = none := by
  rw [obstacle_expr, Target.firstObstacle, List.findSome?_eq_none_iff]
  exact supported

theorem obstacle_conditional_of_supported {branching : Conditional}
    (formed : branching.wellFormed = true) (supported : PartsSupported target branching) :
    (conditional target branching).obstacle = none := by
  rw [conditional, obstacle_stmt, Target.firstObstacle, List.findSome?_eq_none_iff]
  intro construct member
  rcases List.mem_cons.mp member with rfl | inParts
  · exact if_pos formed
  · simp only [Construct.mem_inTurn, Stmt.blockConstructs_eq_map, List.mem_flatten,
      List.mem_map] at inParts
    rcases inParts with ⟨-, ⟨condition, listed, rfl⟩, inside⟩ |
      ⟨-, ⟨statements, listed, rfl⟩, inside⟩
    · exact supported.conditions condition listed construct inside
    · obtain ⟨statement, inBlock, inStatement⟩ := List.mem_flatMap.mp inside
      exact supported.blocks statements listed statement inBlock construct inStatement

theorem run_conditional_of_not_wellFormed {branching : Conditional}
    (unformed : branching.wellFormed = false) (writer : Writer) :
    (conditional target branching).run writer =
      (writer, some (.conditional branching.conditions.length branching.blocks.length
        (branching.outline.render outlineWidth))) := by
  rw [conditional, Conditional.toStmt, stmt, chain, if_neg (by simp [unformed])]
  rfl

/-- A conditional with matching parts that the target supports is written as its chain of
branches: every condition in the header that tries it, and every block once, one level
further in than the headers.  With any other number of blocks a conditional is refused, and
nothing of the writer has changed then. -/
theorem conditional_outcome (target : Target) (branching : Conditional) :
    (branching.Matched → PartsSupported target branching →
      ∃ (chained : BranchChain) (inside : Block → List Line),
        chained.toConditional = branching ∧
        (∀ condition ∈ branching.conditions, ∀ writer : Writer,
          (expr target condition).run writer =
            (writer.write (String.ofList (exprChars target condition)), none)) ∧
        (∀ statements ∈ branching.blocks, ∀ writer : Writer,
          (stmts target statements).run writer = (writer.afterLines (inside statements), none)) ∧
        ∀ writer : Writer, (conditional target branching).run writer =
          ({ writer with
              code := writer.code ++ Line.renderAll writer.indent writer.level
                (chainLines target inside chained)
              pending := false }, none)) ∧
    (¬branching.Matched → ∀ writer : Writer,
      (conditional target branching).run writer =
        (writer, some (.conditional branching.conditions.length branching.blocks.length
          (branching.outline.render outlineWidth)))) := by
  constructor
  · intro matched supported
    obtain ⟨chained, rfl⟩ := matched.exists_chain
    choose inside _ laid using fun statements : Block =>
      layered_stmts target fun statement (_ : statement ∈ statements) =>
        layered_stmt target statement
    refine ⟨chained, inside, rfl, fun condition member writer => ?_,
      fun statements member writer => ?_, fun writer => ?_⟩
    · have finished := obstacle_expr_of_supported (supported.conditions condition member)
      exact Prod.ext (writes_expr target condition finished writer) finished
    · have finished := obstacle_stmts_of_supported (supported.blocks statements member)
      exact Prod.ext (laid statements finished writer) finished
    · have finished := obstacle_conditional_of_supported chained.wellFormed_toConditional
        supported
      have inBlocks : ∀ statements ∈ chained.toConditional.blocks,
          (stmts target statements).LaysOut (inside statements) := fun statements _ =>
        laid statements
      exact (laysOut_chain inBlocks).run_eq finished (List.cons_ne_nil _ _) writer
  · intro unmatched writer
    apply run_conditional_of_not_wellFormed
    rwa [← Conditional.wellFormed_iff_matched, Bool.not_eq_true] at unmatched

/-- Two branches and a block without a condition. -/
def twoBranches : Conditional :=
  ⟨[.literal (.truth true), .literal .null], [[], [.ret none], []]⟩

theorem conditional_outcome_twoBranches :
    twoBranches.Matched ∧ PartsSupported .java twoBranches ∧
      (∃ chained : BranchChain, chained.toConditional = twoBranches) ∧
      ((conditional .java twoBranches).run { indent := 2, level := 1 }).1.code =
        "  if (true) \x7b\n  \x7d else if (null) \x7b\n    return;\n  \x7d else \x7b\n  \x7d\n" := by
  have matched : twoBranches.Matched := ⟨by decide, .inr rfl⟩
  have supported : PartsSupported .java twoBranches := ⟨by decide, by decide⟩
  obtain ⟨chained, -, isChain, -⟩ := (conditional_outcome .java twoBranches).1 matched supported
  exact ⟨matched, supported, ⟨chained, isChain⟩, by decide +kernel⟩

end Emission

end Sourcewright
