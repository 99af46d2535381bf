import Sourcewright.Emission.Session
import Sourcewright.Proofs.Emission.Obstacles

/-!
# Balanced emissions

A writer never takes back what has been written, and the level at which it stands depends on
nothing but the steps it takes.  A script is balanced if it never ends below the level at which
it starts, and ends exactly there unless it meets an obstacle.  Every script for a piece is
balanced: blocks are opened and closed in pairs, and an obstacle inside of a pair can only leave
the level raised.

Main statement: whatever is written in a session, and whichever of its emissions meet obstacles,
text that has been written stays as it is, and the level is never below the one that the session
would have without the emissions that failed.
-/

namespace Sourcewright.Emission

/-! ## What steps do to the text and to the level -/

namespace Writer

/-- A writer goes on from another one if it has appended to what was written. -/
def Continues (writer after : Writer) : Prop :=
  ∃ added, after.code = writer.code ++ added

theorem Continues.refl (writer : Writer) : writer.Continues writer :=
  ⟨"", String.append_empty.symm⟩

theorem Continues.trans {first second third : Writer} (goesOn : first.Continues second)
    (further : second.Continues third) : first.Continues third := by
  obtain ⟨added, added_eq⟩ := goesOn
  obtain ⟨more, more_eq⟩ := further
  exact ⟨added ++ more, by rw [more_eq, added_eq, String.append_assoc]⟩

theorem continues_write (writer : Writer) (text : String) :
    writer.Continues (writer.write text) := by
  unfold write
  split
  · exact .refl writer
  · exact ⟨writer.indentation ++ text, String.append_assoc⟩

theorem continues_startLine (writer : Writer) (text : String) :
    writer.Continues (writer.startLine text) :=
  continues_write { writer with pending := true } text

theorem continues_endLine (writer : Writer) : writer.Continues writer.endLine :=
  ⟨"\n", rfl⟩

theorem continues_take (writer : Writer) (step : Step) : writer.Continues (writer.take step) := by
  cases step with
  | startLine text => exact continues_startLine writer text
  | write text => exact continues_write writer text
  | writeLine text => exact (continues_startLine writer text).trans (continues_endLine _)
  | endLine => exact continues_endLine writer
  | startBlock => exact .refl writer
  | endBlock => exact .refl writer

theorem continues_run (writer : Writer) (steps : List Step) :
    writer.Continues (writer.run steps) := by
  induction steps generalizing writer with
  | nil => exact .refl writer
  | cons step steps ih => exact (continues_take writer step).trans (ih (writer.take step))

end Writer

namespace Step

/-- The level behind a step, given the level before it. -/
def levelAfter (level : Nat) : Step → Nat
  | .startBlock => level + 1
  | .endBlock => level - 1
  | .startLine _ => level
  | .write _ => level
  | .writeLine _ => level
  | .endLine => level

def levelAfterAll (level : Nat) (steps : List Step) : Nat :=
  steps.foldl levelAfter level

theorem levelAfterAll_append (level : Nat) (first second : List Step) :
    levelAfterAll level (first ++ second) = levelAfterAll (levelAfterAll level first) second :=
  List.foldl_append

/-- A higher level stays at least as high, also where closing a block stops at zero. -/
theorem levelAfterAll_mono {lower higher : Nat} (below : lower ≤ higher) (steps : List Step) :
    levelAfterAll lower steps ≤ levelAfterAll higher steps := by
  induction steps generalizing lower higher with
  | nil => exact below
  | cons step steps ih =>
      have stepped : step.levelAfter lower ≤ step.levelAfter higher := by
        cases step <;> simp only [levelAfter] <;> omega
      exact ih stepped

end Step

namespace Writer

theorem level_write (writer : Writer) (text : String) :
    (writer.write text).level = writer.level := by
  unfold write
  split <;> rfl

theorem level_take (writer : Writer) (step : Step) :
    (writer.take step).level = step.levelAfter writer.level := by
  cases step with
  | startLine text => exact level_write _ text
  | write text => exact level_write writer text
  | writeLine text => exact level_write _ text
  | endLine => rfl
  | startBlock => rfl
  | endBlock => rfl

theorem level_run (writer : Writer) (steps : List Step) :
    (writer.run steps).level = Step.levelAfterAll writer.level steps := by
  induction steps generalizing writer with
  | nil => rfl
  | cons step steps ih =>
      have ran : writer.run (step :: steps) = (writer.take step).run steps := rfl
      rw [ran, ih, level_take]
      rfl

end Writer

/-! ## Balanced scripts -/

namespace Script

/-- A script never ends below the level at which it starts, and ends at that level unless there
is an obstacle. -/
structure Balanced (script : Script) : Prop where
  not_below : ∀ level, level ≤ Step.levelAfterAll level script.steps
  returns : script.obstacle = none → ∀ level, Step.levelAfterAll level script.steps = level

/-- A script without an obstacle is balanced if it comes back to its level. -/
theorem Balanced.of_returns {script : Script}
    (returns : ∀ level, Step.levelAfterAll level script.steps = level) : Balanced script :=
  ⟨fun level => (returns level).ge, fun _ => returns⟩

theorem Balanced.empty : Balanced .empty :=
  .of_returns fun _ => rfl

theorem Balanced.stop (obstacle : Obstacle) : Balanced (.stop obstacle) :=
  .of_returns fun _ => rfl

theorem Balanced.startLine (text : String) : Balanced (.step (.startLine text)) :=
  .of_returns fun _ => rfl

theorem Balanced.endLine : Balanced (.step .endLine) :=
  .of_returns fun _ => rfl

theorem Balanced.text (written : String) : Balanced (.text written) :=
  .of_returns fun _ => rfl

theorem Balanced.line (written : String) : Balanced (.line written) :=
  .of_returns fun _ => rfl

theorem Balanced.append {first second : Script} (balancedFirst : Balanced first)
    (balancedSecond : Balanced second) : Balanced (first ++ second) := by
  cases stopped : first.obstacle with
  | some obstacle =>
      rw [append_of_obstacle stopped]
      exact balancedFirst
  | none =>
      rw [append_of_no_obstacle stopped]
      constructor
      · intro level
        rw [Step.levelAfterAll_append, balancedFirst.returns stopped]
        exact balancedSecond.not_below level
      · intro finished level
        rw [Step.levelAfterAll_append, balancedFirst.returns stopped,
          balancedSecond.returns finished]

/-- An obstacle in an indented script leaves the level raised; without one the block is closed. -/
theorem Balanced.indented {inner : Script} (balanced : Balanced inner) :
    Balanced (.indented inner) := by
  -- Neither of the two steps around the script is balanced by itself, so they go together.
  cases stopped : inner.obstacle with
  | some obstacle =>
      have raised : (step .startBlock ++ inner).obstacle = some obstacle := stopped
      rw [Script.indented, append_of_obstacle raised]
      refine ⟨fun level => ?_, fun finished => ?_⟩
      · have inside := balanced.not_below (level + 1)
        exact (Nat.le_succ level).trans inside
      · rw [raised] at finished
        cases finished
  | none =>
      have finished : (step .startBlock ++ inner).obstacle = none := stopped
      rw [Script.indented, append_of_no_obstacle finished]
      refine .of_returns fun level => ?_
      have closed : Step.levelAfterAll level (.startBlock :: inner.steps ++ [.endBlock]) =
          Step.levelAfterAll (level + 1) inner.steps - 1 :=
        Step.levelAfterAll_append level (.startBlock :: inner.steps) [.endBlock]
      exact closed.trans (by rw [balanced.returns stopped, Nat.add_sub_cancel])

theorem Balanced.textOr (text? : Option String) (obstacle : Obstacle) :
    Balanced (.textOr text? obstacle) := by
  cases text? with
  | none => exact .stop obstacle
  | some found => exact .text found

theorem Balanced.sequence {scripts : List Script} (balanced : ∀ script ∈ scripts, Balanced script) :
    Balanced (.sequence scripts) := by
  induction scripts with
  | nil => exact .empty
  | cons script scripts ih =>
      obtain ⟨first, rest⟩ := List.forall_mem_cons.mp balanced
      exact first.append (ih rest)

theorem Balanced.eachAfter (mark : String) {scripts : List Script}
    (balanced : ∀ script ∈ scripts, Balanced script) : Balanced (.eachAfter mark scripts) := by
  induction scripts with
  | nil => exact .empty
  | cons script scripts ih =>
      obtain ⟨first, rest⟩ := List.forall_mem_cons.mp balanced
      exact ((Balanced.text mark).append first).append (ih rest)

theorem Balanced.parenthesized {scripts : List Script}
    (balanced : ∀ script ∈ scripts, Balanced script) : Balanced (.parenthesized scripts) := by
  cases scripts with
  | nil => exact (Balanced.text "(").append (.text ")")
  | cons script scripts =>
      obtain ⟨first, rest⟩ := List.forall_mem_cons.mp balanced
      exact (((Balanced.text "(").append first).append (.eachAfter ", " rest)).append (.text ")")

end Script

/-! ## Expressions -/

open Script

variable (target : Target)

theorem balanced_literal (value : Literal) : Balanced (literal target value) := by
  cases value with
  | truth value => cases value <;> exact .text _
  | float value =>
      rw [literal]
      split
      · exact .text _
      · exact .stop _
  | _ => exact .text _

theorem balanced_typeRef (type : TypeRef) : Balanced (typeRef target type) := by
  cases type with
  | named name => exact .text _
  | primitive builtin => exact .textOr _ _

theorem balanced_operand (operation : Bool) {inner : Script} (balanced : Balanced inner) :
    Balanced (operand operation inner) := by
  unfold operand
  split
  · exact ((Balanced.text "(").append balanced).append (.text ")")
  · exact balanced

theorem balanced_arguments {values : List Expr}
    (member : ∀ value ∈ values, Balanced (expr target value)) :
    Balanced (.parenthesized (exprs target values)) := by
  rw [exprs_eq_map]
  exact .parenthesized (List.forall_mem_map.mpr member)

theorem balanced_expr (value : Expr) : Balanced (expr target value) := by
  induction value using Expr.induction with
  | literal value => exact balanced_literal target value
  | param named => exact .text _
  | binary operator left right leftIH rightIH =>
      rw [expr]
      split
      · exact .stop _
      · exact ((balanced_operand _ leftIH).append (.text _)).append (balanced_operand _ rightIH)
  | assign assigned value assignedIH valueIH => exact (assignedIH.append (.text _)).append valueIH
  | call receiver method arguments receiverIH argumentsIH =>
      exact ((receiverIH.append (.text _)).append (.text _)).append
        (balanced_arguments target argumentsIH)
  | staticCall method arguments argumentsIH =>
      exact (((balanced_typeRef target method.owner).append (.text _)).append (.text _)).append
        (balanced_arguments target argumentsIH)
  | construct type arguments argumentsIH =>
      exact ((Balanced.text _).append (balanced_typeRef target type)).append
        (balanced_arguments target argumentsIH)
  | field type name => exact (Balanced.text _).append (.text _)

theorem balanced_param (declared : Param) : Balanced (param target declared) :=
  ((balanced_typeRef target declared.type).append (.text _)).append (.text _)

theorem balanced_params (declared : List Param) : Balanced (params target declared) :=
  .parenthesized (List.forall_mem_map.mpr fun single _ => balanced_param target single)

theorem balanced_initialValue (value : Option Expr) : Balanced (initialValue target value) := by
  cases value with
  | none => exact .empty
  | some value => exact (Balanced.text _).append (balanced_expr target value)

/-! ## Statements -/

theorem balanced_comment (text : String) : Balanced (comment text) :=
  .sequence (List.forall_mem_map.mpr fun line _ => .line line)

theorem balanced_terminated (managesTermination : Bool) {statement : Script}
    (balanced : Balanced statement) : Balanced (terminated managesTermination statement) := by
  unfold terminated
  split
  · exact balanced
  · exact (((Balanced.startLine "").append balanced).append (.text ";")).append .endLine

theorem balanced_stmts {statements : List Stmt}
    (member : ∀ statement ∈ statements, Balanced (stmt target statement)) :
    Balanced (stmts target statements) := by
  induction statements with
  | nil => exact .empty
  | cons statement statements ih =>
      obtain ⟨first, rest⟩ := List.forall_mem_cons.mp member
      exact (balanced_terminated _ first).append (ih rest)

theorem balanced_branches (first : Bool) {conditions blocks : List Script}
    (inConditions : ∀ condition ∈ conditions, Balanced condition)
    (inBlocks : ∀ block ∈ blocks, Balanced block) :
    Balanced (branches first conditions blocks) := by
  fun_induction branches first conditions blocks with
  | case1 first condition conditions block blocks ih =>
      obtain ⟨inCondition, inConditions⟩ := List.forall_mem_cons.mp inConditions
      obtain ⟨inBlock, inBlocks⟩ := List.forall_mem_cons.mp inBlocks
      exact (((((Balanced.startLine _).append inCondition).append (.text _)).append
        .endLine).append inBlock).append (ih inConditions inBlocks)
  | case2 first block =>
      exact (Balanced.line _).append (inBlocks block List.mem_cons_self)
  | case3 => exact .empty

theorem balanced_stmt (statement : Stmt) : Balanced (stmt target statement) := by
  induction statement using Stmt.induction with
  | expr value => exact balanced_expr target value
  | declare declared init =>
      exact (balanced_param target declared).append (balanced_initialValue target init)
  | conditional conditions blocks blocksIH =>
      rw [stmt, chain, exprs_eq_map, blockScripts_eq_map]
      split
      · refine (balanced_branches true ?_ ?_).append (.line _)
        · exact List.forall_mem_map.mpr fun condition _ => balanced_expr target condition
        · exact List.forall_mem_map.mpr fun block inside =>
            (balanced_stmts target (blocksIH block inside)).indented
      · exact .stop _
  | block statements statementsIH =>
      exact ((Balanced.line _).append (balanced_stmts target statementsIH).indented).append
        (.line _)
  | ret value =>
      cases value with
      | none => exact .text _
      | some value => exact (Balanced.text _).append (balanced_expr target value)
  | comment text => exact balanced_comment text

theorem balanced_block (statements : Block) : Balanced (block target statements) :=
  (balanced_stmts target fun statement _ => balanced_stmt target statement).indented

theorem balanced_bracketedBlock (statements : Block) :
    Balanced (bracketedBlock target statements) :=
  ((Balanced.line _).append (balanced_block target statements)).append (.line _)

theorem balanced_body (statements : Block) : Balanced (body target statements) :=
  (((Balanced.text _).append .endLine).append (balanced_block target statements)).append (.line _)

/-! ## Declarations -/

theorem Java.balanced_marks (modifiers : Modifiers) : Balanced (marks modifiers) :=
  ((Balanced.text _).append (.text _)).append (.text _)

/-- A field is written as its marks, its type, its name and its value, on one line. -/
theorem balanced_fieldLine {marks : Script} (balancedMarks : Balanced marks) (type : TypeRef)
    (name : String) (init : Option Expr) :
    Balanced (.step (.startLine "") ++ marks ++ typeRef target type ++ .text " " ++ .text name ++
      initialValue target init ++ .text ";" ++ .step .endLine) :=
  (((((((Balanced.startLine "").append balancedMarks).append (balanced_typeRef target type)).append
    (.text _)).append (.text _)).append (balanced_initialValue target init)).append
    (.text _)).append .endLine

theorem balanced_field (declaration : FieldDecl) : Balanced (field target declaration) := by
  cases target with
  | cpp => exact balanced_fieldLine .cpp (.text _) _ _ _
  | java => exact balanced_fieldLine .java (Java.balanced_marks _) _ _ _

theorem balanced_constructor (className : String) (declaration : ConstructorDecl) :
    Balanced (constructor target className declaration) := by
  cases target with
  | cpp =>
      exact ((Balanced.startLine _).append (balanced_params .cpp _)).append (balanced_body .cpp _)
  | java =>
      exact ((((Balanced.startLine _).append (.text _)).append (.text _)).append
        (balanced_params .java _)).append (balanced_body .java _)

/-- A method is written as its marks, its type, its name, its parameters and its body. -/
theorem balanced_methodLines {marks : Script} (balancedMarks : Balanced marks) (type : TypeRef)
    (name : String) (declared : List Param) (statements : Block) :
    Balanced (.step (.startLine "") ++ marks ++ typeRef target type ++ .text " " ++ .text name ++
      params target declared ++ body target statements) :=
  ((((((Balanced.startLine "").append balancedMarks).append (balanced_typeRef target type)).append
    (.text _)).append (.text _)).append (balanced_params target declared)).append
    (balanced_body target statements)

theorem balanced_method (declaration : MethodDecl) : Balanced (method target declaration) := by
  cases target with
  | cpp => exact balanced_methodLines .cpp (.text _) _ _ _ _
  | java => exact balanced_methodLines .java (Java.balanced_marks _) _ _ _ _

theorem balanced_lineIf (condition : Prop) [Decidable condition] (text : String) :
    Balanced (if condition then .line text else .empty) := by
  split
  · exact .line text
  · exact .empty

theorem Cpp.balanced_members (previous : Option MemberScript) {members : List MemberScript}
    (inside : ∀ member ∈ members, Balanced member.script) :
    Balanced (Cpp.members previous members) := by
  induction members generalizing previous with
  | nil => exact .empty
  | cons member members ih =>
      obtain ⟨first, rest⟩ := List.forall_mem_cons.mp inside
      have between : Balanced (boundary previous member) := by
        unfold boundary
        split
        · exact balanced_lineIf _ ""
        · exact (balanced_lineIf _ "").append (.line _)
      exact (between.append first.indented).append (ih (some member) rest)

theorem Java.balanced_members (previous : Option MemberScript) {members : List MemberScript}
    (inside : ∀ member ∈ members, Balanced member.script) :
    Balanced (Java.members previous members) := by
  induction members generalizing previous with
  | nil => exact .empty
  | cons member members ih =>
      obtain ⟨first, rest⟩ := List.forall_mem_cons.mp inside
      exact ((balanced_lineIf _ "").append first).append (ih (some member) rest)

theorem balanced_memberScripts (className : String) (fields : List FieldDecl)
    (constructors : List ConstructorDecl) (methods : List MethodDecl) {classes : List ClassDecl}
    {write : ClassDecl → Script}
    (inClasses : ∀ declaration ∈ classes, Balanced (write declaration)) :
    ∀ member ∈ memberScripts target className fields constructors methods
      (classes.map fun declaration => .ofModifiers declaration.modifiers (write declaration)),
      Balanced member.script := by
  simp only [memberScripts, List.mem_append, List.mem_map]
  rintro member (((⟨declaration, -, rfl⟩ | ⟨declaration, -, rfl⟩) | ⟨declaration, -, rfl⟩) |
    ⟨declaration, inside, rfl⟩)
  · exact balanced_field target declaration
  · exact balanced_constructor target className declaration
  · exact balanced_method target declaration
  · exact inClasses declaration inside

theorem Cpp.balanced_classDecl (declaration : ClassDecl) :
    Balanced (Cpp.classDecl declaration) := by
  induction declaration using ClassDecl.induction with
  | mk modifiers scope name fields constructors methods classes classesIH =>
      rw [Cpp.classDecl_eq, Cpp.nestedClasses_eq_map]
      exact ((Balanced.line _).append (Cpp.balanced_members none
        (balanced_memberScripts .cpp name fields constructors methods classesIH))).append (.line _)

theorem Java.balanced_classHeader (nested : Bool) (modifiers : Modifiers) (name : String) :
    Balanced (classHeader nested modifiers name) :=
  (((((((Balanced.startLine _).append (.text _)).append (.text _)).append (.text _)).append
    (.text _)).append (.text _)).append (.text _)).append .endLine

theorem Java.balanced_classDecl (nested : Bool) (declaration : ClassDecl) :
    Balanced (Java.classDecl nested declaration) := by
  induction declaration using ClassDecl.induction generalizing nested with
  | mk modifiers scope name fields constructors methods classes classesIH =>
      have inside := Java.balanced_members none
        (balanced_memberScripts .java name fields constructors methods
          fun declaration member => classesIH declaration member true)
      rw [Java.classDecl_eq, Java.nestedClasses_eq_map]
      exact ((Java.balanced_classHeader nested modifiers name).append inside.indented).append
        (.line _)

theorem balanced_classDecl (nested : Bool) (declaration : ClassDecl) :
    Balanced (classDecl target nested declaration) := by
  cases target with
  | cpp => exact Cpp.balanced_classDecl declaration
  | java => exact Java.balanced_classDecl nested declaration

theorem balanced_member (className : String) (declaration : ClassMember) :
    Balanced (member target className declaration) := by
  cases declaration with
  | field declaration => exact balanced_field target declaration
  | constructor declaration => exact balanced_constructor target className declaration
  | method declaration => exact balanced_method target declaration
  | nested declaration => exact balanced_classDecl target true declaration

theorem balanced_reference (written : Reference) : Balanced (reference target written) := by
  obtain ⟨kind, path⟩ := written
  cases target with
  | cpp =>
      cases kind with
      | importName => exact .stop _
      | _ => exact .line _
  | java =>
      cases kind with
      | importName => exact .line _
      | _ => exact .stop _

theorem balanced_references (written : List Reference) :
    Balanced (Script.sequence (written.map (reference target)) ++
      (if written.isEmpty then .empty else .line "")) := by
  have all : Balanced (Script.sequence (written.map (reference target))) :=
    .sequence (List.forall_mem_map.mpr fun listed _ => balanced_reference target listed)
  refine all.append ?_
  split
  · exact .empty
  · exact .line ""

theorem balanced_file (written : FileDecl) : Balanced (file target written) := by
  have declared := balanced_classDecl target false written.body
  have listed := balanced_references target written.references
  cases target with
  | cpp =>
      refine listed.append ?_
      unfold Cpp.inNamespace
      split
      · exact declared
      · exact ((((Balanced.line _).append (.line _)).append declared).append (.line _)).append
          (.line _)
  | java =>
      refine Balanced.append (.append ?_ listed) declared
      unfold Java.package
      split
      · exact .empty
      · exact (Balanced.line _).append (.line _)

theorem balanced_node (tree : Node) : Balanced (node target tree) := by
  cases tree with
  | expr tree =>
      exact ((Balanced.startLine "").append (balanced_expr target tree)).append .endLine
  | stmt tree => exact balanced_terminated _ (balanced_stmt target tree)
  | block tree => exact balanced_bracketedBlock target tree
  | field tree => exact balanced_field target tree
  | constructor tree => exact balanced_constructor target fragmentName tree
  | method tree => exact balanced_method target tree
  | classDecl tree => exact balanced_classDecl target false tree
  | file tree => exact balanced_file target tree

/-- Whatever is written by itself is written by a balanced script. -/
theorem balanced_piece (piece : Piece) : Balanced (piece.script target) := by
  cases piece with
  | node tree => exact balanced_node target tree
  | file written => exact balanced_file target written
  | reference written => exact balanced_reference target written
  | classDecl nested declaration => exact balanced_classDecl target nested declaration
  | member className declaration => exact balanced_member target className declaration
  | field declaration => exact balanced_field target declaration
  | constructor className declaration => exact balanced_constructor target className declaration
  | method declaration => exact balanced_method target declaration
  | body statements => exact balanced_body target statements
  | block statements => exact balanced_block target statements
  | bracketedBlock statements => exact balanced_bracketedBlock target statements
  | terminated statement => exact balanced_terminated _ (balanced_stmt target statement)
  | stmt statement => exact balanced_stmt target statement
  | conditional written => exact balanced_stmt target written.toStmt
  | comment text => exact balanced_comment text
  | params declared => exact balanced_params target declared
  | param declared => exact balanced_param target declared
  | arguments values =>
      exact balanced_arguments target fun value _ => balanced_expr target value
  | operand value => exact balanced_operand _ (balanced_expr target value)
  | expr value => exact balanced_expr target value
  | typeRef type => exact balanced_typeRef target type

/-! ## Sessions -/

namespace Writer

theorem continues_performAll (writer : Writer) (acts : List Act) :
    writer.Continues (writer.performAll target acts) := by
  induction acts generalizing writer with
  | nil => exact .refl writer
  | cons act acts ih =>
      exact (continues_run writer (act.script target).steps).trans
        (ih (writer.perform target act).1)

/-- Failed acts can only raise the level, and all others bring a higher level to a higher one. -/
theorem level_performAll_filter_le {without writer : Writer} (below : without.level ≤ writer.level)
    (acts : List Act) :
    (without.performAll target (acts.filter fun act => !act.fails target)).level ≤
      (writer.performAll target acts).level := by
  induction acts generalizing without writer with
  | nil => exact below
  | cons act acts ih =>
      rw [performAll_cons]
      have level (before : Writer) : (before.perform target act).1.level =
          Step.levelAfterAll before.level (act.script target).steps :=
        level_run before _
      cases failed : act.fails target with
      | false =>
          rw [List.filter_cons_of_pos (by simp [failed]), performAll_cons]
          refine ih ?_
          rw [level, level]
          exact Step.levelAfterAll_mono below _
      | true =>
          rw [List.filter_cons_of_neg (by simp [failed])]
          refine ih ?_
          rw [level]
          -- Only an emission can fail, and it does so at the level it starts at or above.
          cases act with
          | take step => cases failed
          | emit piece => exact below.trans ((balanced_piece target piece).not_below _)

end Writer

/-- Whatever is emitted on whatever writer, and whether or not there is an obstacle, text is only
appended and the level is not lowered; without an obstacle it is the same as before.  So along
every session the text that was written after any number of acts is kept, and at the end the
level is not below the one that the session without the failed emissions leads to. -/
theorem emission_appends_and_keeps_level (target : Target) (writer : Writer) (piece : Piece)
    (acts : List Act) :
    (∃ added, ((piece.script target).run writer).1.code = writer.code ++ added) ∧
    writer.level ≤ ((piece.script target).run writer).1.level ∧
    (((piece.script target).run writer).2 = none →
      ((piece.script target).run writer).1.level = writer.level) ∧
    (∀ count, ∃ added, (writer.performAll target acts).code =
      (writer.performAll target (acts.take count)).code ++ added) ∧
    (writer.performAll target (acts.filter fun act => !act.fails target)).level ≤
      (writer.performAll target acts).level := by
  have balanced := balanced_piece target piece
  have level : ((piece.script target).run writer).1.level =
      Step.levelAfterAll writer.level (piece.script target).steps :=
    writer.level_run _
  refine ⟨writer.continues_run _, ?_, ?_, ?_, ?_⟩
  · rw [level]
    exact balanced.not_below writer.level
  · intro finished
    rw [level]
    exact balanced.returns finished writer.level
  · intro count
    have kept := (writer.performAll target (acts.take count)).continues_performAll target
      (acts.drop count)
    rwa [← Writer.performAll_append, List.take_append_drop] at kept
  · exact Writer.level_performAll_filter_le target (Nat.le_refl writer.level) acts

end Sourcewright.Emission
