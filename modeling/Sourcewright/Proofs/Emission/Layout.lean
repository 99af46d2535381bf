import Sourcewright.Proofs.Emission.Inline

/-!
# Layouts

What a tree is written as can be given without a writer: as lines, each at a level relative
to the level at which writing starts.  A writer only adds to this what it holds by itself,
namely how wide a level is and at which level it stands.

Main statement: for every tree there are such lines, or an obstacle, and every writer
whatsoever appends exactly these lines and comes back to its level, or meets that obstacle.
-/

namespace Sourcewright.Emission

/-- A line at a level relative to the level around it. -/
structure Line where
  level : Nat
  text : String
deriving DecidableEq

namespace Line

/-- A line as it is written from a level on, with the given number of spaces for each
level.  The spaces of a line are counted in 64 bits. -/
def render (indent base : Nat) (line : Line) : String :=
  (if line.text.isEmpty then "" else Writer.spaces (indent * (base + line.level) % UInt64.size)) ++
    line.text ++ "\n"

def renderAll (indent base : Nat) : List Line → String
  | [] => ""
  | line :: lines => line.render indent base ++ renderAll indent base lines

/-- The line one level further in. -/
def raise (line : Line) : Line :=
  { line with level := line.level + 1 }

/-- There are lines, and neither the first nor the last of them is blank. -/
def Framed (lines : List Line) : Prop :=
  (∃ first ∈ lines.head?, first.text ≠ "") ∧ ∃ last ∈ lines.getLast?, last.text ≠ ""

theorem Framed.ne_nil {lines : List Line} (framed : Framed lines) : lines ≠ [] := by
  rintro rfl
  obtain ⟨⟨first, member, -⟩, -⟩ := framed
  cases member

theorem Framed.enclose {opening inner closing : List Line} (opens : Framed opening)
    (closes : Framed closing) : Framed (opening ++ inner ++ closing) := by
  obtain ⟨⟨first, isFirst, shown⟩, -⟩ := opens
  obtain ⟨-, ⟨last, isLast, closed⟩⟩ := closes
  refine ⟨⟨first, ?_, shown⟩, ⟨last, ?_, closed⟩⟩
  · rw [List.append_assoc, List.head?_append, isFirst]
    rfl
  · rw [List.getLast?_append, isLast]
    rfl

theorem framed_singleton {line : Line} (shown : line.text ≠ "") : Framed [line] :=
  ⟨⟨line, rfl, shown⟩, ⟨line, rfl, shown⟩⟩

theorem renderAll_append (indent base : Nat) (first second : List Line) :
    renderAll indent base (first ++ second) =
      renderAll indent base first ++ renderAll indent base second := by
  induction first with
  | nil => rw [List.nil_append, renderAll, String.empty_append]
  | cons line lines ih => rw [List.cons_append, renderAll, ih, renderAll, String.append_assoc]

theorem renderAll_raise (indent base : Nat) (lines : List Line) :
    renderAll indent base (lines.map raise) = renderAll indent (base + 1) lines := by
  induction lines with
  | nil => rfl
  | cons line lines ih =>
      have level : base + (line.level + 1) = base + 1 + line.level := by omega
      rw [List.map_cons, renderAll, ih, renderAll, render, render, raise, level]

end Line

/-- The writer after lines were written.  Only writing no line leaves indentation due. -/
def Writer.afterLines (writer : Writer) (lines : List Line) : Writer :=
  { writer with
    code := writer.code ++ Line.renderAll writer.indent writer.level lines
    pending := writer.pending && lines.isEmpty }

namespace Writer

theorem afterLines_nil (writer : Writer) : writer.afterLines [] = writer := by
  simp [afterLines, Line.renderAll]

theorem afterLines_append (writer : Writer) (first second : List Line) :
    (writer.afterLines first).afterLines second = writer.afterLines (first ++ second) := by
  have none : (first.isEmpty && second.isEmpty) = (first ++ second).isEmpty := by
    cases first <;> rfl
  simp [afterLines, Line.renderAll_append, String.append_assoc, Bool.and_assoc, none]

theorem endLine_write (writer : Writer) (text : String) :
    ({ writer with pending := true }.write text).endLine = writer.afterLines [⟨0, text⟩] := by
  by_cases empty : text = ""
  · simp [empty, endLine, afterLines, Line.renderAll, Line.render]
  · simp [write, empty, endLine, afterLines, Line.renderAll, Line.render, indentation, width,
      String.append_assoc]

end Writer

namespace Script

/-- Unless there is an obstacle, following the script is writing the lines. -/
def LaysOut (script : Script) (lines : List Line) : Prop :=
  script.obstacle = none → ∀ writer : Writer,
    writer.run script.steps = writer.afterLines lines

theorem LaysOut.empty : LaysOut .empty [] :=
  fun _ writer => writer.afterLines_nil.symm

theorem LaysOut.line (text : String) : LaysOut (.line text) [⟨0, text⟩] :=
  fun _ writer => writer.endLine_write text

theorem LaysOut.append {first second : Script} {lines others : List Line}
    (laidFirst : LaysOut first lines) (laidSecond : LaysOut second others) :
    LaysOut (first ++ second) (lines ++ others) := by
  intro finished writer
  rw [obstacle_append, Option.or_eq_none_iff] at finished
  rw [append_of_no_obstacle finished.1, Writer.run_append, laidFirst finished.1,
    laidSecond finished.2, Writer.afterLines_append]

/-- What is written on a line between its start and its end is the text of the line. -/
theorem LaysOut.between {inner : Script} {chars : List Char} (start : String)
    (written : inner.Writes chars) :
    LaysOut (step (.startLine start) ++ inner ++ step .endLine)
      [⟨0, start ++ String.ofList chars⟩] := by
  intro finished writer
  have unstopped : inner.obstacle = none := by simpa using finished
  have starts : (step (.startLine start) ++ inner).obstacle = none := by simpa using finished
  have started : writer.run (step (.startLine start)).steps =
      { writer with pending := true }.write start := rfl
  rw [append_of_no_obstacle starts, append_of_no_obstacle (obstacle_step _), Writer.run_append,
    Writer.run_append, started, written unstopped, Writer.write_write]
  exact writer.endLine_write _

/-- The lines of an indented script are raised, and the level is back behind them. -/
theorem LaysOut.indented {inner : Script} {lines : List Line} (laid : LaysOut inner lines) :
    LaysOut (.indented inner) (lines.map Line.raise) := by
  intro finished writer
  have unstopped : inner.obstacle = none := by simpa using finished
  have starts : (step .startBlock ++ inner).obstacle = none := by simpa using finished
  have started : writer.run (step .startBlock).steps =
      { writer with level := writer.level + 1 } := rfl
  rw [Script.indented, append_of_no_obstacle starts, append_of_no_obstacle (obstacle_step _),
    Writer.run_append, Writer.run_append, started, laid unstopped]
  have ended (inside : Writer) : inside.run (step .endBlock).steps =
      { inside with level := inside.level - 1 } := rfl
  simp [ended, Writer.afterLines, Line.renderAll_raise]

/-- A script that is laid out in some line leaves no indentation due. -/
theorem LaysOut.run_eq {script : Script} {lines : List Line} (laid : LaysOut script lines)
    (finished : script.obstacle = none) (nonempty : lines ≠ []) (writer : Writer) :
    script.run writer =
      ({ writer with
          code := writer.code ++ Line.renderAll writer.indent writer.level lines
          pending := false }, none) := by
  have written := laid finished writer
  rw [Writer.afterLines, List.isEmpty_eq_false_iff.mpr nonempty, Bool.and_false] at written
  exact Prod.ext written finished

/-- A script is laid out in at least so many lines. -/
def Layered (least : Nat) (script : Script) : Prop :=
  ∃ lines, least ≤ lines.length ∧ LaysOut script lines

theorem Layered.weaken {least fewer : Nat} {script : Script} (layered : Layered least script)
    (less : fewer ≤ least) : Layered fewer script := by
  obtain ⟨lines, enough, laid⟩ := layered
  exact ⟨lines, less.trans enough, laid⟩

theorem Layered.empty : Layered 0 .empty :=
  ⟨[], Nat.le_refl 0, .empty⟩

theorem Layered.stop (least : Nat) (obstacle : Obstacle) : Layered least (.stop obstacle) := by
  refine ⟨List.replicate least ⟨0, ""⟩, ?_, fun finished => nomatch finished⟩
  rw [List.length_replicate]

theorem Layered.line (text : String) : Layered 1 (.line text) :=
  ⟨[⟨0, text⟩], Nat.le_refl 1, .line text⟩

theorem Layered.append {first second : Script} {least further : Nat}
    (layeredFirst : Layered least first) (layeredSecond : Layered further second) :
    Layered (least + further) (first ++ second) := by
  obtain ⟨lines, enough, laidFirst⟩ := layeredFirst
  obtain ⟨others, enoughOthers, laidSecond⟩ := layeredSecond
  refine ⟨lines ++ others, ?_, laidFirst.append laidSecond⟩
  rw [List.length_append]
  omega

theorem Layered.between {inner : Script} {chars : List Char} (start : String)
    (written : inner.Writes chars) :
    Layered 1 (step (.startLine start) ++ inner ++ step .endLine) :=
  ⟨[⟨0, start ++ String.ofList chars⟩], Nat.le_refl 1, .between start written⟩

theorem Layered.indented {inner : Script} {least : Nat} (layered : Layered least inner) :
    Layered least (.indented inner) := by
  obtain ⟨lines, enough, laid⟩ := layered
  exact ⟨lines.map Line.raise, by rwa [List.length_map], laid.indented⟩

/-- A script is laid out in lines of which the first and the last are not blank. -/
def Framed (script : Script) : Prop :=
  ∃ lines, Line.Framed lines ∧ LaysOut script lines

theorem Framed.layered {script : Script} (framed : Framed script) : Layered 1 script := by
  obtain ⟨lines, shown, laid⟩ := framed
  exact ⟨lines, List.length_pos_of_ne_nil shown.ne_nil, laid⟩

theorem Framed.line {text : String} (shown : text ≠ "") : Framed (.line text) :=
  ⟨[⟨0, text⟩], Line.framed_singleton shown, .line text⟩

theorem Framed.between {inner : Script} {chars : List Char} (start : String)
    (written : inner.Writes chars) (nonempty : chars ≠ []) :
    Framed (step (.startLine start) ++ inner ++ step .endLine) := by
  refine ⟨_, Line.framed_singleton ?_, .between start written⟩
  simp [nonempty]

theorem Framed.enclose {opening inner closing : Script} (opens : Framed opening)
    (layered : Layered 0 inner) (closes : Framed closing) :
    Framed (opening ++ inner ++ closing) := by
  obtain ⟨first, shown, laidFirst⟩ := opens
  obtain ⟨lines, -, laid⟩ := layered
  obtain ⟨last, closed, laidLast⟩ := closes
  exact ⟨first ++ lines ++ last, shown.enclose closed, (laidFirst.append laid).append laidLast⟩

theorem Layered.sequence {α : Type} {script : α → Script} {parts : List α}
    (member : ∀ part ∈ parts, Layered 1 (script part)) :
    Layered parts.length (.sequence (parts.map script)) := by
  induction parts with
  | nil => exact .empty
  | cons part parts ih =>
      obtain ⟨first, rest⟩ := List.forall_mem_cons.mp member
      exact (first.append (ih rest)).weaken (by rw [List.length_cons]; omega)

end Script

/-! ## Statements -/

open Script

theorem cutAtBreaks_ne_nil (text : List Char) : cutAtBreaks text ≠ [] := by
  fun_cases cutAtBreaks text with
  | case1 | case2 | case3 | case4 => exact List.cons_ne_nil _ _

theorem layered_comment (text : String) : Layered 1 (comment text) := by
  refine (Layered.sequence fun line _ => .line line).weaken ?_
  have nonempty := List.length_pos_of_ne_nil
    (cutAtBreaks_ne_nil (dropFinalBreak (joinBreaks text.toList)))
  rw [commentLines, List.length_map]
  exact nonempty

variable (target : Target)

/-- A statement that its block terminates is the text of a line. -/
theorem layered_terminated_of_writes {statement : Script} {chars : List Char}
    (written : statement.Writes chars) : Layered 1 (terminated false statement) := by
  have line := Layered.between "" (written.append (.text ";"))
  rw [terminated, if_neg Bool.false_ne_true, append_assoc (step _)]
  exact line

theorem layered_stmts {statements : List Stmt}
    (member : ∀ statement ∈ statements,
      Layered 1 (terminated statement.managesTermination (stmt target statement))) :
    Layered 0 (stmts target statements) := by
  induction statements with
  | nil => exact .empty
  | cons statement statements ih =>
      obtain ⟨first, rest⟩ := List.forall_mem_cons.mp member
      exact (first.append (ih rest)).weaken (Nat.zero_le _)

theorem layered_branches (first : Bool) (conditions : List Expr) {blocks : List Block}
    (inBlocks : ∀ statements ∈ blocks, Layered 0 (block target statements)) :
    Layered 0 (branches first (exprs target conditions) (blockScripts target blocks)) := by
  rw [exprs_eq_map, blockScripts_eq_map]
  induction conditions generalizing first blocks with
  | nil =>
      match blocks with
      | [] => exact .empty
      | [statements] =>
          have inBlock := inBlocks statements List.mem_cons_self
          exact ((Layered.line "\x7d else \x7b").append inBlock).weaken (Nat.zero_le _)
      | _ :: _ :: _ => exact .empty
  | cons condition conditions ih =>
      cases blocks with
      | nil => exact .empty
      | cons statements blocks =>
          obtain ⟨inFirst, inRest⟩ := List.forall_mem_cons.mp inBlocks
          have header := Layered.between (if first then "if (" else "\x7d else if (")
            ((writes_expr target condition).append (.text ") \x7b"))
          rw [← append_assoc] at header
          exact ((header.append inFirst).append (ih false inRest)).weaken (Nat.zero_le _)

theorem layered_stmt (statement : Stmt) :
    Layered 1 (terminated statement.managesTermination (stmt target statement)) := by
  induction statement using Stmt.induction with
  | expr value => exact layered_terminated_of_writes (writes_expr target value)
  | declare declared init =>
      exact layered_terminated_of_writes
        ((writes_param target declared).append (writes_initialValue target init))
  | conditional conditions blocks blocksIH =>
      have inBlocks : ∀ statements ∈ blocks, Layered 0 (block target statements) :=
        fun statements inside => (layered_stmts target (blocksIH statements inside)).indented
      have chained := (layered_branches target true conditions inBlocks).append (.line "\x7d")
      rw [Stmt.managesTermination, terminated, if_pos rfl, stmt, chain]
      split
      · exact chained.weaken (by decide)
      · exact .stop 1 _
  | block statements statementsIH =>
      have inside := (layered_stmts target statementsIH).indented
      exact (((Layered.line "\x7b").append inside).append (.line "\x7d")).weaken (by decide)
  | ret value =>
      cases value with
      | none => exact layered_terminated_of_writes (.text "return")
      | some value =>
          exact layered_terminated_of_writes
            ((Writes.text "return ").append (writes_expr target value))
  | comment text => exact layered_comment text

theorem layered_block (statements : Block) : Layered 0 (block target statements) :=
  (layered_stmts target fun statement _ => layered_stmt target statement).indented

/-- The header of a declaration and its opening bracket are on one line. -/
theorem framed_declaration {header : Script} {chars : List Char} (start : String)
    (written : header.Writes chars) (statements : Block) :
    Framed (step (.startLine start) ++ header ++ body target statements) := by
  have opened := Framed.between start (written.append (.text " \x7b")) (by simp)
  have closed : Framed (.line "\x7d") := .line (by decide)
  have all := opened.enclose (layered_block target statements) closed
  simp only [body, ← append_assoc] at all ⊢
  exact all

/-! ## Declarations -/

theorem writes_javaMarks (modifiers : Modifiers) :
    ∃ chars, (Java.marks modifiers).Writes chars :=
  ⟨_, ((Writes.text _).append (.text _)).append (.text _)⟩

theorem framed_field (declaration : FieldDecl) : Framed (field target declaration) := by
  have typed := writes_typeRef target declaration.type
  have rest := ((Writes.text " ").append (.text declaration.name)).append
    ((writes_initialValue target declaration.init).append (.text ";"))
  cases target with
  | cpp =>
      have line := Framed.between "" (((Writes.text (Cpp.fieldMarks declaration)).append
        typed).append rest) (by simp)
      simp only [← append_assoc] at line
      exact line
  | java =>
      obtain ⟨marks, writesMarks⟩ := writes_javaMarks declaration.modifiers
      have line := Framed.between "" ((writesMarks.append typed).append rest) (by simp)
      simp only [← append_assoc] at line
      exact line

theorem framed_constructor (className : String) (declaration : ConstructorDecl) :
    Framed (constructor target className declaration) := by
  have listed := writes_params target declaration.params
  cases target with
  | cpp => exact framed_declaration .cpp className listed declaration.body
  | java =>
      have all := framed_declaration .java ""
        (((Writes.text (Java.visibilityMark declaration.modifiers.visibility)).append
          (.text className)).append listed) declaration.body
      simp only [← append_assoc] at all
      exact all

theorem framed_method (declaration : MethodDecl) : Framed (method target declaration) := by
  have typed := writes_typeRef target declaration.returnType
  have rest := ((Writes.text " ").append (.text declaration.name)).append
    (writes_params target declaration.params)
  cases target with
  | cpp =>
      have all := framed_declaration .cpp ""
        (((Writes.text (if declaration.modifiers.isStatic then "static " else "")).append
          typed).append rest) declaration.body
      simp only [← append_assoc] at all
      exact all
  | java =>
      obtain ⟨marks, writesMarks⟩ := writes_javaMarks declaration.modifiers
      have all := framed_declaration .java "" ((writesMarks.append typed).append rest)
        declaration.body
      simp only [← append_assoc] at all
      exact all

theorem layered_lineIf (condition : Prop) [Decidable condition] (text : String) :
    Layered 0 (if condition then .line text else .empty) := by
  by_cases holds : condition
  · rw [if_pos holds]
    exact (Layered.line text).weaken (Nat.zero_le 1)
  · rw [if_neg holds]
    exact .empty

namespace Cpp

theorem layered_boundary (previous : Option MemberScript) (member : MemberScript) :
    Layered 0 (boundary previous member) := by
  by_cases same : previous.map MemberScript.visibility = some member.visibility
  · rw [boundary, if_pos same]
    exact layered_lineIf _ ""
  · rw [boundary, if_neg same]
    exact ((layered_lineIf _ "").append (.line (sectionLabel member.visibility))).weaken
      (Nat.zero_le _)

theorem layered_members (previous : Option MemberScript) {members : List MemberScript}
    (inside : ∀ member ∈ members, Layered 1 member.script) :
    Layered 0 (Cpp.members previous members) := by
  induction members generalizing previous with
  | nil => exact .empty
  | cons member members ih =>
      obtain ⟨first, rest⟩ := List.forall_mem_cons.mp inside
      have all := ((layered_boundary previous member).append first.indented).append
        (ih (some member) rest)
      exact all.weaken (Nat.zero_le _)

end Cpp

namespace Java

theorem layered_boundary (previous : Option MemberScript) (member : MemberScript) :
    Layered 0 (boundary previous member) :=
  layered_lineIf _ ""

theorem layered_members (previous : Option MemberScript) {members : List MemberScript}
    (inside : ∀ member ∈ members, Layered 1 member.script) :
    Layered 0 (Java.members previous members) := by
  induction members generalizing previous with
  | nil => exact .empty
  | cons member members ih =>
      obtain ⟨first, rest⟩ := List.forall_mem_cons.mp inside
      have all := ((layered_boundary previous member).append first).append
        (ih (some member) rest)
      exact all.weaken (Nat.zero_le _)

theorem exists_laysOut_classHeader (nested : Bool) (modifiers : Modifiers) (name : String) :
    ∃ text, text ≠ "" ∧ LaysOut (classHeader nested modifiers name) [⟨0, text⟩] := by
  have line := LaysOut.between ""
    ((((((Writes.text (classVisibilityMark nested modifiers.visibility)).append
      (.text (staticMark nested))).append (.text (finalMark modifiers.isFinal))).append
      (.text "class ")).append (.text name)).append (.text " \x7b"))
  simp only [← append_assoc] at line
  exact ⟨_, by simp, line⟩

end Java

theorem layered_memberScripts (className : String) (fields : List FieldDecl)
    (constructors : List ConstructorDecl) (methods : List MethodDecl) {classes : List ClassDecl}
    {write : ClassDecl → Script}
    (inClasses : ∀ declaration ∈ classes, Layered 1 (write declaration)) :
    ∀ member ∈ memberScripts target className fields constructors methods
      (classes.map fun declaration => .ofModifiers declaration.modifiers (write declaration)),
      Layered 1 member.script := by
  simp only [memberScripts, List.mem_append, List.mem_map]
  rintro member (((⟨declaration, -, rfl⟩ | ⟨declaration, -, rfl⟩) | ⟨declaration, -, rfl⟩) |
    ⟨declaration, inside, rfl⟩)
  · exact (framed_field target declaration).layered
  · exact (framed_constructor target className declaration).layered
  · exact (framed_method target declaration).layered
  · exact inClasses declaration inside

theorem Cpp.framed_classDecl (declaration : ClassDecl) :
    Framed (Cpp.classDecl declaration) := by
  induction declaration using ClassDecl.induction with
  | mk modifiers scope name fields constructors methods classes classesIH =>
      have inside := Cpp.layered_members none
        (layered_memberScripts .cpp name fields constructors methods fun declaration member =>
          (classesIH declaration member).layered)
      rw [Cpp.classDecl_eq, Cpp.nestedClasses_eq_map]
      refine (Framed.line ?_).enclose inside (.line (by decide))
      simp [Cpp.classHeader]

theorem Java.framed_classDecl (nested : Bool) (declaration : ClassDecl) :
    Framed (Java.classDecl nested declaration) := by
  induction declaration using ClassDecl.induction generalizing nested with
  | mk modifiers scope name fields constructors methods classes classesIH =>
      have inside := Java.layered_members none
        (layered_memberScripts .java name fields constructors methods
          fun declaration member => (classesIH declaration member true).layered)
      obtain ⟨text, shown, header⟩ := Java.exists_laysOut_classHeader nested modifiers name
      rw [Java.classDecl_eq, Java.nestedClasses_eq_map]
      exact Framed.enclose ⟨_, Line.framed_singleton shown, header⟩ inside.indented
        (.line (by decide))

theorem layered_references {reference : Reference → Script}
    (single : ∀ listed, Layered 1 (reference listed)) (written : List Reference) :
    Layered 0 (Script.sequence (written.map reference) ++
      (if written.isEmpty then .empty else .line "")) := by
  have all := Layered.sequence fun listed (_ : listed ∈ written) => single listed
  have blank : Layered 0 (if written.isEmpty then Script.empty else .line "") := by
    cases written with
    | nil => exact .empty
    | cons listed further => exact (Layered.line "").weaken (Nat.zero_le 1)
  exact (all.append blank).weaken (Nat.zero_le _)

theorem Cpp.layered_file (written : FileDecl) : Layered 1 (Cpp.file written) := by
  have single (listed : Reference) : Layered 1 (Cpp.reference listed) := by
    obtain ⟨kind, path⟩ := listed
    cases kind with
    | importName => exact .stop 1 _
    | _ => exact .line _
  have body := (Cpp.framed_classDecl written.body).layered
  have inNamespace : Layered 1
      (Cpp.inNamespace written.body.scope (Cpp.classDecl written.body)) := by
    unfold Cpp.inNamespace
    split
    · exact body
    · exact (((((Layered.line _).append (.line _)).append body).append (.line _)).append
        (.line _)).weaken (by decide)
  exact ((layered_references single written.references).append inNamespace).weaken (by decide)

theorem Java.layered_file (written : FileDecl) : Layered 1 (Java.file written) := by
  have single (listed : Reference) : Layered 1 (Java.reference listed) := by
    obtain ⟨kind, path⟩ := listed
    cases kind with
    | importName => exact .line _
    | _ => exact .stop 1 _
  have package : Layered 0 (Java.package written.body.scope) := by
    unfold Java.package
    split
    · exact .empty
    · exact ((Layered.line _).append (.line _)).weaken (by decide)
  exact ((package.append (layered_references single written.references)).append
    (Java.framed_classDecl false written.body).layered).weaken (by decide)

theorem layered_node (tree : Node) : Layered 1 (node target tree) := by
  cases tree with
  | expr tree => exact Layered.between "" (writes_expr target tree)
  | stmt tree => exact layered_stmt target tree
  | block tree =>
      exact (((Layered.line _).append (layered_block target tree)).append (.line _)).weaken
        (by decide)
  | field tree => exact (framed_field target tree).layered
  | constructor tree => exact (framed_constructor target fragmentName tree).layered
  | method tree => exact (framed_method target tree).layered
  | classDecl tree =>
      cases target with
      | cpp => exact (Cpp.framed_classDecl tree).layered
      | java => exact (Java.framed_classDecl false tree).layered
  | file tree =>
      cases target with
      | cpp => exact Cpp.layered_file tree
      | java => exact Java.layered_file tree

/-! ## Every writer -/

namespace Line

/-- Lines one after the other, with as many spaces as their levels ask for, even if these are
too many to be counted in 64 bits. -/
def unboundedText (indent base : Nat) (lines : List Line) : String :=
  String.join (lines.map fun line =>
    (if line.text.isEmpty then "" else Writer.spaces (indent * (base + line.level))) ++
      line.text ++ "\n")

theorem renderAll_eq_unboundedText {indent base : Nat} {lines : List Line}
    (fits : ∀ line ∈ lines, line.text ≠ "" → indent * (base + line.level) < UInt64.size) :
    renderAll indent base lines = unboundedText indent base lines := by
  induction lines with
  | nil => rfl
  | cons line lines ih =>
      obtain ⟨fitsFirst, fitsRest⟩ := List.forall_mem_cons.mp fits
      rw [renderAll, ih fitsRest, unboundedText, unboundedText, List.map_cons, String.join_cons]
      congr 1
      rw [render]
      by_cases empty : line.text = ""
      · rw [if_pos (String.isEmpty_iff.mpr empty), if_pos (String.isEmpty_iff.mpr empty)]
      · rw [Nat.mod_eq_of_lt (fitsFirst empty)]

theorem le_length_unboundedText (indent base : Nat) {lines : List Line} {line : Line}
    (member : line ∈ lines) (shown : line.text ≠ "") :
    indent * (base + line.level) ≤ (unboundedText indent base lines).length := by
  obtain ⟨before, after, rfl⟩ := List.append_of_mem member
  have spaced : line.text.isEmpty = false := by simpa using shown
  simp only [unboundedText, List.map_append, List.map_cons, String.join_append, String.join_cons,
    spaced, Bool.false_eq_true, if_false, String.length_append, Writer.length_spaces]
  omega

theorem exists_shown_of_mem {indent base : Nat} {lines : List Line} {char : Char}
    (member : char ∈ (unboundedText indent base lines).toList) (proper : char ≠ '\n') :
    ∃ line ∈ lines, line.text ≠ "" := by
  rw [unboundedText, String.toList_join, List.flatMap_map, List.mem_flatMap] at member
  obtain ⟨line, inside, inLine⟩ := member
  refine ⟨line, inside, fun empty => proper ?_⟩
  simpa [empty] using inLine

end Line

end Sourcewright.Emission
