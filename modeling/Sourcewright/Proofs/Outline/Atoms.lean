import Sourcewright.Outline.Tree
import Sourcewright.Proofs.Tree.Induction

/-!
# Atoms of outlines

The atoms in the outline of a tree are what can not be broken: single words, parameters
with their types, and lists of modifiers.
-/

namespace Sourcewright

open Outline (Form)

/-- Every atom in a form is allowed. -/
inductive Outline.Form.MadeOf (allowed : List String → Prop) : Form → Prop
  | atom {pieces : List String} : allowed pieces → MadeOf allowed (.atom pieces)
  | form {head : String} {items : List Form} :
      (∀ item ∈ items, MadeOf allowed item) → MadeOf allowed (.form head items)

/-- What an outline shows without a place to break it. -/
inductive Unbreakable : List String → Prop
  /-- A name, a type, a constant or a comment.  Names can be any text. -/
  | word (text : String) : Unbreakable [text]
  | param (param : Param) : Unbreakable ["(", param.name, " ", param.type.outlineText, ")"]
  | modifiers (modifiers : Modifiers) :
      Unbreakable ("[" :: (modifiers.toList.map Modifier.name).intersperse " " ++ ["]"])

theorem madeOf_word (text : String) : (Form.word text).MadeOf Unbreakable :=
  .atom (.word text)

theorem Param.madeOf_listOutline (params : List Param) :
    (Param.listOutline params).MadeOf Unbreakable := by
  refine .form fun item member => ?_
  obtain ⟨param, -, rfl⟩ := List.mem_map.mp member
  exact .atom (.param param)

theorem Modifiers.madeOf_outline {modifiers : Modifiers} {item : Form}
    (member : item ∈ modifiers.outline) : item.MadeOf Unbreakable := by
  rw [outline] at member
  split at member
  · cases member
  · rw [List.mem_singleton.mp member]
    exact .atom (.modifiers modifiers)

namespace Expr

theorem outlines_eq_map (exprs : List Expr) : outlines exprs = exprs.map outline := by
  induction exprs with
  | nil => rfl
  | cons expr exprs ih => rw [outlines, ih, List.map_cons]

theorem madeOf_outline (expr : Expr) : expr.outline.MadeOf Unbreakable := by
  induction expr using Expr.induction with
  | literal value => exact madeOf_word value.outlineText
  | param named => exact madeOf_word named.name
  | binary operator left right leftIH rightIH => exact .form (by simp [leftIH, rightIH])
  | assign target value targetIH valueIH => exact .form (by simp [targetIH, valueIH])
  | call receiver method arguments receiverIH argumentsIH =>
      have receiverForm : (Form.form "." [receiver.outline, .word method.name]).MadeOf
          Unbreakable := .form (by simp [receiverIH, madeOf_word])
      rw [outline, outlines_eq_map]
      exact .form (by simpa [receiverForm] using argumentsIH)
  | staticCall method arguments argumentsIH =>
      have ownerForm : (Form.form "::" [.word method.owner.outlineText, .word method.name]).MadeOf
          Unbreakable := .form (by simp [madeOf_word])
      rw [outline, outlines_eq_map]
      exact .form (by simpa [ownerForm] using argumentsIH)
  | construct type arguments argumentsIH =>
      rw [outline, outlines_eq_map]
      exact .form (by simpa [madeOf_word] using argumentsIH)
  | field type name => exact .form (by simp [madeOf_word])

theorem madeOf_outlines {exprs : List Expr} {item : Form} (member : item ∈ outlines exprs) :
    item.MadeOf Unbreakable := by
  rw [outlines_eq_map] at member
  obtain ⟨expr, -, rfl⟩ := List.mem_map.mp member
  exact expr.madeOf_outline

theorem madeOf_optionalOutline {value : Option Expr} {item : Form}
    (member : item ∈ optionalOutline value) : item.MadeOf Unbreakable := by
  obtain ⟨expr, -, rfl⟩ := Option.map_eq_some_iff.mp (Option.mem_toList.mp member)
  exact expr.madeOf_outline

end Expr

namespace Stmt

theorem outlines_eq_map (statements : List Stmt) :
    outlines statements = statements.map outline := by
  induction statements with
  | nil => rfl
  | cons statement statements ih => rw [outlines, ih, List.map_cons]

theorem blockOutlines_eq_map (blocks : List (List Stmt)) :
    blockOutlines blocks = blocks.map Block.outline := by
  induction blocks with
  | nil => rfl
  | cons statements blocks ih => rw [blockOutlines, ih, List.map_cons, Block.outline]

theorem madeOf_blockOutline {statements : List Stmt}
    (each : ∀ statement ∈ statements, statement.outline.MadeOf Unbreakable) :
    (Block.outline statements).MadeOf Unbreakable := by
  rw [Block.outline, outlines_eq_map]
  exact .form (by simpa using each)

theorem madeOf_outline (statement : Stmt) : statement.outline.MadeOf Unbreakable := by
  induction statement using Stmt.induction with
  | expr value => exact value.madeOf_outline
  | declare param init =>
      refine .form (List.forall_mem_cons.mpr ⟨.atom (.param param), fun item => ?_⟩)
      exact Expr.madeOf_optionalOutline
  | conditional conditions blocks blocksIH =>
      have inConditions : (Form.form "conds" (Expr.outlines conditions)).MadeOf Unbreakable :=
        .form fun _ => Expr.madeOf_outlines
      have inBlocks : (Form.form "blocks" (blockOutlines blocks)).MadeOf Unbreakable := by
        rw [blockOutlines_eq_map]
        refine .form fun item member => ?_
        obtain ⟨statements, inside, rfl⟩ := List.mem_map.mp member
        exact madeOf_blockOutline (blocksIH statements inside)
      exact .form (by simp [inConditions, inBlocks])
  | block statements statementsIH => exact madeOf_blockOutline statementsIH
  | ret value => exact .form fun _ => Expr.madeOf_optionalOutline
  | comment text => exact .form (by simp [madeOf_word])

end Stmt

theorem Block.madeOf_outline (block : Block) : (Block.outline block).MadeOf Unbreakable :=
  Stmt.madeOf_blockOutline fun statement _ => statement.madeOf_outline

theorem FieldDecl.madeOf_outline (field : FieldDecl) : field.outline.MadeOf Unbreakable := by
  refine .form ?_
  rw [List.forall_mem_append, List.forall_mem_append]
  exact ⟨⟨fun _ => Modifiers.madeOf_outline, by simp [madeOf_word]⟩,
    fun _ => Expr.madeOf_optionalOutline⟩

theorem ConstructorDecl.madeOf_outline (constructor : ConstructorDecl) :
    constructor.outline.MadeOf Unbreakable := by
  refine .form (List.forall_mem_append.mpr ⟨fun _ => Modifiers.madeOf_outline, ?_⟩)
  simp [Param.madeOf_listOutline, Block.madeOf_outline]

theorem MethodDecl.madeOf_outline (method : MethodDecl) : method.outline.MadeOf Unbreakable := by
  refine .form (List.forall_mem_append.mpr ⟨fun _ => Modifiers.madeOf_outline, ?_⟩)
  simp [madeOf_word, Param.madeOf_listOutline, Block.madeOf_outline]

namespace ClassDecl

theorem outlines_eq_map (declarations : List ClassDecl) :
    outlines declarations = declarations.map outline := by
  induction declarations with
  | nil => rfl
  | cons declaration declarations ih => rw [outlines, ih, List.map_cons]

theorem madeOf_outline (declaration : ClassDecl) : declaration.outline.MadeOf Unbreakable := by
  induction declaration using ClassDecl.induction with
  | mk modifiers scope name fields constructors methods classes classesIH =>
      rw [outline, outlines_eq_map]
      refine .form (List.forall_mem_append.mpr ⟨fun _ => Modifiers.madeOf_outline, ?_⟩)
      refine List.forall_mem_cons.mpr ⟨madeOf_word _, ?_⟩
      simp only [List.forall_mem_append, List.forall_mem_map]
      exact ⟨⟨⟨fun field _ => field.madeOf_outline,
        fun constructor _ => constructor.madeOf_outline⟩,
        fun method _ => method.madeOf_outline⟩, classesIH⟩

end ClassDecl

theorem FileDecl.madeOf_outline (file : FileDecl) : file.outline.MadeOf Unbreakable := by
  have inReferences : (Form.form "references" (file.references.map Reference.outline)).MadeOf
      Unbreakable := by
    refine .form fun item member => ?_
    obtain ⟨reference, -, rfl⟩ := List.mem_map.mp member
    exact .form (by simp [madeOf_word])
  exact .form (by simp [inReferences, ClassDecl.madeOf_outline])

theorem Node.madeOf_outline (node : Node) : node.outline.MadeOf Unbreakable := by
  cases node with
  | expr tree => exact tree.madeOf_outline
  | stmt tree => exact tree.madeOf_outline
  | block tree => exact Block.madeOf_outline tree
  | field tree => exact tree.madeOf_outline
  | constructor tree => exact tree.madeOf_outline
  | method tree => exact tree.madeOf_outline
  | classDecl tree => exact tree.madeOf_outline
  | file tree => exact tree.madeOf_outline

end Sourcewright
