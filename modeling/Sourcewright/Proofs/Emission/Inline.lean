import Sourcewright.Proofs.Emission.Obstacles

/-!
# Text on one line

Expressions, types and parameters are written on the current line, in pieces.  Writing
pieces one after the other is the same as writing all of them at once, so such a script has a
text of its own, whatever has been written before.

For expressions the text is given as a function of the tree.
-/

namespace Sourcewright.Emission

namespace Writer

@[simp]
theorem write_empty (writer : Writer) : writer.write "" = writer :=
  rfl

/-- The first of two texts takes the indentation, and the second one takes it only if the
first is empty. -/
theorem write_write (writer : Writer) (first second : String) :
    (writer.write first).write second = writer.write (first ++ second) := by
  by_cases firstEmpty : first = ""
  · rw [firstEmpty, write_empty, String.empty_append]
  · by_cases secondEmpty : second = ""
    · rw [secondEmpty, write_empty, String.append_empty]
    · simp [write, indentation, firstEmpty, secondEmpty, String.append_assoc]

theorem code_write_of_ne {writer : Writer} {text : String} (nonempty : text ≠ "") :
    (writer.write text).code = writer.code ++ writer.indentation ++ text := by
  simp [write, nonempty]

end Writer

namespace Script

/-- Unless there is an obstacle, following the script is writing the characters. -/
def Writes (script : Script) (chars : List Char) : Prop :=
  script.obstacle = none → ∀ writer : Writer,
    writer.run script.steps = writer.write (String.ofList chars)

theorem Writes.empty : Writes .empty [] :=
  fun _ _ => rfl

theorem Writes.text (written : String) : Writes (.text written) written.toList := by
  intro _ writer
  rw [String.ofList_toList]
  rfl

theorem Writes.stop (obstacle : Obstacle) (chars : List Char) : Writes (.stop obstacle) chars :=
  fun finished => nomatch finished

theorem Writes.append {first second : Script} {chars further : List Char}
    (writesFirst : Writes first chars) (writesSecond : Writes second further) :
    Writes (first ++ second) (chars ++ further) := by
  intro finished writer
  rw [obstacle_append, Option.or_eq_none_iff] at finished
  rw [append_of_no_obstacle finished.1, Writer.run_append, writesFirst finished.1,
    writesSecond finished.2, Writer.write_write, String.ofList_append]

theorem Writes.textOr (text? : Option String) (obstacle : Obstacle) :
    Writes (.textOr text? obstacle) (text?.getD "").toList := by
  cases text? with
  | none => exact .stop obstacle _
  | some found => exact .text found

end Script

/-- Texts between parentheses, separated by commas. -/
def parenthesizedChars : List (List Char) → List Char
  | [] => ['(', ')']
  | first :: rest => '(' :: first ++ rest.flatMap (fun part => ',' :: ' ' :: part) ++ [')']

theorem Script.Writes.eachAfter {α : Type} {script : α → Script} {chars : α → List Char}
    (mark : String) {parts : List α} (member : ∀ part ∈ parts, Writes (script part) (chars part)) :
    Writes (.eachAfter mark (parts.map script))
      (parts.flatMap fun part => mark.toList ++ chars part) := by
  induction parts with
  | nil => exact .empty
  | cons part parts ih =>
      obtain ⟨first, rest⟩ := List.forall_mem_cons.mp member
      exact ((Writes.text mark).append first).append (ih rest)

theorem Script.Writes.parenthesized {α : Type} {script : α → Script} {chars : α → List Char}
    {parts : List α} (member : ∀ part ∈ parts, Writes (script part) (chars part)) :
    Writes (.parenthesized (parts.map script)) (parenthesizedChars (parts.map chars)) := by
  cases parts with
  | nil => exact (Writes.text "(").append (.text ")")
  | cons part parts =>
      obtain ⟨first, rest⟩ := List.forall_mem_cons.mp member
      have written := (((Writes.text "(").append first).append (eachAfter ", " rest)).append
        (.text ")")
      simp only [List.map_cons, parenthesizedChars, List.flatMap_map]
      exact written

/-- The text of a type at a place where it is written. -/
def typeChars (target : Target) : TypeRef → List Char
  | .named name => (target.typeName name).toList
  | .primitive builtin => ((target.primitiveName? builtin).getD "").toList

theorem writes_typeRef (target : Target) (type : TypeRef) :
    (typeRef target type).Writes (typeChars target type) := by
  cases type with
  | named name => exact .text _
  | primitive builtin => exact .textOr _ _

def literalChars (target : Target) : Literal → List Char
  | .truth true => "true".toList
  | .truth false => "false".toList
  | .integer value => (target.integerText value).toList
  | .float value => (FloatStyle.literal.text value).toList
  | .text value => (textConstant value).toList
  | .null => target.nullText.toList

theorem writes_literal (target : Target) (value : Literal) :
    (literal target value).Writes (literalChars target value) := by
  cases value with
  | truth value => cases value <;> exact .text _
  | integer value => exact .text _
  | float value =>
      rw [literal]
      cases value.isFinite with
      | false => exact .stop _ _
      | true => exact .text _
  | text value => exact .text _
  | null => exact .text _

def operandChars (operation : Bool) (inner : List Char) : List Char :=
  if operation then '(' :: inner ++ [')'] else inner

mutual

def exprChars (target : Target) : Expr → List Char
  | .literal value => literalChars target value
  | .param named => named.name.toList
  | .binary operator left right =>
    operandChars (isOperation left) (exprChars target left) ++
      ' ' :: ((target.symbol? operator).getD "").toList ++ ' ' ::
      operandChars (isOperation right) (exprChars target right)
  | .assign assigned value => exprChars target assigned ++ " = ".toList ++ exprChars target value
  | .call receiver method arguments =>
    exprChars target receiver ++ '.' :: method.name.toList ++
      parenthesizedChars (exprsChars target arguments)
  | .staticCall method arguments =>
    typeChars target method.owner ++ target.staticMark.toList ++ method.name.toList ++
      parenthesizedChars (exprsChars target arguments)
  | .construct type arguments =>
    target.constructionMark.toList ++ typeChars target type ++
      parenthesizedChars (exprsChars target arguments)
  | .field _ name => target.selfMark.toList ++ name.toList

def exprsChars (target : Target) : List Expr → List (List Char)
  | [] => []
  | first :: rest => exprChars target first :: exprsChars target rest

end

theorem exprsChars_eq_map (target : Target) (values : List Expr) :
    exprsChars target values = values.map (exprChars target) := by
  induction values with
  | nil => rfl
  | cons value values ih => rw [exprsChars, ih, List.map_cons]

theorem writes_operand {inner : Script} {chars : List Char} (written : inner.Writes chars)
    (operation : Bool) : (operand operation inner).Writes (operandChars operation chars) := by
  cases operation with
  | false => exact written
  | true => exact ((Script.Writes.text "(").append written).append (.text ")")

theorem writes_arguments {target : Target} {values : List Expr}
    (member : ∀ value ∈ values, (expr target value).Writes (exprChars target value)) :
    (Script.parenthesized (exprs target values)).Writes
      (parenthesizedChars (exprsChars target values)) := by
  rw [exprs_eq_map, exprsChars_eq_map]
  exact .parenthesized member

theorem writes_expr (target : Target) (value : Expr) :
    (expr target value).Writes (exprChars target value) := by
  induction value using Expr.induction with
  | literal value => exact writes_literal target value
  | param named => exact .text _
  | binary operator left right leftIH rightIH =>
      rw [expr, exprChars]
      cases spelled : target.symbol? operator with
      | none => exact .stop _ _
      | some symbol =>
          have written := ((writes_operand leftIH (isOperation left)).append
            (.text (" " ++ symbol ++ " "))).append (writes_operand rightIH (isOperation right))
          simpa using written
  | assign assigned value assignedIH valueIH =>
      rw [expr, exprChars]
      exact (assignedIH.append (.text " = ")).append valueIH
  | call receiver method arguments receiverIH argumentsIH =>
      rw [expr, exprChars]
      have written := ((receiverIH.append (.text ".")).append (.text method.name)).append
        (writes_arguments argumentsIH)
      simpa using written
  | staticCall method arguments argumentsIH =>
      rw [expr, exprChars]
      exact (((writes_typeRef target method.owner).append (.text target.staticMark)).append
        (.text method.name)).append (writes_arguments argumentsIH)
  | construct type arguments argumentsIH =>
      rw [expr, exprChars]
      exact ((Script.Writes.text target.constructionMark).append
        (writes_typeRef target type)).append (writes_arguments argumentsIH)
  | field type name => exact (Script.Writes.text target.selfMark).append (.text name)

theorem writes_param (target : Target) (declared : Param) :
    (param target declared).Writes
      (typeChars target declared.type ++ [' '] ++ declared.name.toList) :=
  ((writes_typeRef target declared.type).append (.text " ")).append (.text declared.name)

theorem writes_params (target : Target) (declared : List Param) :
    (params target declared).Writes (parenthesizedChars (declared.map fun param =>
      typeChars target param.type ++ [' '] ++ param.name.toList)) :=
  .parenthesized fun param _ => writes_param target param

theorem writes_initialValue (target : Target) (value : Option Expr) :
    (initialValue target value).Writes
      (value.toList.flatMap fun value => " = ".toList ++ exprChars target value) := by
  cases value with
  | none => exact .empty
  | some value =>
      rw [Option.toList_some, List.flatMap_singleton]
      exact (Script.Writes.text " = ").append (writes_expr target value)

end Sourcewright.Emission
