import Sourcewright.Emission.Literal

/-!
# Writing expressions

Expressions are written on the current line.  An operand that is itself an operation
is put between parentheses, so the structure of the tree does not hang on which
operators bind more tightly.
-/

namespace Sourcewright.Emission

def typeRef (target : Target) : TypeRef → Script
  | .named name => .text (target.typeName name)
  | .primitive builtin =>
    .textOr (target.primitiveName? builtin) (.primitive target builtin)

/-- Whether an expression is put between parentheses as an operand. -/
def isOperation : Expr → Bool
  | .binary _ _ _ => true
  | .assign _ _ => true
  | .literal _ => false
  | .param _ => false
  | .call _ _ _ => false
  | .staticCall _ _ => false
  | .construct _ _ => false
  | .field _ _ => false

/-- Write an operand, given the script for the expression itself. -/
def operand (operation : Bool) (inner : Script) : Script :=
  if operation then
    .text "(" ++ inner ++ .text ")"
  else
    inner

mutual

def expr (target : Target) : Expr → Script
  | .literal value => literal target value
  | .param named => .text named.name
  | .binary operator left right =>
    match target.symbol? operator with
    | none => .stop (.operator target operator)
    | some symbol =>
      operand (isOperation left) (expr target left) ++
        .text (" " ++ symbol ++ " ") ++
        operand (isOperation right) (expr target right)
  | .assign assigned value => expr target assigned ++ .text " = " ++ expr target value
  | .call receiver method arguments =>
    expr target receiver ++ .text "." ++ .text method.name ++
      .parenthesized (exprs target arguments)
  | .staticCall method arguments =>
    typeRef target method.owner ++ .text target.staticMark ++ .text method.name ++
      .parenthesized (exprs target arguments)
  | .construct type arguments =>
    .text target.constructionMark ++ typeRef target type ++
      .parenthesized (exprs target arguments)
  | .field _ name => .text target.selfMark ++ .text name

def exprs (target : Target) : List Expr → List Script
  | [] => []
  | first :: rest => expr target first :: exprs target rest

end

/-- Write arguments between parentheses. -/
def arguments (target : Target) (values : List Expr) : Script :=
  .parenthesized (exprs target values)

def param (target : Target) (declared : Param) : Script :=
  typeRef target declared.type ++ .text " " ++ .text declared.name

/-- Write parameters between parentheses. -/
def params (target : Target) (declared : List Param) : Script :=
  .parenthesized (declared.map (param target))

/-- Write the initial value of a declaration, if it has one. -/
def initialValue (target : Target) : Option Expr → Script
  | none => .empty
  | some value => .text " = " ++ expr target value

end Sourcewright.Emission
