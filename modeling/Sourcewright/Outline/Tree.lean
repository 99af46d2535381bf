import Sourcewright.Number.Text
import Sourcewright.Outline.Form
import Sourcewright.Text.Quoted
import Sourcewright.Tree.Basic

/-!
# Outlines of trees

The form that shows a tree.  Types that have no place in source text are not shown
either: a parameter and a field are shown by their names.
-/

namespace Sourcewright

open Outline (Form)

def TypeRef.outlineText : TypeRef → String
  | .named name => name
  | .primitive builtin => "%" ++ builtin.name

def Literal.outlineText : Literal → String
  | .truth true => "true"
  | .truth false => "false"
  | .integer value => wholeText value.toInt
  | .float value => FloatStyle.literal.text value
  | .text value => Text.quoted value
  | .null => "null"

/-- The atom of a parameter: its name and type between parentheses. -/
def Param.outline (param : Param) : Form :=
  .atom ["(", param.name, " ", param.type.outlineText, ")"]

/-- The atom of a set of modifiers, if there are any. -/
def Modifiers.outline (modifiers : Modifiers) : List Form :=
  if modifiers.isEmpty then
    []
  else
    [.atom ("[" :: (modifiers.toList.map Modifier.name).intersperse " " ++ ["]"])]

namespace Expr

mutual

def outline : Expr → Form
  | .literal value => .word value.outlineText
  | .param named => .word named.name
  | .binary operator left right => .form operator.name [outline left, outline right]
  | .assign target value => .form "assign" [outline target, outline value]
  | .call receiver method arguments =>
    .form "call" (.form "." [outline receiver, .word method.name] :: outlines arguments)
  | .staticCall method arguments =>
    .form "call"
      (.form "::" [.word method.owner.outlineText, .word method.name] :: outlines arguments)
  | .construct type arguments =>
    .form "new" (.word type.outlineText :: outlines arguments)
  | .field _ name => .form "field-ref" [.word name]

def outlines : List Expr → List Form
  | [] => []
  | expr :: exprs => outline expr :: outlines exprs

end

def optionalOutline (value : Option Expr) : List Form :=
  (value.map outline).toList

end Expr

namespace Stmt

mutual

def outline : Stmt → Form
  | .expr value => value.outline
  | .declare param init => .form "let" (param.outline :: Expr.optionalOutline init)
  | .conditional conditions blocks =>
    .form "if" [
      .form "conds" (Expr.outlines conditions),
      .form "blocks" (blockOutlines blocks)]
  | .block statements => .form "block" (outlines statements)
  | .ret value => .form "return" (Expr.optionalOutline value)
  | .comment text => .form "comment" [.word (Text.quoted text)]

def outlines : List Stmt → List Form
  | [] => []
  | statement :: statements => outline statement :: outlines statements

def blockOutlines : List (List Stmt) → List Form
  | [] => []
  | statements :: blocks => .form "block" (outlines statements) :: blockOutlines blocks

end

end Stmt

def Block.outline (block : Block) : Form :=
  .form "block" (Stmt.outlines block)

def Conditional.outline (conditional : Conditional) : Form :=
  conditional.toStmt.outline

def Param.listOutline (params : List Param) : Form :=
  .form "params" (params.map Param.outline)

def FieldDecl.outline (field : FieldDecl) : Form :=
  .form "field" (field.modifiers.outline ++
    [.word field.type.outlineText, .word field.name] ++ Expr.optionalOutline field.init)

def ConstructorDecl.outline (constructor : ConstructorDecl) : Form :=
  .form "constructor" (constructor.modifiers.outline ++
    [Param.listOutline constructor.params, Block.outline constructor.body])

def MethodDecl.outline (method : MethodDecl) : Form :=
  .form "method" (method.modifiers.outline ++
    [.word method.name, .word method.returnType.outlineText,
      Param.listOutline method.params, Block.outline method.body])

/-- The name of a class behind its scope. -/
def ClassDecl.qualifiedName (declaration : ClassDecl) : String :=
  if declaration.scope.isEmpty then
    declaration.name
  else
    declaration.scope ++ "." ++ declaration.name

namespace ClassDecl

mutual

def outline : ClassDecl → Form
  | ⟨modifiers, scope, name, fields, constructors, methods, classes⟩ =>
    .form "class" (modifiers.outline ++
      .word (qualifiedName ⟨modifiers, scope, name, fields, constructors, methods, classes⟩) ::
      (fields.map FieldDecl.outline ++ constructors.map ConstructorDecl.outline ++
        methods.map MethodDecl.outline ++ outlines classes))

def outlines : List ClassDecl → List Form
  | [] => []
  | declaration :: declarations => outline declaration :: outlines declarations

end

end ClassDecl

def Reference.outline (reference : Reference) : Form :=
  .form reference.kind.name [.word reference.path]

def FileDecl.outline (file : FileDecl) : Form :=
  .form "file" [.form "references" (file.references.map Reference.outline), file.body.outline]

def Node.outline : Node → Form
  | .expr tree => tree.outline
  | .stmt tree => tree.outline
  | .block tree => Block.outline tree
  | .field tree => tree.outline
  | .constructor tree => tree.outline
  | .method tree => tree.outline
  | .classDecl tree => tree.outline
  | .file tree => tree.outline

def Node.outlineText (width : Nat) (node : Node) : String :=
  node.outline.render width

end Sourcewright
