import Sourcewright.Document.Cause
import Sourcewright.Document.Value
import Sourcewright.Tree.Basic

/-!
# The schema of documents

Reading a document is driven by what is expected at each place.  This file says
what that is for every kind of tree: which alternatives there are, which members
each record has and in which order, which of them may be left out and what they
hold then, and which places also accept `null`.
-/

namespace Sourcewright.Document

/-- The kinds of trees that documents are made of, and the kinds of alternatives
that have members of their own. -/
inductive Kind where
  | node
  | type
  | primitive
  | operator
  | modifier
  | literal
  | param
  | methodRef
  | expr
  | binary
  | assignment
  | call
  | construction
  | fieldAccess
  | conditional
  | stmt
  | declaration
  | field
  | constructor
  | method
  | classDecl
  | referenceKind
  | reference
  | file
deriving DecidableEq

/-- What is expected at a place in a document. -/
inductive Shape where
  | truth
  | integer
  | float
  | text
  | list (element : Shape)
  | tree (kind : Kind)
deriving DecidableEq

structure Member where
  name : String
  shape : Shape
  /-- Whether `null` may stand in place of a value. -/
  nullable : Bool := false
  /-- What the member holds if it is left out; a member without this is required. -/
  fallback : Option Value := none

/-- What an alternative carries. -/
inductive Content where
  | nothing
  | value (shape : Shape) (nullable : Bool)
  /-- The members of the alternative form a record. -/
  | members (kind : Kind)

structure Alternative where
  name : String
  content : Content

/-- How a kind of tree is written. -/
inductive Definition where
  /-- What is expected names the kind in messages. -/
  | record (expected : Expected) (members : List Member)
  | choice (alternatives : List Alternative)

def required (name : String) (shape : Shape) : Member :=
  { name := name, shape := shape }

/-- A member that is an empty list if it is left out. -/
def emptyByDefault (name : String) (element : Shape) : Member :=
  { name := name, shape := .list element, fallback := some (.list []) }

/-- A member that is absent if it is left out or `null`. -/
def absentByDefault (name : String) (shape : Shape) : Member :=
  { name := name, shape := shape, nullable := true, fallback := some .null }

/-- Alternatives without content. -/
def tags (names : List String) : Definition :=
  .choice (names.map fun name => { name := name, content := .nothing })

/-- An alternative that carries one value. -/
def carrying (name : String) (shape : Shape) : Alternative :=
  { name := name, content := .value shape false }

def withMembers (name : String) (kind : Kind) : Alternative :=
  { name := name, content := .members kind }

def modifiersShape : Shape := .list (.tree .modifier)

def blockShape : Shape := .list (.tree .stmt)

def Kind.definition : Kind → Definition
  | .node => .choice [
      carrying "expr" (.tree .expr),
      carrying "stmt" (.tree .stmt),
      carrying "block" blockShape,
      carrying "field" (.tree .field),
      carrying "constructor" (.tree .constructor),
      carrying "method" (.tree .method),
      carrying "class" (.tree .classDecl),
      carrying "file" (.tree .file)]
  | .type => .choice [carrying "named" .text, carrying "prim" (.tree .primitive)]
  | .primitive => tags (Primitive.all.map Primitive.name)
  | .operator => tags (Operator.all.map Operator.name)
  | .modifier => tags (Modifier.all.map Modifier.name)
  | .literal => .choice [
      carrying "bool" .truth,
      carrying "int" .integer,
      carrying "float" .float,
      carrying "string" .text,
      { name := "null", content := .nothing }]
  | .param => .record (.record "Param") [required "name" .text, required "type" (.tree .type)]
  | .methodRef => .record (.record "MethodRef") [
      required "owner" (.tree .type),
      required "name" .text]
  | .expr => .choice [
      carrying "const" (.tree .literal),
      carrying "param" (.tree .param),
      withMembers "binary" .binary,
      withMembers "assign" .assignment,
      withMembers "call" .call,
      withMembers "new" .construction,
      withMembers "field" .fieldAccess]
  | .binary => .record (.members "Expr::Binary") [
      required "op" (.tree .operator),
      required "lhs" (.tree .expr),
      required "rhs" (.tree .expr)]
  | .assignment => .record (.members "Expr::Assign") [
      required "target" (.tree .expr),
      required "value" (.tree .expr)]
  | .call => .record (.members "Expr::Call") [
      absentByDefault "receiver" (.tree .expr),
      required "method" (.tree .methodRef),
      emptyByDefault "args" (.tree .expr)]
  | .construction => .record (.members "Expr::New") [
      required "type" (.tree .type),
      emptyByDefault "args" (.tree .expr)]
  | .fieldAccess => .record (.members "Expr::Field") [
      required "type" (.tree .type),
      required "name" .text]
  | .conditional => .record (.record "IfStmt") [
      required "conds" (.list (.tree .expr)),
      required "blocks" (.list blockShape)]
  | .stmt => .choice [
      carrying "expr" (.tree .expr),
      withMembers "decl" .declaration,
      carrying "if" (.tree .conditional),
      carrying "block" blockShape,
      { name := "return", content := .value (.tree .expr) true },
      carrying "comment" .text]
  | .declaration => .record (.members "Stmt::Decl") [
      required "param" (.tree .param),
      absentByDefault "init" (.tree .expr)]
  | .field => .record (.record "FieldDecl") [
      emptyByDefault "modifiers" (.tree .modifier),
      required "type" (.tree .type),
      required "name" .text,
      absentByDefault "init" (.tree .expr)]
  | .constructor => .record (.record "ConstructorDecl") [
      emptyByDefault "modifiers" (.tree .modifier),
      emptyByDefault "params" (.tree .param),
      emptyByDefault "body" (.tree .stmt)]
  | .method => .record (.record "MethodDef") [
      emptyByDefault "modifiers" (.tree .modifier),
      required "name" .text,
      required "return-type" (.tree .type),
      emptyByDefault "params" (.tree .param),
      emptyByDefault "body" (.tree .stmt)]
  | .classDecl => .record (.record "ClassDecl") [
      emptyByDefault "modifiers" (.tree .modifier),
      { name := "namespace", shape := .text, fallback := some (.text "") },
      required "name" .text,
      emptyByDefault "fields" (.tree .field),
      emptyByDefault "constructors" (.tree .constructor),
      emptyByDefault "methods" (.tree .method),
      emptyByDefault "classes" (.tree .classDecl)]
  | .referenceKind => tags (ReferenceKind.all.map ReferenceKind.name)
  | .reference => .record (.record "Reference") [
      required "kind" (.tree .referenceKind),
      required "path" .text]
  | .file => .record (.record "FileDecl") [
      emptyByDefault "references" (.tree .reference),
      required "class" (.tree .classDecl)]

end Sourcewright.Document
