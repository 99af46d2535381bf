import Sourcewright.Number.Binary64

/-!
# Program trees

A program tree describes classes, their members, statements and expressions
without committing to a target language.  Trees are authored by a producer,
read from documents, have their type references resolved, and are finally
written as source text.

Every choice between alternatives is an inductive type, every bundle of parts is
a structure, and the order of constructors and fields is the order in which the
parts are written in documents.
-/

namespace Sourcewright

/-- The primitive types that every target may spell in its own way. -/
inductive Primitive where
  | string
  | double
  | float
  | long
  | integer
  | short
  | byte
  | boolean
  | char
  | void
  | unsignedLong
  | unsignedInt
  | unsignedShort
  | unsignedByte
deriving DecidableEq

namespace Primitive

def all : List Primitive :=
  [string, double, float, long, integer, short, byte, boolean, char, void,
    unsignedLong, unsignedInt, unsignedShort, unsignedByte]

def name : Primitive → String
  | string => "string"
  | double => "double"
  | float => "float"
  | long => "long"
  | integer => "integer"
  | short => "short"
  | byte => "byte"
  | boolean => "boolean"
  | char => "char"
  | void => "void"
  | unsignedLong => "unsigned-long"
  | unsignedInt => "unsigned-int"
  | unsignedShort => "unsigned-short"
  | unsignedByte => "unsigned-byte"

end Primitive

/-- A reference to a type: a name, possibly qualified by a `.`-separated scope,
or a primitive. -/
inductive TypeRef where
  | named (name : String)
  | primitive (primitive : Primitive)
deriving DecidableEq

/-- Binary operators. -/
inductive Operator where
  | eq
  | neq
  | lt
  | ltEq
  | gt
  | gtEq
  | plus
  | minus
  | times
  | divide
  | remainder
  | and
  | or
  | shiftLeft
  | shiftRight
  | unsignedShiftRight
deriving DecidableEq

namespace Operator

def all : List Operator :=
  [eq, neq, lt, ltEq, gt, gtEq, plus, minus, times, divide, remainder, and, or,
    shiftLeft, shiftRight, unsignedShiftRight]

def name : Operator → String
  | eq => "eq"
  | neq => "neq"
  | lt => "lt"
  | ltEq => "lt-eq"
  | gt => "gt"
  | gtEq => "gt-eq"
  | plus => "plus"
  | minus => "minus"
  | times => "times"
  | divide => "divide"
  | remainder => "remainder"
  | and => "and"
  | or => "or"
  | shiftLeft => "shl"
  | shiftRight => "shr"
  | unsignedShiftRight => "unsigned-shr"

end Operator

/-- Constant values. -/
inductive Literal where
  | truth (value : Bool)
  | integer (value : Int64)
  | float (value : Binary64)
  | text (value : String)
  | null
deriving DecidableEq

/-- A typed name: a parameter, or a local variable. -/
structure Param where
  name : String
  type : TypeRef
deriving DecidableEq

/-- A method named together with the type that owns it. -/
structure MethodRef where
  owner : TypeRef
  name : String
deriving DecidableEq

/-- Expressions.  A call either goes through a receiver, or is static and goes
through the owner of its method. -/
inductive Expr where
  | literal (value : Literal)
  | param (param : Param)
  | binary (operator : Operator) (left right : Expr)
  | assign (target value : Expr)
  | call (receiver : Expr) (method : MethodRef) (arguments : List Expr)
  | staticCall (method : MethodRef) (arguments : List Expr)
  | construct (type : TypeRef) (arguments : List Expr)
  | field (type : TypeRef) (name : String)

/-- Statements.  A conditional keeps its conditions and its blocks as two lists
side by side, so trees in which the lists do not match can be represented and
reported. -/
inductive Stmt where
  | expr (value : Expr)
  | declare (param : Param) (init : Option Expr)
  | conditional (conditions : List Expr) (blocks : List (List Stmt))
  | block (statements : List Stmt)
  | ret (value : Option Expr)
  | comment (text : String)

abbrev Block := List Stmt

/-- The two lists of a conditional, apart from the statement they form. -/
structure Conditional where
  conditions : List Expr
  blocks : List Block

namespace Conditional

def toStmt (conditional : Conditional) : Stmt :=
  .conditional conditional.conditions conditional.blocks

/-- A conditional is well formed if it has a condition, a block for every
condition, and at most one block more. -/
def wellFormed (conditional : Conditional) : Bool :=
  !conditional.conditions.isEmpty &&
    (conditional.blocks.length == conditional.conditions.length ||
      conditional.blocks.length == conditional.conditions.length + 1)

/-- The block that follows one block for every condition, if there is exactly one
such block. -/
def elseBlock? (conditional : Conditional) : Option Block :=
  if conditional.blocks.length = conditional.conditions.length + 1 then
    conditional.blocks.getLast?
  else
    none

end Conditional

/-- Control flow and comments write complete lines of their own; every other
statement is written inline and terminated by its block. -/
def Stmt.managesTermination : Stmt → Bool
  | .conditional _ _ => true
  | .block _ => true
  | .comment _ => true
  | .expr _ => false
  | .declare _ _ => false
  | .ret _ => false

/-- Marks on declarations. -/
inductive Modifier where
  | publicAccess
  | privateAccess
  | static
  | final
deriving DecidableEq

namespace Modifier

def all : List Modifier :=
  [publicAccess, privateAccess, static, final]

def name : Modifier → String
  | publicAccess => "public"
  | privateAccess => "private"
  | static => "static"
  | final => "final"

end Modifier

/-- Who may use a declaration. -/
inductive Visibility where
  | publicAccess
  | privateAccess
deriving DecidableEq

structure Modifiers where
  isPublic : Bool := false
  isPrivate : Bool := false
  isStatic : Bool := false
  isFinal : Bool := false
deriving DecidableEq

namespace Modifiers

def empty : Modifiers := {}

def contains (modifiers : Modifiers) : Modifier → Bool
  | .publicAccess => modifiers.isPublic
  | .privateAccess => modifiers.isPrivate
  | .static => modifiers.isStatic
  | .final => modifiers.isFinal

def insert (modifiers : Modifiers) : Modifier → Modifiers
  | .publicAccess => { modifiers with isPublic := true }
  | .privateAccess => { modifiers with isPrivate := true }
  | .static => { modifiers with isStatic := true }
  | .final => { modifiers with isFinal := true }

def ofList (modifiers : List Modifier) : Modifiers :=
  modifiers.foldl insert empty

/-- The modifiers in the set, in declaration order and without repeats. -/
def toList (modifiers : Modifiers) : List Modifier :=
  Modifier.all.filter modifiers.contains

def isEmpty (modifiers : Modifiers) : Bool :=
  modifiers.toList.isEmpty

/-- Declarations are public unless they are marked as private. -/
def visibility (modifiers : Modifiers) : Visibility :=
  if modifiers.isPrivate then .privateAccess else .publicAccess

end Modifiers

structure FieldDecl where
  modifiers : Modifiers := {}
  type : TypeRef
  name : String
  init : Option Expr := none

structure ConstructorDecl where
  modifiers : Modifiers := {}
  params : List Param := []
  body : Block := []

structure MethodDecl where
  modifiers : Modifiers := {}
  name : String
  returnType : TypeRef
  params : List Param := []
  body : Block := []

/-- A class with its members.  An empty scope stands for no scope. -/
structure ClassDecl where
  modifiers : Modifiers := {}
  scope : String := ""
  name : String
  fields : List FieldDecl := []
  constructors : List ConstructorDecl := []
  methods : List MethodDecl := []
  classes : List ClassDecl := []

/-- The ways in which a file can refer to something outside of it. -/
inductive ReferenceKind where
  | includeHeader
  | useNamespace
  | useName
  | importName
deriving DecidableEq

namespace ReferenceKind

def all : List ReferenceKind :=
  [includeHeader, useNamespace, useName, importName]

def name : ReferenceKind → String
  | includeHeader => "include"
  | useNamespace => "using-namespace"
  | useName => "using"
  | importName => "import"

end ReferenceKind

/-- Something outside of a file that the file depends on. -/
structure Reference where
  kind : ReferenceKind
  path : String
deriving DecidableEq

/-- A complete file: the references it makes, and the class it declares. -/
structure FileDecl where
  references : List Reference := []
  body : ClassDecl

/-- Any tree that can be read from a document and written as source text. -/
inductive Node where
  | expr (expr : Expr)
  | stmt (stmt : Stmt)
  | block (block : Block)
  | field (field : FieldDecl)
  | constructor (constructor : ConstructorDecl)
  | method (method : MethodDecl)
  | classDecl (declaration : ClassDecl)
  | file (file : FileDecl)

end Sourcewright
