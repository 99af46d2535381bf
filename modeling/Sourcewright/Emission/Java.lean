import Sourcewright.Emission.Member

/-!
# Writing Java declarations

Every declaration says itself who may use it.  A class that is not nested can not be
private, and a nested class is static.
-/

namespace Sourcewright.Emission.Java

/-- The word that says who may use a declaration. -/
def visibilityMark : Visibility → String
  | .publicAccess => "public "
  | .privateAccess => "private "

def staticMark (isStatic : Bool) : String :=
  if isStatic then "static " else ""

def finalMark (isFinal : Bool) : String :=
  if isFinal then "final " else ""

/-- Write the words in front of the type of a field or method. -/
def marks (modifiers : Modifiers) : Script :=
  .text (visibilityMark modifiers.visibility) ++ .text (staticMark modifiers.isStatic) ++
    .text (finalMark modifiers.isFinal)

def field (declaration : FieldDecl) : Script :=
  .step (.startLine "") ++ marks declaration.modifiers ++
    typeRef .java declaration.type ++ .text " " ++ .text declaration.name ++
    initialValue .java declaration.init ++ .text ";" ++ .step .endLine

def constructor (className : String) (declaration : ConstructorDecl) : Script :=
  .step (.startLine "") ++ .text (visibilityMark declaration.modifiers.visibility) ++
    .text className ++ params .java declaration.params ++ body .java declaration.body

def method (declaration : MethodDecl) : Script :=
  .step (.startLine "") ++ marks declaration.modifiers ++
    typeRef .java declaration.returnType ++ .text " " ++ .text declaration.name ++
    params .java declaration.params ++ body .java declaration.body

/-- What is written before a member: a blank line where it is set apart from the one
before. -/
def boundary (previous : Option MemberScript) (member : MemberScript) : Script :=
  if separated (previous.map MemberScript.isField) member.isField then .line "" else .empty

def members (previous : Option MemberScript) : List MemberScript → Script
  | [] => .empty
  | member :: rest =>
    boundary previous member ++ member.script ++ members (some member) rest

/-- The word that says who may use a class. -/
def classVisibilityMark (nested : Bool) : Visibility → String
  | .publicAccess => "public "
  | .privateAccess => if nested then "private " else ""

def classHeader (nested : Bool) (modifiers : Modifiers) (name : String) : Script :=
  .step (.startLine "") ++ .text (classVisibilityMark nested modifiers.visibility) ++
    .text (staticMark nested) ++ .text (finalMark modifiers.isFinal) ++ .text "class " ++
    .text name ++ .text " \x7b" ++ .step .endLine

mutual

def classDecl (nested : Bool) : ClassDecl → Script
  | ⟨modifiers, _, name, fields, constructors, methods, classes⟩ =>
    classHeader nested modifiers name ++
      .indented (members none
        (fields.map (fun declaration =>
            ⟨true, declaration.modifiers.visibility, field declaration⟩) ++
          constructors.map (fun declaration =>
            .ofModifiers declaration.modifiers (constructor name declaration)) ++
          methods.map (fun declaration =>
            .ofModifiers declaration.modifiers (method declaration)) ++
          nestedClasses classes)) ++
      .line "\x7d"

def nestedClasses : List ClassDecl → List MemberScript
  | [] => []
  | declaration :: rest =>
    .ofModifiers declaration.modifiers (classDecl true declaration) :: nestedClasses rest

end

def reference (written : Reference) : Script :=
  match written.kind with
  | .importName => .line ("import " ++ written.path ++ ";")
  | .includeHeader => .stop (.reference .java written)
  | .useNamespace => .stop (.reference .java written)
  | .useName => .stop (.reference .java written)

/-- Write references, and a blank line behind them. -/
def references (written : List Reference) : Script :=
  .sequence (written.map reference) ++ (if written.isEmpty then .empty else .line "")

/-- Write the package of a file, if its class has a scope. -/
def package (scope : String) : Script :=
  if scope.isEmpty then
    .empty
  else
    .line ("package " ++ scope ++ ";") ++ .line ""

def file (written : FileDecl) : Script :=
  package written.body.scope ++ references written.references ++ classDecl false written.body

end Sourcewright.Emission.Java
