import Sourcewright.Reference.Set
import Sourcewright.Target
import Sourcewright.Tree.Traversal

/-!
# Resolving type references

Before a tree is written, its qualified type names are replaced by simple ones, and
what the names need to have in scope is collected as a set of references.
-/

namespace Sourcewright

/-- A name cut at its last dot, if there is one. -/
def cutAtLastDot? (name : List Char) : Option (List Char × List Char) :=
  let reversed := name.reverse
  match reversed.dropWhile (· != '.') with
  | [] => none
  | _ :: qualifier => some (qualifier.reverse, (reversed.takeWhile (· != '.')).reverse)

/-- The qualifier and the simple name of a qualified type name.  Primitive types, and
names with nothing before or behind their last dot, are not qualified. -/
def TypeRef.splitQualified? : TypeRef → Option (String × String)
  | .primitive _ => none
  | .named name =>
    match cutAtLastDot? name.toList with
    | none => none
    | some (qualifier, simple) =>
      if qualifier.isEmpty || simple.isEmpty then
        none
      else
        some (String.ofList qualifier, String.ofList simple)

namespace Target

/-- Whether a primitive type is declared in the header of fixed-width integers. -/
def needsFixedWidthHeader : Primitive → Bool
  | .byte => true
  | .unsignedLong => true
  | .unsignedInt => true
  | .unsignedShort => true
  | .unsignedByte => true
  | _ => false

def primitiveReferences : Target → Primitive → List Reference
  | cpp, .string => [⟨.includeHeader, "<string>"⟩, ⟨.useNamespace, "std"⟩]
  | cpp, primitive =>
    if needsFixedWidthHeader primitive then [⟨.includeHeader, "<cstdint>"⟩] else []
  | java, _ => []

/-- The reference that brings a qualified name into scope. -/
def nameReference : Target → String → Reference
  | cpp, name => ⟨.useName, scopedName name⟩
  | java, name => ⟨.importName, name⟩

def typeReferences (target : Target) : TypeRef → List Reference
  | .primitive primitive => target.primitiveReferences primitive
  | .named name =>
    if (TypeRef.named name).splitQualified?.isSome then
      [target.nameReference name]
    else
      []

end Target

/-- The type that stands in for a type once what it needs is in scope: a qualified
name gives way to its simple name. -/
def TypeRef.simplified (type : TypeRef) : TypeRef :=
  match type.splitQualified? with
  | some (_, simple) => .named simple
  | none => type

/-- Record what a type needs, and replace it. -/
def Target.resolveType (target : Target) (type : TypeRef) : StateM References TypeRef := do
  modify (·.insertAll (target.typeReferences type))
  return type.simplified

/-- Replace all type references of a tree, and collect what they need. -/
def Target.resolve (target : Target) (node : Node) : Node × References :=
  ((Traversal.ofTypes target.resolveType).node node).run References.empty

/-- Resolve the type references of a tree, and make a class into a file with the
references it needs.  References that a file already has are kept; trees that are
neither classes nor files have no place for references. -/
def Target.prepare (target : Target) (node : Node) : Node :=
  match target.resolve node with
  | (.classDecl declaration, references) => .file ⟨references.toList, declaration⟩
  | (.file file, references) =>
    .file ⟨(references.insertAll file.references).toList, file.body⟩
  | (other, _) => other

end Sourcewright
