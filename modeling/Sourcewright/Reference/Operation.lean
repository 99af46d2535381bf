import Sourcewright.Reference.Set

/-!
# Operations on a set of references

A set of references is filled and asked in operations, one after the other.  Every
operation is answered at once, from the set as the operations before it left it.
-/

namespace Sourcewright.References

/-- What can be done with a set of references. -/
inductive Operation where
  | insert (reference : Reference)
  | extend (added : List Reference)
  | contains (reference : Reference)
  | size
  | isEmpty
  | listing
deriving DecidableEq

inductive Answer where
  | nothing
  | truth (value : Bool)
  | count (value : Nat)
  | references (listing : List Reference)
deriving DecidableEq

/-- Carry out an operation.  Inserting a reference is answered by whether the set has
grown. -/
def perform (references : References) : Operation → References × Answer
  | .insert reference =>
    let larger := references.insert reference
    (larger, .truth (references.size < larger.size))
  | .extend added => (references.insertAll added, .nothing)
  | .contains reference => (references, .truth (references.contains reference))
  | .size => (references, .count references.size)
  | .isEmpty => (references, .truth references.isEmpty)
  | .listing => (references, .references references.toList)

def performAll (references : References) : List Operation → References × List Answer
  | [] => (references, [])
  | operation :: operations =>
    let (changed, answer) := references.perform operation
    let (final, answers) := changed.performAll operations
    (final, answer :: answers)

end Sourcewright.References
