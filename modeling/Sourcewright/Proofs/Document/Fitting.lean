import Mathlib.Data.List.Forall2
import Sourcewright.Document.Encoding

/-!
# Values that fit a shape

Which values can be expected at a place in a document is said by the schema.  Most of what is
known about documents holds for all values that fit their place, and follows by induction over
how they fit.  Floating point numbers fit nowhere here, as not all of them have digits.
-/

namespace Sourcewright.Document

theorem Kind.memberNames_eq {kind : Kind} {expected : Expected} {members : List Member}
    (defined : kind.definition = .record expected members) :
    kind.memberNames = members.map Member.name := by
  rw [memberNames, Kind.members, defined]

/-- What is expected of the content of an alternative, and whether `null` may stand there. -/
def Content.place? : Content → Option (Bool × Shape)
  | .nothing => none
  | .value shape nullable => some (nullable, shape)
  | .members kind => some (false, .tree kind)

/-- A value fits a shape, or is `null` where that may stand. -/
inductive Fits : (nullable : Bool) → Shape → Value → Prop
  | null (shape : Shape) : Fits true shape .null
  | truth {nullable : Bool} (value : Bool) : Fits nullable .truth (.truth value)
  | integer {nullable : Bool} (value : Int64) : Fits nullable .integer (.integer value)
  | text {nullable : Bool} (value : String) : Fits nullable .text (.text value)
  | list {nullable : Bool} {element : Shape} {items : List Value}
      (fits : ∀ item ∈ items, Fits false element item) :
      Fits nullable (.list element) (.list items)
  | record {nullable : Bool} {kind : Kind} {expected : Expected} {members : List Member}
      {values : List Value} (defined : kind.definition = .record expected members)
      (lengths : members.length = values.length)
      (fits : ∀ pair ∈ members.zip values, Fits pair.1.nullable pair.1.shape pair.2) :
      Fits nullable (.tree kind) (kind.recordOf values)
  | tag {nullable : Bool} {kind : Kind} {alternatives : List Alternative} {name : String}
      (defined : kind.definition = .choice alternatives)
      (known : ⟨name, .nothing⟩ ∈ alternatives) : Fits nullable (.tree kind) (.tag name)
  | variant {nullable contentNullable : Bool} {kind : Kind} {alternatives : List Alternative}
      {name : String} {content : Content} {shape : Shape} {value : Value}
      (defined : kind.definition = .choice alternatives)
      (known : ⟨name, content⟩ ∈ alternatives)
      (placed : content.place? = some (contentNullable, shape))
      (fits : Fits contentNullable shape value) : Fits nullable (.tree kind) (.variant name value)

namespace Fits

/-- Where `null` may stand, other values still fit. -/
theorem orNull {nullable : Bool} {shape : Shape} {value : Value}
    (fits : Fits false shape value) : Fits nullable shape value := by
  cases fits with
  | truth value => exact .truth value
  | integer value => exact .integer value
  | text value => exact .text value
  | list fits => exact .list fits
  | record defined lengths fits => exact .record defined lengths fits
  | tag defined known => exact .tag defined known
  | variant defined known placed fits => exact .variant defined known placed fits

/-- A record fits if its members do, one by one. -/
theorem members {nullable : Bool} {kind : Kind} {expected : Expected} {members : List Member}
    {values : List Value} (defined : kind.definition = .record expected members)
    (fits : List.Forall₂ (fun member value => Fits member.nullable member.shape value)
      members values) : Fits nullable (.tree kind) (kind.recordOf values) := by
  obtain ⟨lengths, each⟩ := List.forall₂_iff_zip.mp fits
  exact .record defined lengths fun pair inside => each inside

end Fits

end Sourcewright.Document
