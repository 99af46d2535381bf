import Sourcewright.Number.Text
import Sourcewright.Text.Quoted

/-!
# Causes of rejection

Why a document is rejected, apart from where.  A cause is of one of three kinds:
the document ends too early, it is not formed as documents are, or it is well
formed and holds something else than what is expected.
-/

namespace Sourcewright.Document

/-- What stands in a document where something else is expected. -/
inductive Found where
  | null
  | truth (value : Bool)
  | integer (value : Int)
  | float (value : Binary64)
  | text (value : String)
  | list
  | object
  /-- The name of an alternative without the content it needs. -/
  | bareTag
deriving DecidableEq

inductive Expected where
  | text
  | truth
  | integer
  | float
  | list
  | nothing
  | record (title : String)
  | members (title : String)
  | contentOfValue
  | contentOfMembers
deriving DecidableEq

/-- Why a document is rejected. -/
inductive Cause where
  | endInValue
  | endInText
  | endInList
  | endInObject
  | expectedValue
  | expectedLetters
  | expectedColon
  | expectedCommaOrListEnd
  | expectedCommaOrObjectEnd
  | trailingComma
  | trailingCharacters
  | keyMustBeText
  | invalidNumber
  | numberOutOfRange
  | controlCharacter
  | invalidEscape
  | loneSurrogate
  | unfinishedSurrogate
  | depthLimit
  | invalidType (found : Found) (expected : Expected)
  | invalidValue (found : Found) (expected : Expected)
  | invalidLength (length : Nat) (expected : Expected) (members : Nat)
  | unknownAlternative (name : String) (known : List String)
  | missingMember (name : String)
  | duplicateMember (name : String)
deriving DecidableEq

inductive CauseKind where
  /-- The document is not well formed. -/
  | malformed
  /-- The document is well formed and does not hold what is expected. -/
  | unexpected
  /-- The document ends too early. -/
  | incomplete
deriving DecidableEq

/-- Between the marks that set off names and values in messages. -/
def marked (text : String) : String :=
  "`" ++ text ++ "`"

def Found.wording : Found → String
  | .null => "null"
  | .truth true => "boolean `true`"
  | .truth false => "boolean `false`"
  | .integer value => "integer " ++ marked (wholeText value)
  | .float value => "floating point " ++ marked (FloatStyle.document.text value)
  | .text value => "string " ++ Text.quoted value
  | .list => "sequence"
  | .object => "map"
  | .bareTag => "unit variant"

def Expected.wording : Expected → String
  | .text => "a string"
  | .truth => "a boolean"
  | .integer => "i64"
  | .float => "f64"
  | .list => "a sequence"
  | .nothing => "unit"
  | .record title => "struct " ++ title
  | .members title => "struct variant " ++ title
  | .contentOfValue => "newtype variant"
  | .contentOfMembers => "struct variant"

def choiceWording : List String → String
  | [first, second] => marked first ++ " or " ++ marked second
  | [only] => marked only
  | names => "one of " ++ ", ".intercalate (names.map marked)

namespace Cause

def message : Cause → String
  | endInValue => "EOF while parsing a value"
  | endInText => "EOF while parsing a string"
  | endInList => "EOF while parsing a list"
  | endInObject => "EOF while parsing an object"
  | expectedValue => "expected value"
  | expectedLetters => "expected ident"
  | expectedColon => "expected `:`"
  | expectedCommaOrListEnd => "expected `,` or `]`"
  | expectedCommaOrObjectEnd => "expected `,` or `\x7d`"
  | trailingComma => "trailing comma"
  | trailingCharacters => "trailing characters"
  | keyMustBeText => "key must be a string"
  | invalidNumber => "invalid number"
  | numberOutOfRange => "number out of range"
  | controlCharacter => "control character (\\u0000-\\u001F) found while parsing a string"
  | invalidEscape => "invalid escape"
  | loneSurrogate => "lone leading surrogate in hex escape"
  | unfinishedSurrogate => "unexpected end of hex escape"
  | depthLimit => "recursion limit exceeded"
  | invalidType found expected =>
    "invalid type: " ++ found.wording ++ ", expected " ++ expected.wording
  | invalidValue found expected =>
    "invalid value: " ++ found.wording ++ ", expected " ++ expected.wording
  | invalidLength length expected members =>
    "invalid length " ++ wholeText length ++ ", expected " ++ expected.wording ++
      " with " ++ wholeText members ++ " elements"
  | unknownAlternative name known =>
    "unknown variant " ++ marked name ++ ", expected " ++ choiceWording known
  | missingMember name => "missing field " ++ marked name
  | duplicateMember name => "duplicate field " ++ marked name

def kind : Cause → CauseKind
  | endInValue => .incomplete
  | endInText => .incomplete
  | endInList => .incomplete
  | endInObject => .incomplete
  | invalidType _ _ => .unexpected
  | invalidValue _ _ => .unexpected
  | invalidLength _ _ _ => .unexpected
  | unknownAlternative _ _ => .unexpected
  | missingMember _ => .unexpected
  | duplicateMember _ => .unexpected
  | expectedValue => .malformed
  | expectedLetters => .malformed
  | expectedColon => .malformed
  | expectedCommaOrListEnd => .malformed
  | expectedCommaOrObjectEnd => .malformed
  | trailingComma => .malformed
  | trailingCharacters => .malformed
  | keyMustBeText => .malformed
  | invalidNumber => .malformed
  | numberOutOfRange => .malformed
  | controlCharacter => .malformed
  | invalidEscape => .malformed
  | loneSurrogate => .malformed
  | unfinishedSurrogate => .malformed
  | depthLimit => .malformed

end Cause

end Sourcewright.Document
