import Sourcewright.Number.Text
import Sourcewright.Text.Quoted

/-!
# Document values

A document holds one value.  Besides scalars and lists there are records, whose
members are named, and variants, which name one of several alternatives and may
carry a content.

`Value.chars` writes a value without any space.  Every member of a record is
written, in order, whether or not it holds a default.
-/

namespace Sourcewright.Document

inductive Value where
  | null
  | truth (value : Bool)
  | integer (value : Int64)
  | float (value : Binary64)
  | text (value : String)
  | list (items : List Value)
  /-- The values of a record stand beside the names of its members. -/
  | record (names : List String) (values : List Value)
  /-- An alternative without content. -/
  | tag (name : String)
  | variant (name : String) (content : Value)
deriving BEq

/-- The form of a character in a text of a document: quotation marks, backslashes
and control characters are escaped, and nothing else is. -/
def escapedChar (char : Char) : List Char :=
  if char = '"' then ['\\', '"']
  else if char = '\\' then ['\\', '\\']
  else if char = '\x08' then ['\\', 'b']
  else if char = '\x0c' then ['\\', 'f']
  else if char = '\n' then ['\\', 'n']
  else if char = '\r' then ['\\', 'r']
  else if char = '\t' then ['\\', 't']
  else if char.toNat < 0x20 then
    ['\\', 'u', '0', '0', Nat.digitChar (char.toNat / 16), Nat.digitChar (char.toNat % 16)]
  else [char]

def textChars (text : String) : List Char :=
  '"' :: text.toList.flatMap escapedChar ++ ['"']

namespace Value

mutual

def chars : Value → List Char
  | .null => "null".toList
  | .truth true => "true".toList
  | .truth false => "false".toList
  | .integer value => (wholeText value.toInt).toList
  | .float value => (FloatStyle.document.text value).toList
  | .text value => textChars value
  | .list items => '[' :: itemChars items ++ [']']
  | .record names values => '\x7b' :: memberChars names values ++ ['\x7d']
  | .tag name => textChars name
  | .variant name content => '\x7b' :: textChars name ++ ':' :: chars content ++ ['\x7d']

def itemChars : List Value → List Char
  | [] => []
  | item :: items => chars item ++ furtherItemChars items

/-- The written form of the items after the first one. -/
def furtherItemChars : List Value → List Char
  | [] => []
  | item :: items => ',' :: chars item ++ furtherItemChars items

def memberChars : List String → List Value → List Char
  | name :: names, value :: values =>
    textChars name ++ ':' :: chars value ++ furtherMemberChars names values
  | [], _ => []
  | _, [] => []

def furtherMemberChars : List String → List Value → List Char
  | name :: names, value :: values =>
    ',' :: textChars name ++ ':' :: chars value ++ furtherMemberChars names values
  | [], _ => []
  | _, [] => []

end

def render (value : Value) : String :=
  String.ofList value.chars

end Value

end Sourcewright.Document
