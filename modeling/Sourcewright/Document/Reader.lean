import Sourcewright.Document.Schema
import Sourcewright.Document.Skip

/-!
# Reading documents

A document is read from left to right by the shape that is expected, so the first
problem in reading order is the one that is reported.  Records may be written as
objects, with their members in any order, or as lists of the members' values;
alternatives are written as a name, or as an object with the name as its only key.

Values are read by `readShape`, which is given how many more brackets may be
opened.  Everything it does at one bracket is said by `readStep`, in terms of the
reader for what stands inside of that bracket.
-/

namespace Sourcewright.Document

/-- The reader for what stands one bracket further in, unless no more brackets may
be opened. -/
abbrev Inside := Option (Shape → Reader Value)

/-- A fixed word in the place of another kind of value. -/
def rejectWord (expected : Expected) (found : Found) (letters rest : List Char) : Fault :=
  match scanLetters letters rest with
  | .error fault => fault
  | .ok after => faultHere (.invalidType found expected) after

/-- What a number is reported as. -/
def Number.found : Number → Found
  | .natural value => .integer value
  | .negative magnitude => .integer (-magnitude)
  | .float value => .float value

/-- The fault of a text that starts with another kind of value than expected.  A
scalar is read first, and its own faults win. -/
def rejectOther (expected : Expected) : List Char → Fault
  | [] => faultAhead .endInValue []
  | char :: rest =>
    if char = 'n' then rejectWord expected .null "ull".toList rest
    else if char = 't' then rejectWord expected (.truth true) "rue".toList rest
    else if char = 'f' then rejectWord expected (.truth false) "alse".toList rest
    else if char = '-' || isDigit char then
      match scanNumber (char :: rest) with
      | .error fault => fault
      | .ok (number, after) => faultHere (.invalidType number.found expected) after
    else if char = '"' then
      match scanText rest with
      | .error fault => fault
      | .ok (chars, after) =>
        faultHere (.invalidType (.text (String.ofList chars)) expected) after
    else if char = '[' then faultHere (.invalidType .list expected) (char :: rest)
    else if char = '\x7b' then faultHere (.invalidType .object expected) (char :: rest)
    else faultAhead .expectedValue (char :: rest)

/-! ## Scalars -/

def readTruth : Reader Value := fun text =>
  match skipSpace text with
  | 't' :: rest => do
    let after ← scanLetters "rue".toList rest
    return (.truth true, after)
  | 'f' :: rest => do
    let after ← scanLetters "alse".toList rest
    return (.truth false, after)
  | other => .error (rejectOther .truth other)

def startsNumber (text : List Char) : Bool :=
  text.head?.any fun char => char == '-' || isDigit char

def readInteger : Reader Value := fun text =>
  let start := skipSpace text
  if startsNumber start then do
    let (number, rest) ← scanNumber start
    match number with
    | .natural value =>
      if value < Nat.pow 2 63 then
        return (.integer (Int64.ofNat value), rest)
      else
        .error (faultHere (.invalidValue number.found .integer) rest)
    | .negative magnitude => return (.integer (Int64.ofInt (-magnitude)), rest)
    | .float _ => .error (faultHere (.invalidType number.found .integer) rest)
  else
    .error (rejectOther .integer start)

def readFloat : Reader Value := fun text =>
  let start := skipSpace text
  if startsNumber start then do
    let (number, rest) ← scanNumber start
    match number with
    | .natural value => return (.float (Binary64.ofNat false value), rest)
    | .negative magnitude => return (.float (Binary64.ofNat true magnitude), rest)
    | .float value => return (.float value, rest)
  else
    .error (rejectOther .float start)

def readText : Reader Value := fun text =>
  match skipSpace text with
  | '"' :: rest => do
    let (chars, after) ← scanText rest
    return (.text (String.ofList chars), after)
  | other => .error (rejectOther .text other)

/-- Read the content of an alternative that has none. -/
def readNothing : Reader Unit := fun text =>
  match skipSpace text with
  | 'n' :: rest => do
    let after ← scanLetters "ull".toList rest
    return ((), after)
  | other => .error (rejectOther .nothing other)

/-- Read a value, or `null` where that is accepted. -/
def readNullable (nullable : Bool) (read : Reader Value) : Reader Value := fun text =>
  if nullable then
    match skipSpace text with
    | 'n' :: rest => do
      let after ← scanLetters "ull".toList rest
      return (.null, after)
    | other => read other
  else
    read text

/-! ## Ends of brackets

When the contents of a bracket have been read, or a fault in them has no place
yet, the bracket is closed.  What is left then gives the fault its place.
-/

/-- What is left behind a list, and the fault of a list that does not end there. -/
def endList (text : List Char) : List Char × Option Fault :=
  match skipSpace text with
  | [] => ([], some (faultAhead .endInList []))
  | char :: rest =>
    if char = ']' then
      (rest, none)
    else if char = ',' then
      let after := skipSpace rest
      if after.head? == some ']' then
        (after, some (faultAhead .trailingComma after))
      else
        (after, some (faultAhead .trailingCharacters after))
    else
      (char :: rest, some (faultAhead .trailingCharacters (char :: rest)))

/-- What is left behind an object, and the fault of an object that does not end
there. -/
def endObject (text : List Char) : List Char × Option Fault :=
  match skipSpace text with
  | [] => ([], some (faultAhead .endInObject []))
  | char :: rest =>
    if char = '\x7d' then
      (rest, none)
    else if char = ',' then
      (char :: rest, some (faultAhead .trailingComma (char :: rest)))
    else
      (char :: rest, some (faultAhead .trailingCharacters (char :: rest)))

/-- Close a bracket behind its contents. -/
def closeWith {α : Type} (ending : List Char → List Char × Option Fault) :
    Except Fault (α × List Char) → Except Fault (α × List Char)
  | .ok (contents, rest) =>
    match ending rest with
    | (after, none) => .ok (contents, after)
    | (_, some fault) => .error fault
  | .error (.floating cause rest) => .error (faultHere cause (ending rest).1)
  | .error (.placed cause remaining) => .error (.placed cause remaining)

/-! ## Lists -/

/-- Where the next element of a list starts; nothing at the end of the list. -/
def nextElement? (first : Bool) (text : List Char) : Except Fault (Option (List Char)) :=
  match skipSpace text with
  | [] => .error (faultAhead .endInList [])
  | char :: rest =>
    if char = ']' then
      .ok none
    else if first then
      .ok (some (char :: rest))
    else if char = ',' then
      match skipSpace rest with
      | [] => .error (faultAhead .endInValue [])
      | next :: afterNext =>
        if next = ']' then
          .error (faultAhead .trailingComma (next :: afterNext))
        else
          .ok (some (next :: afterNext))
    else
      .error (faultAhead .expectedCommaOrListEnd (char :: rest))

/-- Read the elements of a list up to its end.  Every element takes a character at
least, so a text has fewer elements than `limit` if that exceeds its length. -/
def readElements (read : Reader Value) :
    (limit : Nat) → (first : Bool) → Reader (List Value)
  | 0, _, text => .error (faultAhead .endInList text)
  | limit + 1, first, text => do
    match ← nextElement? first text with
    | none => return ([], text)
    | some start =>
      let (value, rest) ← read start
      let (values, rest) ← readElements read limit false rest
      return (value :: values, rest)

def readList (inside : Inside) (element : Shape) : Reader Value := fun text =>
  match skipSpace text with
  | '[' :: rest =>
    match inside with
    | none => .error (faultAhead .depthLimit ('[' :: rest))
    | some read => do
      let (values, after) ←
        closeWith endList (readElements (read element) (rest.length + 1) true rest)
      return (.list values, after)
  | other => .error (rejectOther .list other)

/-! ## Records -/

def readMember (read : Shape → Reader Value) (member : Member) : Reader Value :=
  readNullable member.nullable (read member.shape)

/-- Read the members of a record from a list of their values.  Members that the
list does not reach hold their defaults. -/
def readPositional (read : Shape → Reader Value) (expected : Expected) (total : Nat) :
    List Member → (index : Nat) → Reader (List Value)
  | [], _, text => .ok ([], text)
  | member :: members, index, text => do
    match ← nextElement? (index == 0) text with
    | some start =>
      let (value, rest) ← readMember read member start
      let (values, rest) ← readPositional read expected total members (index + 1) rest
      return (value :: values, rest)
    | none =>
      match member.fallback with
      | some value =>
        let (values, rest) ← readPositional read expected total members (index + 1) text
        return (value :: values, rest)
      | none => .error (.floating (.invalidLength index expected total) text)

/-- Where the text of the next key of an object starts, behind its quotation mark;
nothing at the end of the object. -/
def nextKey? (first : Bool) (text : List Char) : Except Fault (Option (List Char)) :=
  match skipSpace text with
  | [] => .error (faultAhead .endInObject [])
  | char :: rest =>
    if char = '\x7d' then
      .ok none
    else if first then
      if char = '"' then
        .ok (some rest)
      else
        .error (faultAhead .keyMustBeText (char :: rest))
    else if char = ',' then
      match skipSpace rest with
      | [] => .error (faultAhead .endInValue [])
      | next :: afterNext =>
        if next = '"' then
          .ok (some afterNext)
        else if next = '\x7d' then
          .error (faultAhead .trailingComma (next :: afterNext))
        else
          .error (faultAhead .keyMustBeText (next :: afterNext))
    else
      .error (faultAhead .expectedCommaOrObjectEnd (char :: rest))

/-- Read the members of an object up to its end.  Members that are not known are
skipped.  Every member takes a character at least, so an object has fewer members
than `limit` if that exceeds the length of the text. -/
def readMembers (read : Shape → Reader Value) (members : List Member) :
    (limit : Nat) → (first : Bool) → (seen : List (String × Value)) →
      Reader (List (String × Value))
  | 0, _, _, text => .error (faultAhead .endInObject text)
  | limit + 1, first, seen, text => do
    match ← nextKey? first text with
    | none => return (seen, text)
    | some keyStart =>
      let (keyChars, afterKey) ← scanText keyStart
      let key := String.ofList keyChars
      match members.find? (·.name == key) with
      | some member =>
        if (seen.lookup key).isSome then
          .error (.floating (.duplicateMember key) afterKey)
        else
          let valueStart ← scanColon afterKey
          let (value, rest) ← readMember read member valueStart
          readMembers read members limit false ((key, value) :: seen) rest
      | none =>
        let valueStart ← scanColon afterKey
        let rest ← skipValue valueStart
        readMembers read members limit false seen rest

/-- The values of all members in order, defaults included, or the name of the first
required member that is missing. -/
def completeMembers (seen : List (String × Value)) : List Member → Except String (List Value)
  | [] => .ok []
  | member :: members =>
    match (seen.lookup member.name).or member.fallback with
    | none => .error member.name
    | some value => do
      let values ← completeMembers seen members
      return value :: values

def readNamed (read : Shape → Reader Value) (members : List Member) : Reader (List Value) :=
  fun text => do
    let (seen, rest) ← readMembers read members (text.length + 1) true [] text
    match completeMembers seen members with
    | .ok values => return (values, rest)
    | .error name => .error (.floating (.missingMember name) rest)

def readRecord (inside : Inside) (expected : Expected) (members : List Member) :
    Reader Value := fun text =>
  match skipSpace text with
  | '\x7b' :: rest =>
    match inside with
    | none => .error (faultAhead .depthLimit ('\x7b' :: rest))
    | some read => do
      let (values, after) ← closeWith endObject (readNamed read members rest)
      return (.record (members.map Member.name) values, after)
  | '[' :: rest =>
    match inside with
    | none => .error (faultAhead .depthLimit ('[' :: rest))
    | some read => do
      let (values, after) ←
        closeWith endList (readPositional read expected members.length members 0 rest)
      return (.record (members.map Member.name) values, after)
  | other => .error (rejectOther expected other)

/-! ## Choices -/

/-- What was expected of the content of an alternative that is only named. -/
def Content.expected : Content → Expected
  | .nothing => .nothing
  | .value _ _ => .contentOfValue
  | .members _ => .contentOfMembers

/-- The name of an alternative, read behind its quotation mark. -/
def readAlternative (alternatives : List Alternative) : Reader Alternative := fun text => do
  let (chars, rest) ← scanText text
  let name := String.ofList chars
  match alternatives.find? (·.name == name) with
  | some alternative => return (alternative, rest)
  | none =>
    .error (faultHere (.unknownAlternative name (alternatives.map Alternative.name)) rest)

def readContent (read : Shape → Reader Value) (alternative : Alternative) : Reader Value :=
  fun text =>
    match alternative.content with
    | .nothing => do
      let (_, rest) ← readNothing text
      return (.tag alternative.name, rest)
    | .value shape nullable => do
      let (content, rest) ← readNullable nullable (read shape) text
      return (.variant alternative.name content, rest)
    | .members kind => do
      let (content, rest) ← read (.tree kind) text
      return (.variant alternative.name content, rest)

/-- Take the closing bracket behind the content of an alternative off a text. -/
def closeChoice (text : List Char) : Except Fault (List Char) :=
  match skipSpace text with
  | [] => .error (faultHere .endInObject [])
  | char :: rest =>
    if char = '\x7d' then
      .ok rest
    else
      .error (faultHere .expectedValue (char :: rest))

/-- Where the name of an alternative starts in an object, behind its quotation
mark. -/
def alternativeStart (text : List Char) : Except Fault (List Char) :=
  match skipSpace text with
  | [] => .error (faultAhead .endInObject [])
  | char :: rest =>
    if char = '"' then
      .ok rest
    else if char = '\x7d' then
      .error (faultAhead .expectedValue (char :: rest))
    else
      .error (faultAhead .keyMustBeText (char :: rest))

def readChoice (inside : Inside) (alternatives : List Alternative) : Reader Value :=
  fun text =>
    match skipSpace text with
    | '"' :: rest => do
      let (alternative, after) ← readAlternative alternatives rest
      match alternative.content with
      | .nothing => return (.tag alternative.name, after)
      | content => .error (.floating (.invalidType .bareTag content.expected) after)
    | '\x7b' :: rest =>
      match inside with
      | none => .error (faultAhead .depthLimit ('\x7b' :: rest))
      | some read => do
        let nameStart ← alternativeStart rest
        let (alternative, afterName) ← readAlternative alternatives nameStart
        let contentStart ← scanColon afterName
        let (value, afterContent) ← readContent read alternative contentStart
        let after ← closeChoice afterContent
        return (value, after)
    | [] => .error (faultAhead .endInValue [])
    | other => .error (faultAhead .expectedValue other)

/-! ## Documents -/

def readDefinition (inside : Inside) : Definition → Reader Value
  | .record expected members => readRecord inside expected members
  | .choice alternatives => readChoice inside alternatives

/-- Read a value, given the reader for what stands inside of its bracket. -/
def readStep (inside : Inside) : Shape → Reader Value
  | .truth => readTruth
  | .integer => readInteger
  | .float => readFloat
  | .text => readText
  | .list element => readList inside element
  | .tree kind => readDefinition inside kind.definition

/-- Read a value in which no more than `depth` brackets are open at once. -/
def readShape : (depth : Nat) → Shape → Reader Value
  | 0 => readStep none
  | depth + 1 => readStep (some (readShape depth))

/-- The greatest number of brackets that may be open at once. -/
def depthLimit : Nat := 127

/-- Read the characters of a document, which hold one value and nothing else. -/
def readChars (shape : Shape) (text : List Char) : Except Fault Value := do
  let (value, rest) ← readShape depthLimit shape text
  match skipSpace rest with
  | [] => return value
  | other => .error (faultAhead .trailingCharacters other)

def read (shape : Shape) (text : String) : Except Rejection Value :=
  match readChars shape text.toList with
  | .ok value => .ok value
  | .error fault => .error (Rejection.ofFault text.toList fault)

end Sourcewright.Document
