import Sourcewright.Proofs.Emission.Words

/-!
# Tokens of expressions

The text of an expression falls into words, text constants, parentheses, commas and dots.
Spaces only separate words, and a point in front of a digit belongs to a number.

Reading the text of an expression gives the tokens that the tree prescribes, whatever comes
behind the text, as long as that does not continue its last word.
-/

namespace Sourcewright.Emission

inductive Token where
  | word (chars : List Char)
  | quoted (body : List Char)
  | opening
  | closing
  | comma
  | dot
deriving DecidableEq

/-! ## Reading tokens -/

/-- What is being read: a word, which may be empty, or a text constant, possibly behind a
backslash. -/
inductive Reading where
  | word (chars : List Char)
  | quoted (body : List Char)
  | escaped (body : List Char)

def isSolid (char : Char) : Bool :=
  decide (char ∉ ['(', ')', ',', ' ', '.', '"'])

/-- The token of a character that separates words. -/
def separator : Char → List Token
  | '(' => [.opening]
  | ')' => [.closing]
  | ',' => [.comma]
  | '.' => [.dot]
  | _ => []

def flush (word : List Char) (tokens : List Token) : List Token :=
  if word.isEmpty then tokens else .word word :: tokens

def read : Reading → List Char → List Token
  | .word word, [] => flush word []
  | .word word, char :: rest =>
    if isSolid char || (char == '.' && rest.head?.any Char.isDigit) then
      read (.word (word ++ [char])) rest
    else if char = '"' then
      flush word (read (.quoted []) rest)
    else
      flush word (separator char ++ read (.word []) rest)
  | .quoted _, [] => []
  | .quoted body, char :: rest =>
    if char = '"' then
      .quoted body :: read (.word []) rest
    else if char = '\\' then
      read (.escaped (body ++ [char])) rest
    else
      read (.quoted (body ++ [char])) rest
  | .escaped _, [] => []
  | .escaped body, char :: rest => read (.quoted (body ++ [char])) rest

def tokens (chars : List Char) : List Token :=
  read (.word []) chars

/-! ## Words -/

/-- The characters do not end a word. -/
def Solid (chars : List Char) : Prop :=
  ∀ word rest, read (.word word) (chars ++ rest) = read (.word (word ++ chars)) rest

theorem Solid.append {first second : List Char} (firstSolid : Solid first)
    (secondSolid : Solid second) : Solid (first ++ second) := by
  intro word rest
  rw [List.append_assoc, firstSolid, secondSolid, List.append_assoc]

theorem solid_of_all {chars : List Char} (solid : chars.all isSolid = true) : Solid chars := by
  induction chars with
  | nil =>
      intro word rest
      rw [List.append_nil, List.nil_append]
  | cons char chars ih =>
      rw [List.all_cons, Bool.and_eq_true] at solid
      obtain ⟨first, further⟩ := solid
      intro word rest
      rw [List.cons_append, read, if_pos (by simp [first]), ih further, List.append_assoc,
        List.singleton_append]

/-- A point in front of a digit does not end a word. -/
theorem solid_point {digit : Char} {chars : List Char} (isDigit : digit.isDigit = true)
    (solid : Solid (digit :: chars)) : Solid ('.' :: digit :: chars) := by
  intro word rest
  have further := solid (word ++ ['.']) rest
  rw [List.append_assoc, List.singleton_append] at further
  rw [List.cons_append, read, if_pos (by simp [isDigit]), further]

theorem isSolid_of_isNameChar {char : Char} (nameChar : isNameChar char = true) :
    isSolid char = true := by
  rw [isSolid, decide_eq_true_iff]
  intro separates
  simp only [List.mem_cons, List.not_mem_nil, or_false] at separates
  rcases separates with rfl | rfl | rfl | rfl | rfl | rfl <;> exact absurd nameChar (by decide)

theorem isNameChar_of_isDigit {char : Char} (digit : char.isDigit = true) :
    isNameChar char = true := by
  simp [isNameChar, Char.isAlphanum, digit]

theorem solid_of_isDigit {digits : List Char} (areDigits : ∀ char ∈ digits, char.isDigit = true) :
    Solid digits :=
  solid_of_all (List.all_eq_true.mpr fun char member =>
    isSolid_of_isNameChar (isNameChar_of_isDigit (areDigits char member)))

theorem solid_of_isName {chars : List Char} (name : isName chars = true) : Solid chars :=
  solid_of_all (List.all_eq_true.mpr fun char member =>
    isSolid_of_isNameChar (isNameChar_of_mem name char member))

theorem solid_sign (negative : Prop) [Decidable negative] :
    Solid (if negative then ['-'] else []) := by
  split <;> exact solid_of_all rfl

theorem solid_wholeText (value : Int) : Solid (wholeText value).toList := by
  rw [Document.toList_wholeText]
  apply (solid_sign _).append
  exact solid_of_isDigit fun char member => isDigit_of_mem_digitsOf member

theorem solid_numeral {numeral : Numeral} (regular : numeral.Regular) : Solid numeral.chars := by
  have sign := solid_sign (numeral.negative = true)
  have fraction : Solid (Numeral.fractionChars numeral.fraction) := by
    have areDigits := regular.isDigit_fraction
    generalize numeral.fraction = fraction at areDigits ⊢
    cases fraction with
    | nil => exact solid_of_all rfl
    | cons digit digits =>
        exact solid_point (areDigits digit List.mem_cons_self) (solid_of_isDigit areDigits)
  have exponent : Solid (Numeral.exponentChars numeral.exponent) := by
    cases numeral.exponent with
    | none => exact solid_of_all rfl
    | some exponent =>
        have mark : Solid ['e'] := solid_of_all rfl
        exact mark.append (solid_wholeText exponent)
  exact sign.append ((solid_of_isDigit regular.isDigit_whole).append (fraction.append exponent))

/-! ## Texts and their tokens -/

/-- What follows ends the last word. -/
def Ends (rest : List Char) : Prop :=
  ∀ word, read (.word word) rest = flush word (tokens rest)

/-- Reading the characters gives the tokens, whatever ends the last word. -/
def Lexes (chars : List Char) (expected : List Token) : Prop :=
  ∀ rest, Ends rest → tokens (chars ++ rest) = expected ++ tokens rest

/-- A character separates what is before it from what is behind it. -/
def Separates (char : Char) (behind : List Char) : Prop :=
  char ∈ ['(', ')', ',', ' '] ∨
    char = '.' ∧ ∃ first rest, behind = first :: rest ∧ first.isDigit = false

theorem ends_nil : Ends [] := by
  intro word
  rw [tokens, read, read]
  rfl

theorem read_separator {char : Char} {behind : List Char} (separates : Separates char behind)
    (word rest : List Char) :
    read (.word word) (char :: behind ++ rest) =
      flush word (separator char ++ tokens (behind ++ rest)) := by
  have notQuote : char ≠ '"' := by
    rintro rfl
    simp [Separates] at separates
  have ends :
      ¬ (isSolid char || (char == '.' && (behind ++ rest).head?.any Char.isDigit)) = true := by
    rcases separates with listed | ⟨rfl, first, further, rfl, notDigit⟩
    · simp only [List.mem_cons, List.not_mem_nil, or_false] at listed
      rcases listed with rfl | rfl | rfl | rfl <;> simp [isSolid]
    · simp [isSolid, notDigit]
  rw [List.cons_append, read, if_neg ends, if_neg notQuote]
  rfl

theorem ends_separator {char : Char} {behind : List Char} (separates : Separates char behind)
    (rest : List Char) : Ends (char :: behind ++ rest) := by
  intro word
  rw [tokens, read_separator separates, read_separator separates]
  rfl

namespace Lexes

theorem nil : Lexes [] [] :=
  fun _ _ => rfl

theorem word {chars : List Char} (solid : Solid chars) (nonempty : chars ≠ []) :
    Lexes chars [.word chars] := by
  intro rest ends
  rw [tokens, solid, List.nil_append, ends, flush, if_neg (by simpa using nonempty)]
  rfl

theorem append {first second : List Char} {firstTokens secondTokens : List Token}
    (lexesFirst : Lexes first firstTokens) (ends : ∀ rest, Ends (second ++ rest))
    (lexesSecond : Lexes second secondTokens) :
    Lexes (first ++ second) (firstTokens ++ secondTokens) := by
  intro rest restEnds
  rw [List.append_assoc, lexesFirst _ (ends rest), lexesSecond rest restEnds, List.append_assoc]

theorem separated {first second : List Char} {firstTokens secondTokens : List Token} {char : Char}
    (lexesFirst : Lexes first firstTokens) (separates : Separates char second)
    (lexesSecond : Lexes second secondTokens) :
    Lexes (first ++ char :: second) (firstTokens ++ (separator char ++ secondTokens)) := by
  apply lexesFirst.append (ends_separator separates)
  intro rest ends
  rw [tokens, read_separator separates, lexesSecond rest ends, List.append_assoc]
  rfl

theorem parenthesized {chars : List Char} {inner : List Token} (lexes : Lexes chars inner) :
    Lexes ('(' :: chars ++ [')']) (.opening :: inner ++ [.closing]) := by
  have closed : Lexes (chars ++ ')' :: []) (inner ++ (separator ')' ++ [])) :=
    lexes.separated (.inl (by decide)) nil
  exact nil.separated (.inl (by decide)) closed

end Lexes

/-! ## Text constants -/

theorem read_quoted_constantChar (char : Char) (body rest : List Char) :
    read (.quoted body) (constantChar char ++ rest) =
      read (.quoted (body ++ constantChar char)) rest := by
  have backslash (escape : Char) (body rest : List Char) :
      read (.quoted body) ('\\' :: escape :: rest) =
        read (.quoted (body ++ ['\\', escape])) rest := by
    rw [read, if_neg (by decide), if_pos rfl, read, List.append_assoc, List.singleton_append]
  have plain {char : Char} (notQuote : char ≠ '"') (notBackslash : char ≠ '\\')
      (body rest : List Char) :
      read (.quoted body) (char :: rest) = read (.quoted (body ++ [char])) rest := by
    rw [read, if_neg notQuote, if_neg notBackslash]
  have digit {value : Nat} (small : value < 8) :
      Nat.digitChar value ≠ '"' ∧ Nat.digitChar value ≠ '\\' := by
    revert value
    decide
  rcases constantChar_cases char with ⟨form, notBackslash, notQuote, -⟩ | ⟨escape, form, -⟩ |
    ⟨form, small⟩
  · rw [form, List.singleton_append, plain notQuote notBackslash]
  · rw [form]
    exact backslash escape body rest
  · have middle := digit (Nat.mod_lt (char.toNat / 8) (by decide : 0 < 8))
    have low := digit (Nat.mod_lt char.toNat (by decide : 0 < 8))
    rw [form, octalDigits]
    simp only [List.cons_append, List.nil_append]
    rw [backslash, plain middle.1 middle.2, plain low.1 low.2]
    simp only [List.append_assoc, List.cons_append, List.nil_append]

theorem read_quoted_flatMap (chars body rest : List Char) :
    read (.quoted body) (chars.flatMap constantChar ++ rest) =
      read (.quoted (body ++ chars.flatMap constantChar)) rest := by
  induction chars generalizing body with
  | nil => rw [List.flatMap_nil, List.nil_append, List.append_nil]
  | cons char chars ih =>
      rw [List.flatMap_cons, List.append_assoc, read_quoted_constantChar, ih, List.append_assoc]

theorem lexes_textConstant (value : String) :
    Lexes (textConstant value).toList [.quoted (value.toList.flatMap constantChar)] := by
  intro rest _
  rw [textConstant, String.toList_ofList, List.cons_append, List.cons_append, List.append_assoc,
    tokens, read, if_neg (by simp [isSolid]), if_pos rfl, read_quoted_flatMap, List.nil_append,
    List.singleton_append, read, if_pos rfl]
  rfl

/-! ## The tokens of a tree -/

def literalToken (target : Target) : Literal → Token
  | .truth value => .word (literalChars target (.truth value))
  | .integer value => .word (literalChars target (.integer value))
  | .float value => .word (literalChars target (.float value))
  | .text value => .quoted (value.toList.flatMap constantChar)
  | .null => .word (literalChars target .null)

def operandTokens (operation : Bool) (inner : List Token) : List Token :=
  if operation then .opening :: inner ++ [.closing] else inner

/-- Tokens separated by commas. -/
def listedTokens : List (List Token) → List Token
  | [] => []
  | first :: rest => first ++ rest.flatMap (.comma :: ·)

def argumentTokens (arguments : List (List Token)) : List Token :=
  .opening :: listedTokens arguments ++ [.closing]

/-- The name of a static method, together with the type that owns it. -/
def staticTokens (target : Target) (owner method : List Char) : List Token :=
  match target with
  | .cpp => [.word (owner ++ ':' :: ':' :: method)]
  | .java => [.word owner, .dot, .word method]

def constructTokens (target : Target) (type : List Char) : List Token :=
  match target with
  | .cpp => [.word type]
  | .java => [.word "new".toList, .word type]

def fieldTokens (target : Target) (name : List Char) : List Token :=
  match target with
  | .cpp => [.word ("this->".toList ++ name)]
  | .java => [.word "this".toList, .dot, .word name]

mutual

def exprTokens (target : Target) : Expr → List Token
  | .literal value => [literalToken target value]
  | .param named => [.word named.name.toList]
  | .binary operator left right =>
    operandTokens (isOperation left) (exprTokens target left) ++
      .word ((target.symbol? operator).getD "").toList ::
      operandTokens (isOperation right) (exprTokens target right)
  | .assign assigned value =>
    exprTokens target assigned ++ .word ['='] :: exprTokens target value
  | .call receiver method arguments =>
    exprTokens target receiver ++ [.dot, .word method.name.toList] ++
      argumentTokens (exprsTokens target arguments)
  | .staticCall method arguments =>
    staticTokens target (typeChars target method.owner) method.name.toList ++
      argumentTokens (exprsTokens target arguments)
  | .construct type arguments =>
    constructTokens target (typeChars target type) ++
      argumentTokens (exprsTokens target arguments)
  | .field _ name => fieldTokens target name.toList

def exprsTokens (target : Target) : List Expr → List (List Token)
  | [] => []
  | first :: rest => exprTokens target first :: exprsTokens target rest

end

theorem exprsTokens_eq_map (target : Target) (values : List Expr) :
    exprsTokens target values = values.map (exprTokens target) := by
  induction values with
  | nil => rfl
  | cons value values ih => rw [exprsTokens, ih, List.map_cons]

theorem lexes_name {chars : List Char} (name : isName chars = true) :
    Lexes chars [.word chars] := by
  apply Lexes.word (solid_of_isName name)
  rintro rfl
  cases name

theorem separates_dot {chars : List Char} (name : isName chars = true) (rest : List Char) :
    Separates '.' (chars ++ rest) := by
  cases chars with
  | nil => cases name
  | cons first further =>
      rw [isName, Bool.and_eq_true, Bool.not_eq_true'] at name
      exact .inr ⟨rfl, first, further ++ rest, rfl, name.1⟩

theorem ne_nil_of_wordKind {chars : List Char} (notName : wordKind chars ≠ .name) :
    chars ≠ [] := by
  rintro rfl
  exact notName rfl

theorem solid_integerText (target : Target) (value : Int64) :
    Solid (target.integerText value).toList := by
  rw [toList_integerText]
  apply (solid_wholeText _).append
  apply solid_of_all
  rw [List.all_eq_true]
  intro char member
  rw [mem_longMark member]
  rfl

theorem solid_floatText {value : Binary64} (finite : value.isFinite = true) :
    Solid (FloatStyle.literal.text value).toList := by
  obtain ⟨numeral, regular, -, chars⟩ := exists_numeral_of_isFinite finite
  rw [chars]
  exact solid_numeral regular

theorem lexes_literal {target : Target} {value : Literal}
    (supported : (literal target value).obstacle = none) :
    Lexes (literalChars target value) [literalToken target value] := by
  cases value with
  | truth value => cases value <;> exact lexes_name rfl
  | integer value =>
      apply Lexes.word (solid_integerText target value)
      exact ne_nil_of_wordKind (by rw [wordKind_integerText]; decide)
  | float value =>
      have finite := isFinite_of_supported supported
      apply Lexes.word (solid_floatText finite)
      exact ne_nil_of_wordKind (by rw [wordKind_floatText finite]; decide)
  | text value => exact lexes_textConstant value
  | null => cases target <;> exact lexes_name rfl

theorem lexes_further {α : Type} {chars : α → List Char} {expected : α → List Token}
    {parts : List α} (member : ∀ part ∈ parts, Lexes (chars part) (expected part))
    {before : List Char} {earlier : List Token} (lexes : Lexes before earlier) :
    Lexes (before ++ (parts.map chars).flatMap (fun part => ',' :: ' ' :: part))
      (earlier ++ (parts.map expected).flatMap (.comma :: ·)) := by
  induction parts generalizing before earlier with
  | nil => simpa using lexes
  | cons part parts ih =>
      obtain ⟨first, rest⟩ := List.forall_mem_cons.mp member
      have spaced : Lexes (' ' :: chars part) (expected part) :=
        Lexes.nil.separated (.inl (by decide)) first
      have further := ih rest (lexes.separated (.inl (by decide : ',' ∈ _)) spaced)
      simpa [separator] using further

theorem lexes_arguments {α : Type} {chars : α → List Char} {expected : α → List Token}
    {parts : List α} (member : ∀ part ∈ parts, Lexes (chars part) (expected part)) :
    Lexes (parenthesizedChars (parts.map chars)) (argumentTokens (parts.map expected)) := by
  cases parts with
  | nil => exact Lexes.nil.parenthesized
  | cons part parts =>
      obtain ⟨first, rest⟩ := List.forall_mem_cons.mp member
      exact (lexes_further rest first).parenthesized

/-- Arguments in parentheses end the name in front of them. -/
theorem lexes_applied {head : List Char} {expected : List Token} (lexes : Lexes head expected)
    {target : Target} {arguments : List Expr}
    (member : ∀ argument ∈ arguments,
      Lexes (exprChars target argument) (exprTokens target argument)) :
    Lexes (head ++ parenthesizedChars (exprsChars target arguments))
      (expected ++ argumentTokens (exprsTokens target arguments)) := by
  have ends (parts : List (List Char)) (rest : List Char) :
      Ends (parenthesizedChars parts ++ rest) := by
    cases parts with
    | nil => exact ends_separator (.inl (by decide)) rest
    | cons part parts => exact ends_separator (.inl (by decide)) rest
  rw [exprsChars_eq_map, exprsTokens_eq_map]
  exact lexes.append (ends _) (lexes_arguments member)

theorem lexes_operand {chars : List Char} {inner : List Token} (lexes : Lexes chars inner)
    (operation : Bool) : Lexes (operandChars operation chars) (operandTokens operation inner) := by
  cases operation with
  | false => exact lexes
  | true => exact lexes.parenthesized

theorem lexes_symbol {target : Target} {operator : Operator} {symbol : String}
    (spelled : target.symbol? operator = some symbol) :
    Lexes symbol.toList [.word symbol.toList] := by
  have solid : symbol.toList.all isSolid = true ∧ symbol.toList ≠ [] := by
    cases target <;> cases operator <;> cases spelled <;> decide
  exact Lexes.word (solid_of_all solid.1) solid.2

/-- A word with spaces around it stands between two texts. -/
theorem Lexes.spaced {first middle second : List Char} {firstTokens secondTokens : List Token}
    (lexesFirst : Lexes first firstTokens) (lexesMiddle : Lexes middle [.word middle])
    (lexesSecond : Lexes second secondTokens) :
    Lexes (first ++ ' ' :: middle ++ ' ' :: second)
      (firstTokens ++ .word middle :: secondTokens) := by
  have space (behind : List Char) : Separates ' ' behind := .inl (by decide)
  have lexes := (lexesFirst.separated (space _) lexesMiddle).separated (space _) lexesSecond
  simpa [separator] using lexes

theorem Lexes.dotted {owner member : List Char} {ownerTokens : List Token}
    (lexes : Lexes owner ownerTokens) (name : isName member = true) :
    Lexes (owner ++ '.' :: member) (ownerTokens ++ [.dot, .word member]) := by
  have separates := separates_dot name []
  rw [List.append_nil] at separates
  exact lexes.separated separates (lexes_name name)

theorem lexes_static {target : Target} {owner method : List Char} (ownerName : isName owner = true)
    (methodName : isName method = true) :
    Lexes (owner ++ target.staticMark.toList ++ method) (staticTokens target owner method) := by
  cases target with
  | cpp =>
      have mark : Solid [':', ':'] := solid_of_all rfl
      have solid := (solid_of_isName ownerName).append (mark.append (solid_of_isName methodName))
      rw [List.append_assoc]
      exact Lexes.word solid (List.append_ne_nil_of_right_ne_nil owner (List.cons_ne_nil _ _))
  | java =>
      rw [List.append_assoc]
      exact (lexes_name ownerName).dotted methodName

theorem lexes_construct {target : Target} {type : List Char} (name : isName type = true) :
    Lexes (target.constructionMark.toList ++ type) (constructTokens target type) := by
  cases target with
  | cpp => exact lexes_name name
  | java =>
      have created : Lexes "new".toList [.word "new".toList] := lexes_name (by decide)
      exact created.separated (.inl (by decide : ' ' ∈ _)) (lexes_name name)

theorem lexes_field {target : Target} {name : List Char} (named : isName name = true) :
    Lexes (target.selfMark.toList ++ name) (fieldTokens target name) := by
  cases target with
  | cpp =>
      have mark : Solid ("this->".toList) := solid_of_all rfl
      exact Lexes.word (mark.append (solid_of_isName named)) (List.cons_ne_nil _ _)
  | java =>
      have self : Lexes "this".toList [.word "this".toList] := lexes_name (by decide)
      exact self.dotted named

/-- Reading the text of an expression gives its tokens. -/
theorem lexes_expr {target : Target} {value : Expr} (writable : value.Writable target) :
    Lexes (exprChars target value) (exprTokens target value) := by
  induction value using Expr.induction with
  | literal value => exact lexes_literal writable.2
  | param named => exact lexes_name (isIdentifier_iff.mp (Expr.writable_param writable)).1
  | binary operator left right leftIH rightIH =>
      obtain ⟨⟨symbol, spelled⟩, leftWritable, rightWritable⟩ := Expr.writable_binary.mp writable
      rw [exprChars, exprTokens, spelled]
      exact (lexes_operand (leftIH leftWritable) (isOperation left)).spaced (lexes_symbol spelled)
        (lexes_operand (rightIH rightWritable) (isOperation right))
  | assign assigned value assignedIH valueIH =>
      obtain ⟨assignedWritable, valueWritable⟩ := Expr.writable_assign.mp writable
      have equals : Lexes ['='] [.word ['=']] :=
        Lexes.word (solid_of_all rfl) (List.cons_ne_nil _ _)
      have lexes := (assignedIH assignedWritable).spaced equals (valueIH valueWritable)
      rw [List.append_assoc] at lexes
      rw [exprChars, exprTokens, List.append_assoc]
      exact lexes
  | call receiver method arguments receiverIH argumentsIH =>
      obtain ⟨receiverWritable, identifier, argumentsWritable⟩ := Expr.writable_call.mp writable
      rw [exprChars, exprTokens]
      apply lexes_applied ((receiverIH receiverWritable).dotted (isIdentifier_iff.mp identifier).1)
      exact fun argument member => argumentsIH argument member (argumentsWritable argument member)
  | staticCall method arguments argumentsIH =>
      obtain ⟨owner, identifier, argumentsWritable⟩ := Expr.writable_staticCall.mp writable
      rw [exprChars, exprTokens]
      apply lexes_applied (lexes_static (isIdentifier_iff.mp owner.isIdentifier).1
        (isIdentifier_iff.mp identifier).1)
      exact fun argument member => argumentsIH argument member (argumentsWritable argument member)
  | construct type arguments argumentsIH =>
      obtain ⟨constructed, argumentsWritable⟩ := Expr.writable_construct.mp writable
      rw [exprChars, exprTokens]
      apply lexes_applied (lexes_construct (isIdentifier_iff.mp constructed.isIdentifier).1)
      exact fun argument member => argumentsIH argument member (argumentsWritable argument member)
  | field type name => exact lexes_field (isIdentifier_iff.mp (Expr.writable_field writable)).1

theorem tokens_exprChars {target : Target} {value : Expr} (writable : value.Writable target) :
    tokens (exprChars target value) = exprTokens target value := by
  have read := lexes_expr writable [] ends_nil
  rwa [List.append_nil, show tokens [] = [] from rfl, List.append_nil] at read

end Sourcewright.Emission
