import Mathlib.Data.List.DropRight
import Sourcewright.Proofs.Document.Scalars

/-!
# Skipping well-formed values

A member that a record does not know is skipped, whatever its value is.  Here well-formed
values are given by a grammar, with space wherever it may stand.  Brackets nest as deep as they
like, numbers are of any size, and codes in texts need not form characters.

Main statement: a well-formed value is skipped up to its end, whatever brackets are open
around it.
-/

namespace Sourcewright.Document

/-! ## Space -/

/-- A text of space only. -/
def Spaces (text : List Char) : Prop :=
  ∀ char ∈ text, char ∈ [' ', '\n', '\t', '\r']

instance (text : List Char) : Decidable (Spaces text) :=
  List.decidableBAll (fun char => char ∈ [' ', '\n', '\t', '\r']) text

namespace Spaces

theorem nil : Spaces [] :=
  nofun

theorem isSpace_of_mem {spaces : List Char} (blank : Spaces spaces) {char : Char}
    (member : char ∈ spaces) : isSpace char = true := by
  have known := blank char member
  simp only [List.mem_cons, List.not_mem_nil, or_false] at known
  rcases known with rfl | rfl | rfl | rfl <;> rfl

end Spaces

theorem skipSpace_append {spaces : List Char} (blank : Spaces spaces) (rest : List Char) :
    skipSpace (spaces ++ rest) = skipSpace rest :=
  List.dropWhile_append_of_pos fun _ member => blank.isSpace_of_mem member

theorem skipSpace_cons {char : Char} (visible : isSpace char = false) (rest : List Char) :
    skipSpace (char :: rest) = char :: rest :=
  List.dropWhile_cons_of_neg (by simp [visible])

theorem skipSpace_append_of_starts {text further : List Char} {first : Char}
    (starts : skipSpace text = first :: further) (rest : List Char) :
    skipSpace (text ++ rest) = skipSpace text ++ rest := by
  have nonempty : (text.dropWhile isSpace).isEmpty = false := by
    rw [← skipSpace, starts]
    rfl
  rw [skipSpace, List.dropWhile_append, nonempty]
  rfl

theorem skipSpace_skipSpace (text : List Char) : skipSpace (skipSpace text) = skipSpace text :=
  List.dropWhile_idempotent isSpace text

theorem Ends.append {spaces rest : List Char} (blank : Spaces spaces) (ends : Ends rest) :
    Ends (spaces ++ rest) := by
  cases spaces with
  | nil => exact ends
  | cons char spaces =>
      rintro _ ⟨⟩
      exact .inl (blank.isSpace_of_mem List.mem_cons_self)

/-- A text between spaces. -/
structure Padded where
  before : List Char
  body : List Char
  after : List Char
  blankBefore : Spaces before
  blankAfter : Spaces after

def Padded.chars (padded : Padded) : List Char :=
  padded.before ++ (padded.body ++ padded.after)

/-- A text starts with something that neither is space nor closes a bracket. -/
def StartsValue (text : List Char) : Prop :=
  ∃ first rest, text = first :: rest ∧ isSpace first = false ∧ first ≠ ']' ∧ first ≠ '\x7d'

theorem Padded.skipSpace_chars {padded : Padded} (starts : StartsValue padded.body)
    (rest : List Char) :
    skipSpace (padded.chars ++ rest) = padded.body ++ (padded.after ++ rest) := by
  obtain ⟨first, further, body, visible, -⟩ := starts
  rw [chars, List.append_assoc, skipSpace_append padded.blankBefore, List.append_assoc, body,
    List.cons_append, skipSpace_cons visible]

/-- Parts with a comma in front of each. -/
def furtherParts (parts : List (List Char)) : List Char :=
  parts.flatMap (',' :: ·)

theorem furtherParts_cons (part : List Char) (parts : List (List Char)) (rest : List Char) :
    furtherParts (part :: parts) ++ rest = ',' :: (part ++ (furtherParts parts ++ rest)) := by
  simp [furtherParts]

/-- Parts with a comma between each two. -/
def separated : List (List Char) → List Char
  | [] => []
  | part :: parts => part ++ furtherParts parts

/-- A key in quotation marks and a value, with a colon between them. -/
structure Entry where
  key : Padded
  value : Padded

def Entry.chars (entry : Entry) : List Char :=
  entry.key.before ++ ('"' :: (entry.key.body ++
    '"' :: (entry.key.after ++ ':' :: entry.value.chars)))

/-! ## The grammar -/

/-- The characters that may follow a backslash, each with what it stands for then. -/
def textEscapes : List (Char × Char) :=
  [('"', '"'), ('\\', '\\'), ('/', '/'), ('b', '\x08'), ('f', '\x0c'), ('n', '\n'),
    ('r', '\r'), ('t', '\t')]

def hexDigits : List Char :=
  "0123456789abcdefABCDEF".toList

/-- What stands between the quotation marks of a text. -/
inductive WellFormedText : List Char → Prop
  | nil : WellFormedText []
  | plain {char : Char} {rest : List Char} (notQuote : char ≠ '"') (notBackslash : char ≠ '\\')
      (notControl : ¬ char.toNat < 0x20) (further : WellFormedText rest) :
      WellFormedText (char :: rest)
  | escape {mark meaning : Char} {rest : List Char} (known : (mark, meaning) ∈ textEscapes)
      (further : WellFormedText rest) : WellFormedText ('\\' :: mark :: rest)
  | code {first second third fourth : Char} {rest : List Char}
      (digits : [first, second, third, fourth] ⊆ hexDigits) (further : WellFormedText rest) :
      WellFormedText ('\\' :: 'u' :: first :: second :: third :: fourth :: rest)

/-- One digit or more. -/
def Digits (text : List Char) : Prop :=
  text ≠ [] ∧ ∀ char ∈ text, char.isDigit = true

/-- The digits in front of the point of a number; only the number zero starts with a zero. -/
inductive WholePart : List Char → Prop
  | zero : WholePart ['0']
  | digits {first : Char} {rest : List Char} (notZero : first ≠ '0')
      (digits : Digits (first :: rest)) : WholePart (first :: rest)

inductive FractionPart : List Char → Prop
  | absent : FractionPart []
  | present {text : List Char} (digits : Digits text) : FractionPart ('.' :: text)

inductive ExponentPart : List Char → Prop
  | absent : ExponentPart []
  | present {mark : Char} {sign text : List Char} (marks : mark ∈ ['e', 'E'])
      (signed : sign ∈ [[], ['+'], ['-']]) (digits : Digits text) :
      ExponentPart (mark :: (sign ++ text))

inductive WellFormed : List Char → Prop
  | word {word : String} (known : word ∈ ["null", "true", "false"]) : WellFormed word.toList
  | number {sign whole fraction exponent : List Char} (signed : sign ∈ [[], ['-']])
      (isWhole : WholePart whole) (isFraction : FractionPart fraction)
      (isExponent : ExponentPart exponent) :
      WellFormed (sign ++ (whole ++ (fraction ++ exponent)))
  | text {body : List Char} (isText : WellFormedText body) : WellFormed ('"' :: (body ++ ['"']))
  | list {blanks : List Char} {items : List Padded} (blank : Spaces blanks)
      (wellFormed : ∀ item ∈ items, WellFormed item.body) :
      WellFormed ('[' :: (blanks ++ (separated (items.map Padded.chars) ++ [']'])))
  | object {blanks : List Char} {entries : List Entry} (blank : Spaces blanks)
      (keys : ∀ entry ∈ entries, WellFormedText entry.key.body)
      (wellFormed : ∀ entry ∈ entries, WellFormed entry.value.body) :
      WellFormed ('\x7b' :: (blanks ++ (separated (entries.map Entry.chars) ++ ['\x7d'])))

/-! ## Texts and numbers -/

theorem simpleEscape?_of_mem {mark meaning : Char} (known : (mark, meaning) ∈ textEscapes) :
    simpleEscape? mark = some meaning := by
  simp only [textEscapes, List.mem_cons, Prod.mk.injEq, List.not_mem_nil, or_false] at known
  rcases known with ⟨rfl, rfl⟩ | ⟨rfl, rfl⟩ | ⟨rfl, rfl⟩ | ⟨rfl, rfl⟩ | ⟨rfl, rfl⟩ |
    ⟨rfl, rfl⟩ | ⟨rfl, rfl⟩ | ⟨rfl, rfl⟩ <;> rfl

theorem skipText_backslash {escape rest : List Char} (skipped : skipEscape escape = .ok rest) :
    skipText ('\\' :: escape) = skipText rest := by
  rw [skipText, if_neg (by decide), if_pos rfl]
  split
  case h_1 fault failed => cases skipped.symm.trans failed
  case h_2 after succeeded =>
    cases skipped.symm.trans succeeded
    rfl

theorem hexValue?_of_mem {char : Char} (member : char ∈ hexDigits) :
    ∃ value, hexValue? char = some value := by
  have all : hexDigits.all (fun char => (hexValue? char).isSome) = true := by decide
  exact Option.isSome_iff_exists.mp (List.all_eq_true.mp all char member)

theorem hexQuad?_of_subset {first second third fourth : Char}
    (digits : [first, second, third, fourth] ⊆ hexDigits) :
    ∃ value, hexQuad? first second third fourth = some value := by
  obtain ⟨firstValue, isFirst⟩ := hexValue?_of_mem (digits (show first ∈ _ by simp))
  obtain ⟨secondValue, isSecond⟩ := hexValue?_of_mem (digits (show second ∈ _ by simp))
  obtain ⟨thirdValue, isThird⟩ := hexValue?_of_mem (digits (show third ∈ _ by simp))
  obtain ⟨fourthValue, isFourth⟩ := hexValue?_of_mem (digits (show fourth ∈ _ by simp))
  simp [hexQuad?, isFirst, isSecond, isThird, isFourth]

theorem WellFormedText.skipText {body : List Char} (isText : WellFormedText body)
    (rest : List Char) : skipText (body ++ '"' :: rest) = .ok rest := by
  induction isText with
  | nil => rw [List.nil_append, Document.skipText, if_pos rfl]
  | plain notQuote notBackslash notControl _ ih =>
      rw [List.cons_append, Document.skipText, if_neg notQuote, if_neg notBackslash,
        if_neg notControl, ih]
  | @escape mark meaning further known _ ih =>
      have skipped : skipEscape (mark :: (further ++ '"' :: rest)) =
          .ok (further ++ '"' :: rest) := by
        rw [skipEscape, simpleEscape?_of_mem known]
      exact (skipText_backslash skipped).trans ih
  | @code first second third fourth further digits _ ih =>
      obtain ⟨value, digits⟩ := hexQuad?_of_subset digits
      have skipped : skipEscape ('u' :: first :: second :: third :: fourth ::
          (further ++ '"' :: rest)) = .ok (further ++ '"' :: rest) := by
        have scanned : scanHexQuad (first :: second :: third :: fourth ::
            (further ++ '"' :: rest)) = .ok (value, further ++ '"' :: rest) := by
          rw [scanHexQuad, digits]
        simp only [skipEscape, simpleEscape?, scanned]
        rfl
      exact (skipText_backslash skipped).trans ih

theorem Digits.isDigit_of_mem {text : List Char} (digits : Digits text) {char : Char}
    (member : char ∈ text) : isDigit char = true := by
  rw [isDigit_eq]
  exact digits.2 char member

theorem Digits.dropWhile {text rest : List Char} (digits : Digits text)
    (noDigit : rest.head?.any isDigit = false) : (text ++ rest).dropWhile isDigit = rest := by
  rw [List.dropWhile_append_of_pos fun _ member => digits.isDigit_of_mem member]
  cases rest with
  | nil => rfl
  | cons char rest => exact List.dropWhile_cons_of_neg (by simpa using noDigit)

theorem Digits.head {text : List Char} (digits : Digits text) (rest : List Char) :
    (text ++ rest).head?.any isDigit = true := by
  obtain ⟨first, further, rfl⟩ := List.exists_cons_of_ne_nil digits.1
  exact digits.isDigit_of_mem List.mem_cons_self

theorem dropSign_of_digits {text : List Char} (digits : Digits text) {sign : List Char}
    (signed : sign ∈ [[], ['+'], ['-']]) (rest : List Char) :
    dropSign (sign ++ (text ++ rest)) = text ++ rest := by
  simp only [List.mem_cons, List.not_mem_nil, or_false] at signed
  rcases signed with rfl | rfl | rfl
  · have head := digits.head rest
    rw [List.nil_append]
    rw [dropSign]
    · intro further starts
      rw [starts] at head
      exact absurd head (show ¬ isDigit '+' = true by decide)
    · intro further starts
      rw [starts] at head
      exact absurd head (show ¬ isDigit '-' = true by decide)
  · rfl
  · rfl

theorem ExponentPart.skip {exponent rest : List Char} (isExponent : ExponentPart exponent)
    (ends : Ends rest) :
    skipOptionalExponent (exponent ++ rest) = .ok rest ∧
      (exponent ++ rest).head?.any isDigit = false ∧ (exponent ++ rest).head? ≠ some '.' := by
  obtain ⟨noDigit, noExponent, noPoint⟩ := ends.not_continues
  cases isExponent with
  | absent =>
      refine ⟨?_, noDigit, noPoint⟩
      cases rest with
      | nil => rfl
      | cons char rest =>
          have unmarked : ¬ isExponentMark char = true := by simpa using noExponent
          rw [List.nil_append, skipOptionalExponent, if_neg unmarked]
  | @present mark sign text marks signed digits =>
      have skipped : skipExponent (sign ++ text ++ rest) = .ok rest := by
        rw [List.append_assoc, skipExponent, dropSign_of_digits digits signed,
          digits.head rest, digits.dropWhile noDigit]
        rfl
      simp only [List.mem_cons, List.not_mem_nil, or_false] at marks
      rcases marks with rfl | rfl
      · exact ⟨skipped, rfl, by simp⟩
      · exact ⟨skipped, rfl, by simp⟩

theorem FractionPart.skip {fraction exponent rest : List Char}
    (isFraction : FractionPart fraction) (isExponent : ExponentPart exponent)
    (ends : Ends rest) :
    skipFraction (fraction ++ (exponent ++ rest)) = .ok rest ∧
      (fraction ++ (exponent ++ rest)).head?.any isDigit = false := by
  obtain ⟨skipped, noDigit, noPoint⟩ := isExponent.skip ends
  cases isFraction with
  | absent =>
      refine ⟨?_, noDigit⟩
      rw [List.nil_append, skipFraction]
      · exact skipped
      · intro further starts
        rw [starts] at noPoint
        exact absurd rfl noPoint
  | present digits =>
      refine ⟨?_, rfl⟩
      rw [List.cons_append, skipFraction, digits.head, digits.dropWhile noDigit, skipped]
      rfl

theorem WholePart.skip {whole fraction exponent rest : List Char} (isWhole : WholePart whole)
    (isFraction : FractionPart fraction) (isExponent : ExponentPart exponent)
    (ends : Ends rest) :
    skipMagnitude (whole ++ (fraction ++ (exponent ++ rest))) = .ok rest := by
  obtain ⟨skipped, noDigit⟩ := isFraction.skip isExponent ends
  cases isWhole with
  | zero =>
      rw [List.singleton_append, skipMagnitude, if_pos rfl, noDigit, if_neg Bool.false_ne_true,
        skipped]
  | @digits first further notZero digits =>
      have behind := digits.dropWhile noDigit
      have firstDigit : isDigit first = true := digits.isDigit_of_mem List.mem_cons_self
      rw [List.cons_append, List.dropWhile_cons_of_pos firstDigit] at behind
      rw [List.cons_append, skipMagnitude, if_neg notZero, if_pos firstDigit, behind, skipped]

theorem WholePart.eq_cons {whole : List Char} (isWhole : WholePart whole) :
    ∃ first further, whole = first :: further ∧ isDigit first = true := by
  cases isWhole with
  | zero => exact ⟨'0', [], rfl, rfl⟩
  | digits notZero digits => exact ⟨_, _, rfl, digits.isDigit_of_mem List.mem_cons_self⟩

theorem ne_of_isDigit {digit char : Char} (isDigit : isDigit digit = true)
    (notDigit : Document.isDigit char = false) : digit ≠ char := by
  rintro rfl
  rw [isDigit] at notDigit
  cases notDigit

theorem skipScalar_number {sign whole fraction exponent rest : List Char}
    (signed : sign ∈ [[], ['-']]) (isWhole : WholePart whole)
    (isFraction : FractionPart fraction) (isExponent : ExponentPart exponent)
    (ends : Ends rest) :
    skipScalar (sign ++ (whole ++ (fraction ++ exponent)) ++ rest) = .ok rest := by
  have skipped := isWhole.skip isFraction isExponent ends
  simp only [List.append_assoc]
  simp only [List.mem_cons, List.not_mem_nil, or_false] at signed
  rcases signed with rfl | rfl
  · obtain ⟨first, further, rfl, digit⟩ := isWhole.eq_cons
    rw [List.nil_append, List.cons_append, skipScalar, if_neg (ne_of_isDigit digit rfl),
      if_neg (ne_of_isDigit digit rfl), if_neg (ne_of_isDigit digit rfl),
      if_neg (ne_of_isDigit digit rfl), if_neg (ne_of_isDigit digit rfl), if_pos digit]
    exact skipped
  · exact skipped

/-! ## One step of skipping -/

section Steps

variable {brackets : List Bracket} {bracket : Bracket} {text rest after : List Char}
  {first next : Char}

/-- What is done where a value is next. -/
theorem skipOpen_value (start : skipSpace text = first :: rest) :
    skipOpen brackets true text =
      match opening? first with
      | none => skipScalar (first :: rest) >>= skipOpen brackets false
      | some bracket =>
        match skipSpace rest with
        | [] => .error (faultAhead bracket.endCause [])
        | next :: after =>
          if next = bracket.closing then
            skipOpen brackets false after
          else
            skipToValue bracket (next :: after) >>= skipOpen (bracket :: brackets) true := by
  -- Each match keeps what it matched for the sake of termination, and has to be split.
  rw [skipOpen]
  split
  case h_1 empty => cases start.symm.trans empty
  case h_2 found further same =>
    cases start.symm.trans same
    cases opening? first with
    | none =>
        dsimp only
        split
        case h_1 fault failed => rw [failed]; rfl
        case h_2 after skipped => rw [skipped]; rfl
    | some bracket =>
        dsimp only
        split
        case h_1 empty => rw [empty]
        case h_2 next after inner =>
          rw [inner]
          by_cases closes : next = bracket.closing
          · simp only [closes, if_true]
          · simp only [closes, if_false]
            split
            case h_1 fault failed => rw [failed]; rfl
            case h_2 ready skipped => rw [skipped]; rfl

/-- What is done where a value has ended in a bracket. -/
theorem skipOpen_behind (start : skipSpace text = first :: rest) :
    skipOpen (bracket :: brackets) false text =
      if first = ',' then
        skipToValue bracket rest >>= skipOpen (bracket :: brackets) true
      else if first = bracket.closing then
        skipOpen brackets false rest
      else
        .error (faultAhead bracket.separatorCause (first :: rest)) := by
  rw [skipOpen]
  split
  case h_1 empty => cases start.symm.trans empty
  case h_2 found further same =>
    cases start.symm.trans same
    by_cases comma : first = ','
    · simp only [comma, if_true]
      split
      case h_1 fault failed => rw [failed]; rfl
      case h_2 ready skipped => rw [skipped]; rfl
    · simp only [comma, if_false]

theorem skipOpen_scalar (start : skipSpace text = first :: rest)
    (plain : opening? first = none) (skipped : skipScalar (first :: rest) = .ok after) :
    skipOpen brackets true text = skipOpen brackets false after := by
  rw [skipOpen_value start, plain]
  simp only [skipped, bind, Except.bind]

/-- A bracket is opened, and what stands behind it is looked at. -/
theorem skipOpen_bracket (start : skipSpace text = first :: rest)
    (opens : opening? first = some bracket) (inner : skipSpace rest = next :: after) :
    skipOpen brackets true text =
      if next = bracket.closing then
        skipOpen brackets false after
      else
        skipToValue bracket (next :: after) >>= skipOpen (bracket :: brackets) true := by
  rw [skipOpen_value start, opens]
  simp only [inner]

theorem skipOpen_comma (start : skipSpace text = ',' :: rest) :
    skipOpen (bracket :: brackets) false text =
      skipToValue bracket rest >>= skipOpen (bracket :: brackets) true := by
  rw [skipOpen_behind start, if_pos rfl]

theorem skipOpen_closing (start : skipSpace text = bracket.closing :: rest) :
    skipOpen (bracket :: brackets) false text = skipOpen brackets false rest := by
  have notComma : bracket.closing ≠ ',' := by cases bracket <;> decide
  rw [skipOpen_behind start, if_neg notComma, if_pos rfl]

end Steps

/-! ## Parts of brackets -/

/-- A part of a bracket starts with something that does not close the bracket, and it is
skipped up to the space behind it, wherever in the space before it skipping starts. -/
structure Bracket.Skips (bracket : Bracket) (part : List Char) : Prop where
  starts : ∃ first further, skipSpace part = first :: further ∧ first ≠ bracket.closing
  skips : ∀ {outer : List Bracket} {input rest : List Char},
    skipSpace input = skipSpace part ++ rest → Ends rest →
      ∃ spaces, Spaces spaces ∧
        skipToValue bracket input >>= skipOpen (bracket :: outer) true =
          skipOpen (bracket :: outer) false (spaces ++ rest)

theorem ends_furtherParts (bracket : Bracket) (parts : List (List Char)) (rest : List Char) :
    Ends (furtherParts parts ++ bracket.closing :: rest) := by
  cases parts with
  | nil =>
      refine .cons ?_ rest
      cases bracket <;> decide
  | cons part parts => exact .cons (by decide) _

theorem skipOpen_furtherParts {bracket : Bracket} {parts : List (List Char)}
    (skips : ∀ part ∈ parts, bracket.Skips part) {spaces : List Char} (blank : Spaces spaces)
    (outer : List Bracket) (rest : List Char) :
    skipOpen (bracket :: outer) false
        (spaces ++ (furtherParts parts ++ bracket.closing :: rest)) =
      skipOpen outer false rest := by
  induction parts generalizing spaces with
  | nil =>
      refine skipOpen_closing ?_
      rw [skipSpace_append blank]
      cases bracket <;> rfl
  | cons part parts ih =>
      obtain ⟨partSkips, partsSkip⟩ := List.forall_mem_cons.mp skips
      obtain ⟨first, further, starts, -⟩ := partSkips.starts
      have comma : skipSpace (spaces ++ (furtherParts (part :: parts) ++ bracket.closing :: rest)) =
          ',' :: (part ++ (furtherParts parts ++ bracket.closing :: rest)) := by
        rw [furtherParts_cons]
        exact skipSpace_append blank _
      obtain ⟨between, blankBetween, skipped⟩ := partSkips.skips
        (skipSpace_append_of_starts starts _) (ends_furtherParts bracket parts rest)
      rw [skipOpen_comma comma, skipped, ih partsSkip blankBetween]

/-- A bracket is skipped if its parts are. -/
theorem skipOpen_parts {bracket : Bracket} {opening : Char}
    (opens : opening? opening = some bracket) {parts : List (List Char)}
    (skips : ∀ part ∈ parts, bracket.Skips part) {blanks : List Char} (blank : Spaces blanks)
    {brackets : List Bracket} {input rest : List Char}
    (start : skipSpace input =
      opening :: (blanks ++ (separated parts ++ bracket.closing :: rest))) :
    skipOpen brackets true input = skipOpen brackets false rest := by
  cases parts with
  | nil =>
      have inner : skipSpace (blanks ++ (separated [] ++ bracket.closing :: rest)) =
          bracket.closing :: rest := by
        rw [skipSpace_append blank]
        cases bracket <;> rfl
      rw [skipOpen_bracket start opens inner, if_pos rfl]
  | cons part parts =>
      obtain ⟨partSkips, partsSkip⟩ := List.forall_mem_cons.mp skips
      obtain ⟨first, further, starts, notClosing⟩ := partSkips.starts
      have inner : skipSpace (blanks ++ (separated (part :: parts) ++ bracket.closing :: rest)) =
          skipSpace part ++ (furtherParts parts ++ bracket.closing :: rest) := by
        rw [skipSpace_append blank, separated, List.append_assoc,
          skipSpace_append_of_starts starts]
      have visible := inner
      rw [starts, List.cons_append] at visible
      have ready : skipSpace (first :: (further ++ (furtherParts parts ++
          bracket.closing :: rest))) =
          skipSpace part ++ (furtherParts parts ++ bracket.closing :: rest) := by
        rw [← visible, skipSpace_skipSpace, inner]
      obtain ⟨between, blankBetween, skipped⟩ := partSkips.skips ready
        (ends_furtherParts bracket parts rest)
      rw [skipOpen_bracket start opens visible, if_neg notClosing, skipped,
        skipOpen_furtherParts partsSkip blankBetween]

/-! ## Well-formed values -/

theorem number_eq_cons {sign whole : List Char} (signed : sign ∈ [[], ['-']])
    (isWhole : WholePart whole) (behind : List Char) :
    ∃ first further, sign ++ (whole ++ behind) = first :: further ∧
      isSpace first = false ∧ first ≠ ']' ∧ first ≠ '\x7d' ∧ opening? first = none := by
  simp only [List.mem_cons, List.not_mem_nil, or_false] at signed
  rcases signed with rfl | rfl
  · obtain ⟨first, further, rfl, digit⟩ := isWhole.eq_cons
    refine ⟨first, further ++ behind, rfl, (not_isSpace_of_isDigit digit).1,
      ne_of_isDigit digit rfl, ne_of_isDigit digit rfl, ?_⟩
    rw [opening?, if_neg (ne_of_isDigit digit rfl), if_neg (ne_of_isDigit digit rfl)]
  · exact ⟨'-', whole ++ behind, rfl, by decide⟩

theorem WellFormed.startsValue {text : List Char} (wellFormed : WellFormed text) :
    StartsValue text := by
  cases wellFormed with
  | word known =>
      simp only [List.mem_cons, List.not_mem_nil, or_false] at known
      rcases known with rfl | rfl | rfl <;> exact ⟨_, _, rfl, by decide⟩
  | number signed isWhole isFraction isExponent =>
      obtain ⟨first, further, chars, visible, notList, notObject, -⟩ :=
        number_eq_cons signed isWhole _
      exact ⟨first, further, chars, visible, notList, notObject⟩
  | text isText => exact ⟨_, _, rfl, by decide⟩
  | list blank wellFormed => exact ⟨_, _, rfl, by decide⟩
  | object blank keys wellFormed => exact ⟨_, _, rfl, by decide⟩

/-- A value is skipped, wherever in the space before it skipping starts. -/
def Skipped (text : List Char) : Prop :=
  ∀ {brackets : List Bracket} {input rest : List Char},
    skipSpace input = text ++ rest → Ends rest →
      skipOpen brackets true input = skipOpen brackets false rest

theorem Padded.skips {item : Padded} (starts : StartsValue item.body)
    (skipped : Skipped item.body) : Bracket.list.Skips item.chars := by
  have start := item.skipSpace_chars starts []
  rw [List.append_nil, List.append_nil] at start
  obtain ⟨first, further, body, -, notClosing, -⟩ := starts
  refine ⟨⟨first, further ++ item.after, ?_, notClosing⟩, fun inputStart ends => ?_⟩
  · rw [start, body, List.cons_append]
  · refine ⟨item.after, item.blankAfter, ?_⟩
    rw [start, List.append_assoc] at inputStart
    exact skipped inputStart (ends.append item.blankAfter)

theorem Entry.skipSpace_chars (entry : Entry) (rest : List Char) :
    skipSpace (entry.chars ++ rest) = '"' :: (entry.key.body ++
      '"' :: (entry.key.after ++ ':' :: (entry.value.chars ++ rest))) := by
  rw [chars, List.append_assoc, skipSpace_append entry.key.blankBefore]
  simp [skipSpace, isSpace]

theorem scanColon_append {spaces : List Char} (blank : Spaces spaces) (rest : List Char) :
    scanColon (spaces ++ ':' :: rest) = .ok rest := by
  have start : skipSpace (spaces ++ ':' :: rest) = ':' :: rest := skipSpace_append blank _
  simp only [scanColon, start]

theorem Entry.skips {entry : Entry} (isText : WellFormedText entry.key.body)
    (starts : StartsValue entry.value.body) (skipped : Skipped entry.value.body) :
    Bracket.object.Skips entry.chars := by
  have start := entry.skipSpace_chars []
  rw [List.append_nil, List.append_nil] at start
  refine ⟨⟨_, _, start, by decide⟩, fun {outer input rest} inputStart ends => ?_⟩
  refine ⟨entry.value.after, entry.value.blankAfter, ?_⟩
  have ready : skipToValue .object input = .ok (entry.value.chars ++ rest) := by
    have keyStart : skipSpace input = '"' :: (entry.key.body ++
        '"' :: (entry.key.after ++ ':' :: (entry.value.chars ++ rest))) := by
      rw [inputStart, start]
      simp
    simp only [skipToValue, skipKey, keyStart, isText.skipText,
      scanColon_append entry.key.blankAfter]
  rw [ready]
  exact skipped (entry.value.skipSpace_chars starts rest) (ends.append entry.value.blankAfter)

/-- Well-formed values are skipped. -/
theorem WellFormed.skipped {text : List Char} (wellFormed : WellFormed text) : Skipped text := by
  intro brackets input rest start ends
  -- What is open around a value does not matter, so that values inside of it are skipped, too.
  induction wellFormed generalizing brackets input rest with
  | word known =>
      simp only [List.mem_cons, List.not_mem_nil, or_false] at known
      rcases known with rfl | rfl | rfl
      · exact skipOpen_scalar start rfl (scanLetters_append "ull".toList rest)
      · exact skipOpen_scalar start rfl (scanLetters_append "rue".toList rest)
      · exact skipOpen_scalar start rfl (scanLetters_append "alse".toList rest)
  | number signed isWhole isFraction isExponent =>
      have skipped := skipScalar_number signed isWhole isFraction isExponent ends
      obtain ⟨first, further, chars, -, -, -, plain⟩ := number_eq_cons signed isWhole _
      rw [chars, List.cons_append] at start skipped
      exact skipOpen_scalar start plain skipped
  | text isText =>
      rw [List.cons_append, List.append_assoc] at start
      exact skipOpen_scalar start rfl (isText.skipText rest)
  | list blank wellFormed ih =>
      have opens : opening? '[' = some .list := rfl
      rw [List.cons_append, List.append_assoc, List.append_assoc] at start
      refine skipOpen_parts opens (List.forall_mem_map.mpr fun item member => ?_) blank start
      exact item.skips (wellFormed item member).startsValue (ih item member)
  | object blank keys wellFormed ih =>
      have opens : opening? '\x7b' = some .object := rfl
      rw [List.cons_append, List.append_assoc, List.append_assoc] at start
      refine skipOpen_parts opens (List.forall_mem_map.mpr fun entry member => ?_) blank start
      exact entry.skips (keys entry member) (wellFormed entry member).startsValue
        (ih entry member)

theorem WellFormed.skipValue {value : Padded} (wellFormed : WellFormed value.body)
    {rest : List Char} (ends : Ends rest) :
    skipValue (value.chars ++ rest) = .ok (value.after ++ rest) := by
  have start := value.skipSpace_chars wellFormed.startsValue rest
  rw [Document.skipValue, wellFormed.skipped start (ends.append value.blankAfter), skipOpen]

end Sourcewright.Document
