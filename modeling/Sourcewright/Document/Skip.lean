import Sourcewright.Document.Scan

/-!
# Skipping values

Members of a record that the schema does not know are skipped.  A skipped value is
checked for its form only: numbers may be of any size, codes in texts need not form
characters, and brackets may nest as deep as they like.

The brackets that are still open are kept in a list, so skipping is one loop over
the text.
-/

namespace Sourcewright.Document

/-- The brackets that values are nested in. -/
inductive Bracket where
  | list
  | object
deriving DecidableEq

def skipEscape : List Char → Except Fault (List Char)
  | [] => .error (faultHere .endInText [])
  | char :: rest =>
    match simpleEscape? char with
    | some _ => .ok rest
    | none =>
      if char = 'u' then
        match scanHexQuad rest with
        | .error fault => .error fault
        | .ok (_, afterCode) => .ok afterCode
      else
        .error (faultAhead .invalidEscape (char :: rest))

theorem skipEscape_length {text rest : List Char} (skipped : skipEscape text = .ok rest) :
    rest.length < text.length := by
  revert skipped
  fun_cases skipEscape text with
  | case1 => rintro ⟨⟩
  | case2 mark after meaning simple =>
    rintro ⟨⟩
    simp
  | case3 => rintro ⟨⟩
  | case4 after code afterCode scanned =>
    rintro ⟨⟩
    have shorter := scanHexQuad_length scanned
    simp only [List.length_cons]
    omega
  | case5 => rintro ⟨⟩

/-- Skip the rest of a text, behind its opening quotation mark. -/
def skipText (text : List Char) : Except Fault (List Char) :=
  match text with
  | [] => .error (faultHere .endInText [])
  | char :: rest =>
    if char = '"' then
      .ok rest
    else if char = '\\' then
      match _skipped : skipEscape rest with
      | .error fault => .error fault
      | .ok afterEscape => skipText afterEscape
    else if char.toNat < 0x20 then
      .error (faultHere .controlCharacter (char :: rest))
    else
      skipText rest
termination_by text.length
decreasing_by
  · have shorter := skipEscape_length _skipped
    simp only [List.length_cons]
    omega
  · simp

theorem skipText_length {text rest : List Char} (skipped : skipText text = .ok rest) :
    rest.length < text.length := by
  fun_induction skipText text with
  | case1 => cases skipped
  | case2 tail => cases skipped; simp
  | case3 tail _ fault failed => cases skipped
  | case4 tail afterEscape escaped _ ih =>
    have shorter := skipEscape_length escaped
    have shorterText := ih skipped
    simp only [List.length_cons]
    omega
  | case5 => cases skipped
  | case6 char tail _ _ _ ih =>
    have shorterText := ih skipped
    simp only [List.length_cons]
    omega

/-- Skip the part of a number behind the letter of its exponent. -/
def skipExponent (text : List Char) : Except Fault (List Char) :=
  let digits := dropSign text
  if digits.head?.any isDigit then
    .ok (digits.dropWhile isDigit)
  else
    .error (faultAhead .invalidNumber digits)

def skipOptionalExponent : List Char → Except Fault (List Char)
  | [] => .ok []
  | char :: rest =>
    if isExponentMark char then
      skipExponent rest
    else
      .ok (char :: rest)

/-- Skip the part of a number behind its whole part. -/
def skipFraction : List Char → Except Fault (List Char)
  | '.' :: rest =>
    if rest.head?.any isDigit then
      skipOptionalExponent (rest.dropWhile isDigit)
    else
      .error (faultAhead .invalidNumber rest)
  | text => skipOptionalExponent text

/-- Skip a number behind its sign. -/
def skipMagnitude : List Char → Except Fault (List Char)
  | [] => .error (faultAhead .invalidNumber [])
  | char :: rest =>
    if char = '0' then
      if rest.head?.any isDigit then
        .error (faultAhead .invalidNumber rest)
      else
        skipFraction rest
    else if isDigit char then
      skipFraction (rest.dropWhile isDigit)
    else
      .error (faultAhead .invalidNumber (char :: rest))

/-- Skip a value that is not a bracket. -/
def skipScalar (text : List Char) : Except Fault (List Char) :=
  match text with
  | [] => .error (faultAhead .endInValue [])
  | char :: rest =>
    if char = 'n' then scanLetters "ull".toList rest
    else if char = 't' then scanLetters "rue".toList rest
    else if char = 'f' then scanLetters "alse".toList rest
    else if char = '"' then skipText rest
    else if char = '-' then skipMagnitude rest
    else if isDigit char then skipMagnitude (char :: rest)
    else .error (faultAhead .expectedValue (char :: rest))

theorem scanLetters_length {letters text rest : List Char}
    (scanned : scanLetters letters text = .ok rest) : rest.length ≤ text.length := by
  fun_induction scanLetters letters text with
  | case1 text =>
    cases scanned
    exact Nat.le_refl _
  | case2 => cases scanned
  | case3 letters char tail ih =>
    have shorter := ih scanned
    simp only [List.length_cons]
    omega
  | case4 => cases scanned

theorem length_dropWhile_le (test : Char → Bool) (text : List Char) :
    (text.dropWhile test).length ≤ text.length := by
  induction text with
  | nil => simp
  | cons char text ih =>
    by_cases holds : test char
    · simp only [holds, List.dropWhile_cons_of_pos, List.length_cons]
      omega
    · simp [holds]

theorem dropSign_length (text : List Char) : (dropSign text).length ≤ text.length := by
  fun_cases dropSign text with
  | case1 rest => simp
  | case2 rest => simp
  | case3 => exact Nat.le_refl _

theorem skipExponent_length {text rest : List Char} (skipped : skipExponent text = .ok rest) :
    rest.length ≤ text.length := by
  revert skipped
  fun_cases skipExponent text with
  | case1 digits isDigits =>
    rintro ⟨⟩
    exact Nat.le_trans (length_dropWhile_le _ _) (dropSign_length text)
  | case2 => rintro ⟨⟩

theorem skipOptionalExponent_length {text rest : List Char}
    (skipped : skipOptionalExponent text = .ok rest) : rest.length ≤ text.length := by
  revert skipped
  fun_cases skipOptionalExponent text with
  | case1 =>
    rintro ⟨⟩
    exact Nat.le_refl _
  | case2 mark tail =>
    intro skipped
    have shorter := skipExponent_length skipped
    simp only [List.length_cons]
    omega
  | case3 =>
    rintro ⟨⟩
    exact Nat.le_refl _

theorem skipFraction_length {text rest : List Char} (skipped : skipFraction text = .ok rest) :
    rest.length ≤ text.length := by
  revert skipped
  fun_cases skipFraction text with
  | case1 tail =>
    intro skipped
    have shorter := skipOptionalExponent_length skipped
    have digits := length_dropWhile_le isDigit tail
    simp only [List.length_cons]
    omega
  | case2 => rintro ⟨⟩
  | case3 text =>
    intro skipped
    exact skipOptionalExponent_length skipped

theorem skipMagnitude_length {text rest : List Char} (skipped : skipMagnitude text = .ok rest) :
    rest.length < text.length := by
  revert skipped
  fun_cases skipMagnitude text with
  | case1 => rintro ⟨⟩
  | case2 => rintro ⟨⟩
  | case3 tail =>
    intro skipped
    have shorter := skipFraction_length skipped
    simp only [List.length_cons]
    omega
  | case4 digit tail =>
    intro skipped
    have shorter := skipFraction_length skipped
    have digits := length_dropWhile_le isDigit tail
    simp only [List.length_cons]
    omega
  | case5 => rintro ⟨⟩

theorem skipScalar_length {text rest : List Char} (skipped : skipScalar text = .ok rest) :
    rest.length < text.length := by
  have word {letters tail : List Char} (scanned : scanLetters letters tail = .ok rest)
      (first : Char) : rest.length < (first :: tail).length :=
    Nat.lt_succ_of_le (scanLetters_length scanned)
  revert skipped
  fun_cases skipScalar text with
  | case1 => rintro ⟨⟩
  | case2 tail =>
    intro skipped
    exact word skipped 'n'
  | case3 tail =>
    intro skipped
    exact word skipped 't'
  | case4 tail =>
    intro skipped
    exact word skipped 'f'
  | case5 tail =>
    intro skipped
    exact Nat.lt_succ_of_lt (skipText_length skipped)
  | case6 tail =>
    intro skipped
    exact Nat.lt_succ_of_lt (skipMagnitude_length skipped)
  | case7 digit tail =>
    intro skipped
    exact skipMagnitude_length skipped
  | case8 => rintro ⟨⟩

def scanColon (text : List Char) : Except Fault (List Char) :=
  match skipSpace text with
  | [] => .error (faultAhead .endInObject [])
  | ':' :: rest => .ok rest
  | other => .error (faultAhead .expectedColon other)

def skipKey (text : List Char) : Except Fault (List Char) :=
  match skipSpace text with
  | [] => .error (faultAhead .endInObject [])
  | '"' :: rest =>
    match skipText rest with
    | .error fault => .error fault
    | .ok afterKey => scanColon afterKey
  | other => .error (faultAhead .keyMustBeText other)

theorem length_of_skipSpace_eq_cons {text rest : List Char} {char : Char}
    (start : skipSpace text = char :: rest) : rest.length < text.length := by
  have spaceless := length_dropWhile_le isSpace text
  rw [← skipSpace, start] at spaceless
  exact spaceless

theorem scanColon_length {text rest : List Char} (scanned : scanColon text = .ok rest) :
    rest.length < text.length := by
  revert scanned
  fun_cases scanColon text with
  | case1 => rintro ⟨⟩
  | case2 tail start =>
    rintro ⟨⟩
    exact length_of_skipSpace_eq_cons start
  | case3 => rintro ⟨⟩

theorem skipKey_length {text rest : List Char} (skipped : skipKey text = .ok rest) :
    rest.length < text.length := by
  revert skipped
  fun_cases skipKey text with
  | case1 => rintro ⟨⟩
  | case2 => rintro ⟨⟩
  | case3 tail start afterKey keySkipped =>
    have spaceless := length_of_skipSpace_eq_cons start
    have shorterKey := skipText_length keySkipped
    intro skipped
    have shorter := scanColon_length skipped
    omega
  | case4 => rintro ⟨⟩

/-- Go on behind the opening of a bracket or behind a comma: in an object, a key
comes before the next value. -/
def skipToValue : Bracket → List Char → Except Fault (List Char)
  | .list, text => .ok text
  | .object, text => skipKey text

theorem skipToValue_length {bracket : Bracket} {text rest : List Char}
    (skipped : skipToValue bracket text = .ok rest) : rest.length ≤ text.length := by
  cases bracket with
  | list =>
    simp only [skipToValue, Except.ok.injEq] at skipped
    subst skipped
    exact Nat.le_refl _
  | object =>
    have shorter := skipKey_length skipped
    omega

def opening? (char : Char) : Option Bracket :=
  if char = '[' then some .list
  else if char = '\x7b' then some .object
  else none

def Bracket.closing : Bracket → Char
  | .list => ']'
  | .object => '\x7d'

def Bracket.endCause : Bracket → Cause
  | .list => .endInList
  | .object => .endInObject

/-- The fault of a bracket that does not go on as it should. -/
def Bracket.separatorCause : Bracket → Cause
  | .list => .expectedCommaOrListEnd
  | .object => .expectedCommaOrObjectEnd

/-- Skip one value and then whatever closes the brackets around it.  With
`valueNext` the text starts with a value; without it a value has just ended. -/
def skipOpen (brackets : List Bracket) (valueNext : Bool) (text : List Char) :
    Except Fault (List Char) :=
  match valueNext with
  | true =>
    match _start : skipSpace text with
    | [] => .error (faultAhead .endInValue [])
    | char :: rest =>
      match opening? char with
      | none =>
        match _skipped : skipScalar (char :: rest) with
        | .error fault => .error fault
        | .ok afterScalar => skipOpen brackets false afterScalar
      | some bracket =>
        match _inner : skipSpace rest with
        | [] => .error (faultAhead bracket.endCause [])
        | next :: afterNext =>
          if next = bracket.closing then
            skipOpen brackets false afterNext
          else
            match _ready : skipToValue bracket (next :: afterNext) with
            | .error fault => .error fault
            | .ok ready => skipOpen (bracket :: brackets) true ready
  | false =>
    match brackets with
    | [] => .ok text
    | bracket :: outer =>
      match _start : skipSpace text with
      | [] => .error (faultAhead bracket.endCause [])
      | char :: rest =>
        if char = ',' then
          match _ready : skipToValue bracket rest with
          | .error fault => .error fault
          | .ok ready => skipOpen (bracket :: outer) true ready
        else if char = bracket.closing then
          skipOpen outer false rest
        else
          .error (faultAhead bracket.separatorCause (char :: rest))
termination_by text.length
decreasing_by
  all_goals
    have spaceless := length_dropWhile_le isSpace text
    simp only [skipSpace] at _start
    rw [_start] at spaceless
    simp only [List.length_cons] at spaceless
  · have shorter := skipScalar_length _skipped
    simp only [List.length_cons] at shorter
    omega
  · have inner := length_dropWhile_le isSpace rest
    simp only [skipSpace] at _inner
    rw [_inner] at inner
    simp only [List.length_cons] at inner
    omega
  · have inner := length_dropWhile_le isSpace rest
    simp only [skipSpace] at _inner
    rw [_inner] at inner
    have shorter := skipToValue_length _ready
    simp only [List.length_cons] at inner shorter
    omega
  · have shorter := skipToValue_length _ready
    omega
  · omega

def skipValue (text : List Char) : Except Fault (List Char) :=
  skipOpen [] true text

end Sourcewright.Document
