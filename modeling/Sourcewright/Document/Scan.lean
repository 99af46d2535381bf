import Sourcewright.Document.Fault

/-!
# Scanning scalars

The smallest parts of a document: space, fixed words, texts and numbers.  Each is
taken off the front of what is left; a fault is placed as soon as it is found.

A number is kept as it is written.  Digits are taken into a 64-bit significand as
long as they fit; what follows only shifts the exponent.  The value is then found
by scaling the significand with a power of ten, each of the two being rounded
first.
-/

namespace Sourcewright.Document

/-- The characters that may stand between the parts of a document. -/
def isSpace (char : Char) : Bool :=
  char == ' ' || char == '\n' || char == '\t' || char == '\r'

def skipSpace (text : List Char) : List Char :=
  text.dropWhile isSpace

def scanLetters : (letters text : List Char) → Except Fault (List Char)
  | [], text => .ok text
  | _ :: _, [] => .error (faultHere .endInValue [])
  | letter :: letters, char :: rest =>
    if letter = char then
      scanLetters letters rest
    else
      .error (faultAhead .expectedLetters (char :: rest))

/-! ## Texts -/

def hexValue? (char : Char) : Option Nat :=
  let code := char.toNat
  if '0'.toNat ≤ code ∧ code ≤ '9'.toNat then some (code - '0'.toNat)
  else if 'a'.toNat ≤ code ∧ code ≤ 'f'.toNat then some (code - 'a'.toNat + 10)
  else if 'A'.toNat ≤ code ∧ code ≤ 'F'.toNat then some (code - 'A'.toNat + 10)
  else none

def hexQuad? (first second third fourth : Char) : Option Nat := do
  let first ← hexValue? first
  let second ← hexValue? second
  let third ← hexValue? third
  let fourth ← hexValue? fourth
  return ((first * 16 + second) * 16 + third) * 16 + fourth

/-- The fault of a text that does not start with four hexadecimal digits. -/
def hexFault (text : List Char) : Fault :=
  if byteLength text < 4 then
    .placed .endInText 0
  else
    .placed .invalidEscape (byteLength text - 4)

def scanHexQuad : Reader Nat
  | first :: second :: third :: fourth :: rest =>
    match hexQuad? first second third fourth with
    | some value => .ok (value, rest)
    | none => .error (hexFault (first :: second :: third :: fourth :: rest))
  | text => .error (hexFault text)

def isLeadingSurrogate (code : Nat) : Bool :=
  0xd800 ≤ code && code < 0xdc00

def isTrailingSurrogate (code : Nat) : Bool :=
  0xdc00 ≤ code && code < 0xe000

/-- Take one given character off the front of the rest of a surrogate pair. -/
def scanSurrogateMark (mark : Char) : List Char → Except Fault (List Char)
  | [] => .error (faultHere .endInText [])
  | char :: rest =>
    if char = mark then
      .ok rest
    else
      .error (faultAhead .unfinishedSurrogate (char :: rest))

/-- Take a character off the front of a text, given by its code behind `\u`.  Codes
beyond the first plane are given by two surrogates. -/
def scanCodeEscape : Reader Char := fun text => do
  let (code, rest) ← scanHexQuad text
  if isTrailingSurrogate code then
    .error (faultHere .loneSurrogate rest)
  else if isLeadingSurrogate code then
    let rest ← scanSurrogateMark '\\' rest
    let rest ← scanSurrogateMark 'u' rest
    let (second, rest) ← scanHexQuad rest
    if isTrailingSurrogate second then
      .ok (Char.ofNat (0x10000 + (code - 0xd800) * 0x400 + (second - 0xdc00)), rest)
    else
      .error (faultHere .loneSurrogate rest)
  else
    .ok (Char.ofNat code, rest)

/-- The characters that stand for themselves, or for a control character, behind a
backslash. -/
def simpleEscape? (char : Char) : Option Char :=
  if char = '"' then some '"'
  else if char = '\\' then some '\\'
  else if char = '/' then some '/'
  else if char = 'b' then some '\x08'
  else if char = 'f' then some '\x0c'
  else if char = 'n' then some '\n'
  else if char = 'r' then some '\r'
  else if char = 't' then some '\t'
  else none

def scanEscape : Reader Char
  | [] => .error (faultHere .endInText [])
  | char :: rest =>
    match simpleEscape? char with
    | some meaning => .ok (meaning, rest)
    | none =>
      if char = 'u' then
        scanCodeEscape rest
      else
        .error (faultAhead .invalidEscape (char :: rest))

theorem scanHexQuad_length {text rest : List Char} {code : Nat}
    (scanned : scanHexQuad text = .ok (code, rest)) : rest.length < text.length := by
  revert scanned
  fun_cases scanHexQuad text with
  | case1 first second third fourth after value digits =>
    rintro ⟨⟩
    simp only [List.length_cons]
    omega
  | case2 => rintro ⟨⟩
  | case3 => rintro ⟨⟩

theorem scanSurrogateMark_length {mark : Char} {text rest : List Char}
    (scanned : scanSurrogateMark mark text = .ok rest) : rest.length < text.length := by
  revert scanned
  fun_cases scanSurrogateMark mark text with
  | case1 => rintro ⟨⟩
  | case2 after =>
    rintro ⟨⟩
    simp
  | case3 => rintro ⟨⟩

theorem scanCodeEscape_length {text rest : List Char} {char : Char}
    (scanned : scanCodeEscape text = .ok (char, rest)) : rest.length < text.length := by
  obtain ⟨⟨code, afterCode⟩, codeScanned, scanned⟩ := exists_of_bind_eq_ok scanned
  have shorter := scanHexQuad_length codeScanned
  by_cases trailing : isTrailingSurrogate code
  · simp [trailing] at scanned
  by_cases leading : isLeadingSurrogate code
  · simp only [trailing, leading, Bool.false_eq_true, if_false, if_true] at scanned
    obtain ⟨afterBackslash, backslashScanned, scanned⟩ := exists_of_bind_eq_ok scanned
    obtain ⟨afterLetter, letterScanned, scanned⟩ := exists_of_bind_eq_ok scanned
    obtain ⟨⟨second, afterSecond⟩, secondScanned, scanned⟩ := exists_of_bind_eq_ok scanned
    have backslashShorter := scanSurrogateMark_length backslashScanned
    have letterShorter := scanSurrogateMark_length letterScanned
    have secondShorter := scanHexQuad_length secondScanned
    by_cases paired : isTrailingSurrogate second
    · simp only [paired, if_true, Except.ok.injEq, Prod.mk.injEq] at scanned
      rw [← scanned.2]
      omega
    · simp [paired] at scanned
  · simp only [trailing, leading, Bool.false_eq_true, if_false, Except.ok.injEq,
      Prod.mk.injEq] at scanned
    rw [← scanned.2]
    exact shorter

theorem scanEscape_length {text rest : List Char} {char : Char}
    (scanned : scanEscape text = .ok (char, rest)) : rest.length < text.length := by
  revert scanned
  fun_cases scanEscape text with
  | case1 => rintro ⟨⟩
  | case2 mark after meaning simple =>
    rintro ⟨⟩
    simp
  | case3 after =>
    intro scanned
    have shorter := scanCodeEscape_length scanned
    simp only [List.length_cons]
    omega
  | case4 => rintro ⟨⟩

/-- Take the rest of a text off the front, behind its opening quotation mark. -/
def scanText (text : List Char) : Except Fault (List Char × List Char) :=
  match text with
  | [] => .error (faultHere .endInText [])
  | char :: rest =>
    if char = '"' then
      .ok ([], rest)
    else if char = '\\' then
      match _scanned : scanEscape rest with
      | .error fault => .error fault
      | .ok (meaning, afterEscape) =>
        match scanText afterEscape with
        | .error fault => .error fault
        | .ok (chars, afterText) => .ok (meaning :: chars, afterText)
    else if char.toNat < 0x20 then
      .error (faultAhead .controlCharacter (char :: rest))
    else
      match scanText rest with
      | .error fault => .error fault
      | .ok (chars, afterText) => .ok (char :: chars, afterText)
termination_by text.length
decreasing_by
  · have shorter := scanEscape_length _scanned
    simp only [List.length_cons]
    omega
  · simp

/-! ## Numbers -/

inductive Number where
  | natural (value : Nat)
  /-- The integer `-magnitude`, for a positive magnitude. -/
  | negative (magnitude : Nat)
  | float (value : Binary64)
deriving DecidableEq

def isDigit (char : Char) : Bool :=
  '0'.toNat ≤ char.toNat && char.toNat ≤ '9'.toNat

def digitValue (char : Char) : Nat :=
  char.toNat - '0'.toNat

def greatestSignificand : Nat := Nat.pow 2 64 - 1

/-- Take digits into a significand as long as they fit, and give back the digits
that did not. -/
def absorbDigits (significand : Nat) : List Char → Nat × List Char
  | [] => (significand, [])
  | digit :: digits =>
    let larger := significand * 10 + digitValue digit
    if larger ≤ greatestSignificand then
      absorbDigits larger digits
    else
      (significand, digit :: digits)

/-- A number times a power of ten, or nothing if it is out of range.  Powers beyond
the greatest representable one are applied in steps. -/
def scaleByTen (value : Binary64) (exponent : Int) : Option Binary64 :=
  if exponent.natAbs ≤ 308 then
    if 0 ≤ exponent then
      let product := value.mul (Binary64.powerOfTen exponent.natAbs)
      if product.isFinite then some product else none
    else
      some (value.div (Binary64.powerOfTen exponent.natAbs))
  else if value.isZero then
    some value
  else if 0 ≤ exponent then
    none
  else
    scaleByTen (value.div (Binary64.powerOfTen 308)) (exponent + 308)
termination_by exponent.natAbs
decreasing_by omega

/-- The float with the given sign, significand and exponent; `rest` is what is left
behind it. -/
def floatOfParts (negative : Bool) (significand : Nat) (exponent : Int) (rest : List Char) :
    Except Fault (Number × List Char) :=
  match scaleByTen (Binary64.ofNat false significand) exponent with
  | some value => .ok (.float (value.withSign negative), rest)
  | none => .error (faultHere .numberOutOfRange rest)

def greatestExponent : Nat := Nat.pow 2 31 - 1

/-- The digits of an exponent, read on from a value.  An exponent that grows too
great makes the number zero or puts it out of range. -/
def scanExponentDigits (negative : Bool) (significand : Nat) (start : Int)
    (negativeExponent : Bool) (value : Nat) : Reader Number
  | [] =>
    floatOfParts negative significand
      (if negativeExponent then start - value else start + value) []
  | char :: rest =>
    if isDigit char then
      let larger := value * 10 + digitValue char
      if larger ≤ greatestExponent then
        scanExponentDigits negative significand start negativeExponent larger rest
      else if significand ≠ 0 ∧ !negativeExponent then
        .error (faultHere .numberOutOfRange rest)
      else
        .ok (.float (Binary64.ofNat negative 0), rest.dropWhile isDigit)
    else
      floatOfParts negative significand
        (if negativeExponent then start - value else start + value) (char :: rest)

def dropSign : List Char → List Char
  | '+' :: rest => rest
  | '-' :: rest => rest
  | text => text

/-- The part of a number behind the letter of its exponent. -/
def scanExponent (negative : Bool) (significand : Nat) (start : Int) : Reader Number :=
  fun text =>
    let negativeExponent := text.head? == some '-'
    match dropSign text with
    | [] => .error (faultHere .endInValue [])
    | char :: rest =>
      if isDigit char then
        scanExponentDigits negative significand start negativeExponent (digitValue char) rest
      else
        .error (faultAhead .invalidNumber (char :: rest))

def isExponentMark (char : Char) : Bool :=
  char == 'e' || char == 'E'

/-- The part of a number behind its digits, if it is known to be a float. -/
def finishFloat (negative : Bool) (significand : Nat) (exponent : Int) : Reader Number
  | [] => floatOfParts negative significand exponent []
  | char :: rest =>
    if isExponentMark char then
      scanExponent negative significand exponent rest
    else
      floatOfParts negative significand exponent (char :: rest)

def scanFraction (negative : Bool) (significand : Nat) (exponent : Int) : Reader Number :=
  fun text =>
    let digits := text.takeWhile isDigit
    let rest := text.dropWhile isDigit
    if digits.isEmpty then
      .error (faultAhead (if rest.isEmpty then .endInValue else .invalidNumber) rest)
    else
      let absorbed := absorbDigits significand digits
      let shift := digits.length - absorbed.2.length
      finishFloat negative absorbed.1 (exponent - shift) rest

/-- The number with the given sign and significand and without further parts. -/
def integerOfParts (negative : Bool) (significand : Nat) : Number :=
  if negative then
    if 1 ≤ significand ∧ significand ≤ Nat.pow 2 63 then
      .negative significand
    else
      .float (Binary64.ofNat true significand)
  else
    .natural significand

/-- The part of a number behind the digits of its whole part. -/
def finishWhole (negative : Bool) (digits : List Char) : Reader Number :=
  fun text =>
    let absorbed := absorbDigits 0 digits
    let significand := absorbed.1
    let exponent : Int := absorbed.2.length
    match text with
    | '.' :: rest => scanFraction negative significand exponent rest
    | _ =>
      if text.head?.any isExponentMark then
        scanExponent negative significand exponent (text.drop 1)
      else if absorbed.2.isEmpty then
        .ok (integerOfParts negative significand, text)
      else
        floatOfParts negative significand exponent text

/-- A number behind its sign. -/
def scanMagnitude (negative : Bool) : Reader Number
  | [] => .error (faultHere .endInValue [])
  | char :: rest =>
    if char = '0' then
      if rest.head?.any isDigit then
        .error (faultAhead .invalidNumber rest)
      else
        finishWhole negative ['0'] rest
    else if isDigit char then
      finishWhole negative (char :: rest.takeWhile isDigit) (rest.dropWhile isDigit)
    else
      .error (faultAhead .invalidNumber (char :: rest))

def scanNumber : Reader Number
  | '-' :: rest => scanMagnitude true rest
  | text => scanMagnitude false text

end Sourcewright.Document
