import Sourcewright.Proofs.Emission.SourceText
import Sourcewright.Proofs.Emission.Words

/-!
# Text constants as compilers read them

A compiler reads a text constant from its opening quotation mark to the next one that is not
escaped.  A backslash starts an escape, of one letter or of octal digits.  How many digits
belong to an escape depends on what follows it, and in Java also on its first digit.

Main statement: a written text constant is read as the text it was written for, whatever
stands behind it, and nothing of what stands behind it is used up.
-/

namespace Sourcewright.Target

/-- The letters of escapes, each with the character that the escape stands for. -/
def letterEscapes : Target → List (Char × Char)
  | .cpp => [('\x27', '\x27'), ('"', '"'), ('?', '?'), ('\\', '\\'), ('a', '\x07'),
      ('b', '\x08'), ('f', '\x0c'), ('n', '\n'), ('r', '\r'), ('t', '\t'), ('v', '\x0b')]
  | .java => [('b', '\x08'), ('s', ' '), ('t', '\t'), ('n', '\n'), ('f', '\x0c'),
      ('r', '\r'), ('"', '"'), ('\x27', '\x27'), ('\\', '\\')]

/-- How many digits an octal escape has at most, by its first digit. -/
def mostOctalDigits : Target → (first : Nat) → Nat
  | .cpp, _ => 3
  | .java, first => if first ≤ 3 then 3 else 2

end Sourcewright.Target

namespace Sourcewright.Emission

def octalValue? : Symbol → Option Nat
  | .unit code =>
    if '0'.toNat ≤ code ∧ code ≤ '7'.toNat then some (code - '0'.toNat) else none
  | .malformed => none

/-- Take octal digits off the front of a text, at most so many, and read them on from a
value. -/
def takeOctal : (most value : Nat) → List Symbol → Nat × List Symbol
  | most + 1, value, symbol :: rest =>
    match octalValue? symbol with
    | some digit => takeOctal most (value * 8 + digit) rest
    | none => (value, symbol :: rest)
  | _, value, text => (value, text)

def scanEscape (target : Target) : List Symbol → Option (Nat × List Symbol)
  | [] => none
  | symbol :: rest =>
    match octalValue? symbol with
    | some first => some (takeOctal (target.mostOctalDigits first - 1) first rest)
    | none =>
      match target.letterEscapes.find? fun escape => symbol = .unit escape.1.toNat with
      | some (_, meaning) => some (meaning.toNat, rest)
      | none => none

theorem takeOctal_length (most value : Nat) (text : List Symbol) :
    (takeOctal most value text).2.length ≤ text.length := by
  fun_induction takeOctal most value text with
  | case1 most value symbol rest digit _ ih =>
      rw [List.length_cons]
      omega
  | case2 most value symbol rest => exact Nat.le_refl _
  | case3 most value text => exact Nat.le_refl _

theorem scanEscape_length {target : Target} {text after : List Symbol} {meaning : Nat}
    (escape : scanEscape target text = some (meaning, after)) : after.length < text.length := by
  revert escape
  fun_cases scanEscape target text with
  | case1 => rintro ⟨⟩
  | case2 symbol rest first digit =>
      intro escape
      have shorter := takeOctal_length (target.mostOctalDigits first - 1) first rest
      rw [Option.some.inj escape] at shorter
      exact Nat.lt_succ_of_le shorter
  | case3 symbol rest noDigit letter found escape =>
      rintro ⟨⟩
      exact Nat.lt_succ_self _
  | case4 => rintro ⟨⟩

/-- What precedes what has been scanned. -/
def prepend (codes : List Nat) (scanned : List Nat × List Symbol) : List Nat × List Symbol :=
  (codes ++ scanned.1, scanned.2)

theorem prepend_nil : prepend [] = id :=
  rfl

theorem prepend_comp_prepend (first second : List Nat) :
    prepend first ∘ prepend second = prepend (first ++ second) := by
  funext scanned
  simp [prepend]

/-- Take the rest of a text constant off the front of a text, behind its opening quotation
mark.  A text constant stands on one line. -/
def scanConstantBody (target : Target) (text : List Symbol) :
    Option (List Nat × List Symbol) :=
  match text with
  | [] => none
  | .malformed :: _ => none
  | .unit code :: rest =>
    if code = '"'.toNat then
      some ([], rest)
    else if code = '\\'.toNat then
      match _escape : scanEscape target rest with
      | some (meaning, after) => (scanConstantBody target after).map (prepend [meaning])
      | none => none
    else if code = '\n'.toNat ∨ code = '\r'.toNat then
      none
    else
      (scanConstantBody target rest).map (prepend [code])
termination_by text.length
decreasing_by
  · have shorter := scanEscape_length _escape
    rw [List.length_cons]
    omega
  · simp

/-- Take a text constant off the front of a text: the code units of its value, and what is
left. -/
def scanConstant (target : Target) : List Symbol → Option (List Nat × List Symbol)
  | .unit code :: rest => if code = '"'.toNat then scanConstantBody target rest else none
  | _ => none

/-! ## Characters of a constant -/

/-- The code units that stand for themselves in a text constant. -/
def Ordinary (code : Nat) : Prop :=
  code ≠ '"'.toNat ∧ code ≠ '\\'.toNat ∧ code ≠ '\n'.toNat ∧ code ≠ '\r'.toNat

theorem scanConstantBody_ordinary (target : Target) {codes : List Nat}
    (ordinary : ∀ code ∈ codes, Ordinary code) (rest : List Symbol) :
    scanConstantBody target (codes.map .unit ++ rest) =
      (scanConstantBody target rest).map (prepend codes) := by
  induction codes with
  | nil => rw [prepend_nil, Option.map_id_fun, id, List.map_nil, List.nil_append]
  | cons code codes ih =>
      obtain ⟨first, further⟩ := List.forall_mem_cons.mp ordinary
      obtain ⟨notQuote, notBackslash, notFeed, notReturn⟩ := first
      rw [List.map_cons, List.cons_append, scanConstantBody, if_neg notQuote, if_neg notBackslash,
        if_neg (not_or.mpr ⟨notFeed, notReturn⟩), ih further, Option.map_map,
        prepend_comp_prepend, List.singleton_append]

theorem ordinary_of_mem_encode {target : Target} {char : Char} (notBackslash : char ≠ '\\')
    (notQuote : char ≠ '"') (notControl : ¬ (char.toNat < 0x20 ∨ char.toNat = 0x7f)) {code : Nat}
    (member : code ∈ target.encode char) : Ordinary code := by
  have notFeed : char ≠ '\n' := by
    rintro rfl
    exact notControl (.inl (by decide))
  have notReturn : char ≠ '\r' := by
    rintro rfl
    exact notControl (.inl (by decide))
  exact ⟨Target.ne_of_mem_encode notQuote (by decide) member,
    Target.ne_of_mem_encode notBackslash (by decide) member,
    Target.ne_of_mem_encode notFeed (by decide) member,
    Target.ne_of_mem_encode notReturn (by decide) member⟩

theorem scanConstantBody_backslash {target : Target} {escape rest : List Symbol} {meaning : Nat}
    (scanned : scanEscape target escape = some (meaning, rest)) :
    scanConstantBody target (.unit '\\'.toNat :: escape) =
      (scanConstantBody target rest).map (prepend [meaning]) := by
  rw [scanConstantBody, if_neg (by decide), if_pos rfl]
  split
  case h_1 found after same =>
    cases scanned.symm.trans same
    rfl
  case h_2 missing => cases scanned.symm.trans missing

theorem scanEscape_letter (target : Target) {char escape : Char}
    (short : (char, escape) ∈ shortEscapes) (rest : List Symbol) :
    scanEscape target (.unit escape.toNat :: rest) = some (char.toNat, rest) := by
  simp only [shortEscapes, List.mem_cons, Prod.mk.injEq, List.not_mem_nil, or_false] at short
  rcases short with ⟨rfl, rfl⟩ | ⟨rfl, rfl⟩ | ⟨rfl, rfl⟩ | ⟨rfl, rfl⟩ | ⟨rfl, rfl⟩ <;>
    cases target <;> rfl

theorem octalValue?_digitChar {digit : Nat} (octal : digit < 8) :
    octalValue? (.unit (Nat.digitChar digit).toNat) = some digit := by
  revert digit
  decide

/-- Three octal digits are read as one escape, even if another digit follows. -/
theorem scanEscape_octal (target : Target) {value : Nat} (ascii : value < 128)
    (rest : List Symbol) :
    scanEscape target ((octalDigits value).map (fun digit => .unit digit.toNat) ++ rest) =
      some (value, rest) := by
  have first : value / 64 < 8 := by omega
  have second : value / 8 % 8 < 8 := by omega
  have third : value % 8 < 8 := by omega
  have threeDigits : target.mostOctalDigits (value / 64) - 1 = 2 := by
    cases target with
    | cpp => rfl
    | java => rw [Target.mostOctalDigits, if_pos (by omega)]
  have total : (value / 64 * 8 + value / 8 % 8) * 8 + value % 8 = value := by omega
  simp only [octalDigits, List.map_cons, List.map_nil, List.cons_append, List.nil_append,
    scanEscape, octalValue?_digitChar first, threeDigits, takeOctal,
    octalValue?_digitChar second, octalValue?_digitChar third, total]

/-- The characters that escapes are written with. -/
def Visible (char : Char) : Prop :=
  0x20 ≤ char.toNat ∧ char.toNat < 0x7f

instance (char : Char) : Decidable (Visible char) :=
  inferInstanceAs (Decidable (_ ∧ _))

theorem Visible.ascii {char : Char} (visible : Visible char) : char.toNat < 128 :=
  Nat.lt_succ_of_lt visible.2

theorem Visible.not_control {char : Char} (visible : Visible char) :
    ¬ (char.toNat < 0x20 ∨ char.toNat = 0x7f) := by
  obtain ⟨least, most⟩ := visible
  omega

theorem visible_of_mem_shortEscapes {char escape : Char} (short : (char, escape) ∈ shortEscapes) :
    char.toNat < 128 ∧ Visible escape ∧ escape ≠ 'u' := by
  simp only [shortEscapes, List.mem_cons, Prod.mk.injEq, List.not_mem_nil, or_false] at short
  rcases short with ⟨rfl, rfl⟩ | ⟨rfl, rfl⟩ | ⟨rfl, rfl⟩ | ⟨rfl, rfl⟩ | ⟨rfl, rfl⟩ <;> decide

theorem visible_of_mem_octalDigits {value : Nat} (ascii : value < 128) {char : Char}
    (member : char ∈ octalDigits value) : Visible char ∧ char ≠ 'u' ∧ char ≠ '\\' := by
  have digits : ∀ digit < 8, Visible (Nat.digitChar digit) ∧ Nat.digitChar digit ≠ 'u' ∧
      Nat.digitChar digit ≠ '\\' := by decide
  simp only [octalDigits, List.mem_cons, List.not_mem_nil, or_false] at member
  rcases member with rfl | rfl | rfl <;> apply digits <;> omega

theorem scanConstantBody_constantChar (target : Target) (char : Char) (rest : List Symbol) :
    scanConstantBody target (target.plain (constantChar char) ++ rest) =
      (scanConstantBody target rest).map (prepend (target.encode char)) := by
  rcases constantChar_cases char with ⟨form, notBackslash, notQuote, notControl⟩ |
    ⟨escape, form, short⟩ | ⟨form, ascii⟩
  · rw [form, Target.plain, Target.units, List.flatMap_singleton]
    exact scanConstantBody_ordinary target
      (fun code member => ordinary_of_mem_encode notBackslash notQuote notControl member) rest
  · obtain ⟨ascii, visible, -⟩ := visible_of_mem_shortEscapes short
    have escaped : ∀ char ∈ ['\\', escape], char.toNat < 128 := by simp [visible.ascii]
    rw [form, target.plain_of_ascii escaped, target.encode_of_ascii ascii]
    exact scanConstantBody_backslash (scanEscape_letter target short rest)
  · have digits : ∀ digit ∈ '\\' :: octalDigits char.toNat, digit.toNat < 128 :=
      List.forall_mem_cons.mpr
        ⟨by decide, fun digit member => (visible_of_mem_octalDigits ascii member).1.ascii⟩
    rw [form, target.plain_of_ascii digits, target.encode_of_ascii ascii]
    exact scanConstantBody_backslash (scanEscape_octal target ascii rest)

theorem scanConstantBody_flatMap (target : Target) (chars : List Char) (rest : List Symbol) :
    scanConstantBody target (target.plain (chars.flatMap constantChar) ++ rest) =
      (scanConstantBody target rest).map (prepend (target.units chars)) := by
  induction chars with
  | nil =>
      rw [List.flatMap_nil, Target.plain_nil, List.nil_append, Target.units_nil, prepend_nil,
        Option.map_id_fun, id]
  | cons char chars ih =>
      rw [List.flatMap_cons, Target.plain_append, List.append_assoc,
        scanConstantBody_constantChar, ih, Option.map_map, prepend_comp_prepend]
      rfl

/-! ## Whole constants -/

theorem toList_textConstant (value : String) :
    (textConstant value).toList = ['"'] ++ value.toList.flatMap constantChar ++ ['"'] := by
  rw [textConstant, String.toList_ofList]
  rfl

theorem scanConstant_textConstant (target : Target) (value : String) (rest : List Symbol) :
    scanConstant target (target.plain (textConstant value).toList ++ rest) =
      some (target.units value.toList, rest) := by
  have quote : target.plain ['"'] = [.unit '"'.toNat] := target.plain_of_ascii (by simp)
  rw [toList_textConstant, Target.plain_append, Target.plain_append, quote, List.append_assoc,
    List.append_assoc, List.singleton_append, scanConstant, if_pos rfl, scanConstantBody_flatMap,
    List.singleton_append, scanConstantBody, if_pos rfl, Option.map_some, prepend,
    List.append_nil]

theorem not_control_of_mem_constantChar {char written : Char}
    (member : written ∈ constantChar char) : ¬ (written.toNat < 0x20 ∨ written.toNat = 0x7f) := by
  rcases constantChar_cases char with ⟨form, -, -, notControl⟩ | ⟨escape, form, short⟩ |
    ⟨form, ascii⟩
  · rw [form, List.mem_singleton] at member
    rwa [member]
  · simp only [form, List.mem_cons, List.not_mem_nil, or_false] at member
    rcases member with rfl | rfl
    · decide
    · exact (visible_of_mem_shortEscapes short).2.1.not_control
  · rw [form, List.mem_cons] at member
    rcases member with rfl | digit
    · decide
    · exact (visible_of_mem_octalDigits ascii digit).1.not_control

theorem not_control_of_mem_textConstant {value : String} {char : Char}
    (member : char ∈ (textConstant value).toList) :
    ¬ (char.toNat < 0x20 ∨ char.toNat = 0x7f) := by
  rw [toList_textConstant, List.mem_append, List.mem_append, List.mem_flatMap,
    List.mem_singleton] at member
  rcases member with (rfl | ⟨original, -, inside⟩) | rfl
  · decide
  · exact not_control_of_mem_constantChar inside
  · decide

theorem translateFrom_constantChar (char : Char) (rest : List Char) :
    translateFrom false (constantChar char ++ rest) =
      Target.java.plain (constantChar char) ++ translateFrom false rest := by
  rcases constantChar_cases char with ⟨form, notBackslash, -, -⟩ | ⟨escape, form, short⟩ |
    ⟨form, ascii⟩
  · rw [form]
    exact translateFrom_cons notBackslash false rest
  · rw [form]
    exact translateFrom_pair (visible_of_mem_shortEscapes short).2.2 rest
  · have further : '\\' ∉ (octalDigits char.toNat).tail := fun member =>
      (visible_of_mem_octalDigits ascii (List.mem_of_mem_tail member)).2.2 rfl
    have notLetter := (visible_of_mem_octalDigits ascii List.mem_cons_self).2.1
    rw [form]
    calc translateFrom false ('\\' :: octalDigits char.toNat ++ rest)
        = Target.java.plain ['\\', Nat.digitChar (char.toNat / 64)] ++
            translateFrom false ((octalDigits char.toNat).tail ++ rest) :=
          translateFrom_pair notLetter _
      _ = Target.java.plain ('\\' :: octalDigits char.toNat) ++ translateFrom false rest := by
          rw [translateFrom_append further, ← List.append_assoc, ← Target.plain_append]
          rfl

theorem symbols_textConstant (target : Target) (value : String) (rest : List Char) :
    target.symbols ((textConstant value).toList ++ rest) =
      target.plain (textConstant value).toList ++ target.symbols rest := by
  cases target with
  | cpp =>
      have unbroken : '\n' ∉ (textConstant value).toList := fun member =>
        not_control_of_mem_textConstant member (.inl (by decide))
      have closed : (textConstant value).toList.getLast? ≠ some '\\' := by
        rw [toList_textConstant, List.getLast?_append]
        exact fun same => absurd (Option.some.inj same) (by decide)
      rw [Target.symbols, joinLines_append (.inl closed), joinLines_of_unbroken unbroken,
        Target.plain_append, Target.symbols]
  | java =>
      have inside (chars behind : List Char) :
          translateFrom false (chars.flatMap constantChar ++ behind) =
            Target.java.plain (chars.flatMap constantChar) ++ translateFrom false behind := by
        induction chars with
        | nil => rfl
        | cons char chars ih =>
            rw [List.flatMap_cons, List.append_assoc, translateFrom_constantChar, ih,
              Target.plain_append, List.append_assoc]
      rw [toList_textConstant, Target.symbols, List.append_assoc, List.append_assoc,
        translateFrom_append (by decide), inside, translateFrom_append (by decide),
        Target.plain_append, Target.plain_append, List.append_assoc, List.append_assoc,
        Target.symbols]

/-- A text constant is read as the text it was written for, and as no other, and what follows
it is left as it is.  That is so on both targets, although nothing but its own characters keeps
its escapes from reaching into what follows.  There are no control characters in it. -/
theorem textConstant_reads_back (target : Target) (value : String) (rest : List Char) :
    target.symbols ((textConstant value).toList ++ rest) =
        target.plain (textConstant value).toList ++ target.symbols rest ∧
      scanConstant target (target.symbols ((textConstant value).toList ++ rest)) =
        some (target.units value.toList, target.symbols rest) ∧
      (∀ other : String, target.units other.toList = target.units value.toList → other = value) ∧
      ∀ char ∈ (textConstant value).toList, ¬ (char.toNat < 0x20 ∨ char.toNat = 0x7f) := by
  refine ⟨symbols_textConstant target value rest, ?_, ?_, ?_⟩
  · rw [symbols_textConstant, scanConstant_textConstant]
  · intro other same
    exact String.toList_inj.mp (target.units_injective same)
  · intro char member
    exact not_control_of_mem_textConstant member

end Sourcewright.Emission
