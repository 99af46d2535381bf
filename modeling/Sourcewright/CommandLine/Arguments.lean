/-!
# Arguments

A command takes options and plain arguments.  Options are given as `--name value` or as
`--name=value`, before or behind the plain arguments; behind `--` nothing is an option.
A dash alone is a plain argument.
-/

namespace Sourcewright.CommandLine

/-- What a single argument reads as. -/
inductive Argument where
  /-- The mark behind which nothing is an option. -/
  | separator
  /-- An option, with its value if that comes along. -/
  | option (name : String) (value? : Option String)
  /-- A letter behind a dash. -/
  | flag
  | plain (text : String)
deriving DecidableEq

/-- The name of an option and the value behind its equals sign. -/
def splitOption (argument : List Char) : String × Option String :=
  match argument.span (· != '=') with
  | (name, []) => (String.ofList name, none)
  | (name, _ :: value) => (String.ofList name, some (String.ofList value))

def Argument.ofText (text : String) : Argument :=
  match text.toList with
  | ['-', '-'] => .separator
  | '-' :: '-' :: rest => .option (splitOption rest).1 (splitOption rest).2
  | '-' :: _ :: _ => .flag
  | _ => .plain text

/-- Arguments sorted into options with their values and plain arguments. -/
structure Arguments where
  options : List (String × String) := []
  plain : List String := []
deriving DecidableEq

namespace Arguments

def addOption (name value : String) (arguments : Arguments) : Arguments :=
  { arguments with options := (name, value) :: arguments.options }

def addPlain (text : String) (arguments : Arguments) : Arguments :=
  { arguments with plain := text :: arguments.plain }

/-- Sort arguments, of which the first may be the value of an option.  They can not be
sorted if an option is not known or has no value. -/
def sort? (known : List String) (pending : Option String) : List String → Option Arguments
  | [] => if pending.isSome then none else some {}
  | text :: rest =>
    match Argument.ofText text, pending with
    | .plain value, some name => (sort? known none rest).map (addOption name value)
    | _, some _ => none
    | .plain argument, none => (sort? known none rest).map (addPlain argument)
    | .separator, none => some { plain := rest }
    | .flag, none => none
    | .option name value?, none =>
      if known.contains name then
        match value? with
        | some value => (sort? known none rest).map (addOption name value)
        | none => sort? known (some name) rest
      else
        none

/-- The options and the only plain argument of a command that knows the given options.
No option may be given twice. -/
def single? (known : List String) (texts : List String) :
    Option (List (String × String) × String) :=
  match sort? known none texts with
  | some ⟨options, [argument]⟩ =>
    if (options.map Prod.fst).Nodup then some (options, argument) else none
  | _ => none

end Arguments

def digitsValue? (digits : List Char) : Option Nat :=
  if digits.isEmpty || !digits.all Char.isDigit then
    none
  else
    some (digits.foldl (fun value digit => value * 10 + (digit.toNat - '0'.toNat)) 0)

def dropPlus : List Char → List Char
  | '+' :: rest => rest
  | text => text

/-- The number that a text stands for: digits behind an optional plus sign, with a value
of at most 64 bits. -/
def readNumber? (text : String) : Option Nat :=
  match digitsValue? (dropPlus text.toList) with
  | some value => if value < Nat.pow 2 64 then some value else none
  | none => none

/-- The value of an option as read by `read?`, or a default if the option was not
given. -/
def optionValue? {α : Type} (options : List (String × String)) (name : String)
    (read? : String → Option α) (default : α) : Option α :=
  match options.lookup name with
  | some value => read? value
  | none => some default

end Sourcewright.CommandLine
