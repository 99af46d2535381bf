import Sourcewright.Generate
import Sourcewright.Workbench.Disk

/-!
# Workplaces

Work is done in a directory of a disk, with an output that text is printed to.  Paths
that are not absolute start at that directory.  Printing may meet trouble at any time, which
is not for the workplace to say, and a text is printed as a whole or not at all.
-/

namespace Sourcewright

structure Workplace where
  disk : Disk := {}
  directory : Location := []
deriving DecidableEq

/-- What is to be done with a result. -/
inductive Delivery where
  | print (text : String)
  | save (directory : String) (file : SourceFile)
deriving DecidableEq

/-- What became of a delivery: the text that was printed, and the name of what could not
be written. -/
structure Delivered where
  printed : String := ""
  failure : Option (String × Trouble) := none
deriving DecidableEq

def outputName : String := "<stdout>"

/-- What becomes of a text that is printed, given the trouble that printing meets. -/
def Delivered.ofPrinting (text : String) : Option Trouble → Delivered
  | none => { printed := text }
  | some trouble => { failure := some (outputName, trouble) }

namespace Workplace

/-- The number of bytes that a path has to stay below. -/
def pathLimit : Nat := 4096

/-- What is wrong with a path whatever the disk holds. -/
def pathTrouble? (path : String) : Option Trouble :=
  if path.toList.contains (Char.ofNat 0) then some .nulInPath
  else if pathLimit ≤ path.utf8ByteSize then some .nameTooLong
  else none

def start (place : Workplace) (path : String) : Location :=
  if isAbsolutePath path then [] else place.directory

/-- The content of the file at a path.  A path with a slash at its end leads into a
directory. -/
def read (place : Workplace) (path : String) : Except Trouble ByteArray :=
  match pathTrouble? path with
  | some trouble => .error trouble
  | none =>
    if path.isEmpty then
      .error .missing
    else if path.toList.getLast? = some '/' then
      place.disk.readFile (place.start path) (pathNames path ++ ["."])
    else
      place.disk.readFile (place.start path) (pathNames path)

def write (place : Workplace) (path : String) (content : String) :
    Except Trouble Workplace :=
  match pathTrouble? path with
  | some trouble => .error trouble
  | none =>
    match place.disk.writeFile (place.start path) (pathNames path) content.toUTF8 with
    | .ok disk => .ok { place with disk := disk }
    | .error trouble => .error trouble

/-- Make the directory at a path and the directories on the way to it. -/
def makeDirectories (place : Workplace) (path : String) : Workplace × Option Trouble :=
  match pathTrouble? path with
  | some trouble => (place, some trouble)
  | none =>
    match place.disk.makeDirectories (place.start path) (pathNames path) with
    | (disk, trouble) => ({ place with disk := disk }, trouble)

/-- Save a file in a directory, which is made if it does not exist. -/
def save (place : Workplace) (directory : String) (file : SourceFile) :
    Workplace × Delivered :=
  match place.makeDirectories directory with
  | (made, some trouble) => (made, { failure := some (directory, trouble) })
  | (made, none) =>
    match made.write (joinPath directory file.name) file.content with
    | .ok written => (written, {})
    | .error trouble => (made, { failure := some (joinPath directory file.name, trouble) })

/-- Carry out a delivery, given the trouble that printing meets. -/
def deliver (place : Workplace) (outputTrouble : Option Trouble) :
    Delivery → Workplace × Delivered
  | .print text => (place, .ofPrinting text outputTrouble)
  | .save directory file => place.save directory file

end Workplace

end Sourcewright
