import Sourcewright.Report.Trouble

/-!
# Files and directories

A disk holds files and directories at locations, which are lists of names from the
root.  Files are reached by paths.  A path is walked name by name, and it can only be
walked through directories that exist, also where it leads back out of them.
-/

namespace Sourcewright

/-- The names that lead from the root to a file or directory. -/
abbrev Location := List String

/-- Contents are compared by their bytes. -/
instance decidableEqContent : DecidableEq ByteArray :=
  ByteArray.instDecidableEq

inductive Entry where
  | file (content : ByteArray)
  | directory
deriving DecidableEq

/-- Files and directories.  The root is a directory without an entry. -/
structure Disk where
  entries : List (Location × Entry) := []
deriving DecidableEq

def slashParts : List Char → List (List Char)
  | [] => [[]]
  | char :: rest =>
    if char = '/' then
      [] :: slashParts rest
    else
      match slashParts rest with
      | [] => [[char]]
      | part :: parts => (char :: part) :: parts

/-- The names that a path consists of.  Slashes next to each other count as one. -/
def pathNames (path : String) : List String :=
  ((slashParts path.toList).filter fun part => !part.isEmpty).map String.ofList

/-- The names of the directories around the last of some names, from the inner to the
outer ones. -/
def outerNames : List String → List (List String)
  | [] => []
  | [_] => []
  | name :: next :: rest => (outerNames (next :: rest)).map (name :: ·) ++ [[name]]

/-- The directories on the way along names, from the inner to the outer ones.  A name
that stays in place leads to no directory of its own. -/
def waypoints (names : List String) : List (List String) :=
  outerNames (names.filter (· != "."))

def isAbsolutePath (path : String) : Bool :=
  path.toList.head? == some '/'

/-- The path of a file in a directory.  An absolute path stays as it is. -/
def joinPath (directory name : String) : String :=
  if isAbsolutePath name then
    name
  else if directory.isEmpty || directory.toList.getLast? == some '/' then
    directory ++ name
  else
    directory ++ "/" ++ name

namespace Disk

def entry? (disk : Disk) (location : Location) : Option Entry :=
  if location.isEmpty then some .directory else disk.entries.lookup location

def put (disk : Disk) (location : Location) (entry : Entry) : Disk :=
  ⟨disk.entries.filter (fun other => other.1 != location) ++ [(location, entry)]⟩

/-- The entries of a disk that another disk does not have. -/
def changesFrom (disk before : Disk) : List (Location × Entry) :=
  disk.entries.filter fun entry => before.entry? entry.1 != some entry.2

/-- The number of bytes that a name may have. -/
def nameLimit : Nat := 255

/-- Where a name leads to from a directory. -/
def follow (location : Location) (name : String) : Except Trouble Location :=
  if name = "." then .ok location
  else if name = ".." then .ok location.dropLast
  else if nameLimit < name.utf8ByteSize then .error .nameTooLong
  else .ok (location ++ [name])

/-- Walk from a location along names.  There may be nothing at the end of the walk. -/
def walk (disk : Disk) (location : Location) : List String → Except Trouble Location
  | [] => .ok location
  | name :: rest =>
    match disk.entry? location with
    | none => .error .missing
    | some (.file _) => .error .notADirectory
    | some .directory =>
      match follow location name with
      | .error trouble => .error trouble
      | .ok next => disk.walk next rest

def isDirectory (disk : Disk) (location : Location) (names : List String) : Bool :=
  match disk.walk location names with
  | .ok found => disk.entry? found == some .directory
  | .error _ => false

def makeDirectory (disk : Disk) (location : Location) (names : List String) :
    Except Trouble Disk :=
  match disk.walk location names with
  | .error trouble => .error trouble
  | .ok found =>
    match disk.entry? found with
    | some _ => .error .alreadyExists
    | none => .ok (disk.put found .directory)

/-- Make the directory that is reached by names, unless there is one already. -/
def settleDirectory (disk : Disk) (location : Location) (names : List String) :
    Disk × Option Trouble :=
  match disk.makeDirectory location names with
  | .ok made => (made, none)
  | .error trouble =>
    if disk.isDirectory location names then (disk, none) else (disk, some trouble)

/-- Make the first of some directories, unless there is one already; if it can not be
reached, the others are made before it in the same way.  What was made before trouble
arose stays. -/
def makeAlong (disk : Disk) (location : Location) :
    List (List String) → Disk × Option Trouble
  | [] => (disk, none)
  | names :: outer =>
    match disk.makeDirectory location names with
    | .error .missing =>
      match disk.makeAlong location outer with
      | (made, some trouble) => (made, some trouble)
      | (made, none) => made.settleDirectory location names
    | _ => disk.settleDirectory location names

/-- Make a directory and the directories on the way to it, unless they exist. -/
def makeDirectories (disk : Disk) (location : Location) (names : List String) :
    Disk × Option Trouble :=
  if names.isEmpty then
    (disk, none)
  else
    disk.makeAlong location (names :: waypoints names)

def readFile (disk : Disk) (location : Location) (names : List String) :
    Except Trouble ByteArray :=
  match disk.walk location names with
  | .error trouble => .error trouble
  | .ok found =>
    match disk.entry? found with
    | none => .error .missing
    | some .directory => .error .isADirectory
    | some (.file content) => .ok content

def writeFile (disk : Disk) (location : Location) (names : List String) (content : ByteArray) :
    Except Trouble Disk :=
  match disk.walk location names with
  | .error trouble => .error trouble
  | .ok found =>
    match disk.entry? found with
    | some .directory => .error .isADirectory
    | _ => .ok (disk.put found (.file content))

end Disk

end Sourcewright
