/-!
# Trouble with files

Why a file or directory can not be read or written.
-/

namespace Sourcewright

/-- Why a file or directory can not be read or written. -/
inductive Trouble where
  | missing
  | alreadyExists
  | notADirectory
  | isADirectory
  | nameTooLong
  /-- A path holds the character that ends texts in the system. -/
  | nulInPath
  | noSpace
  | notText
  /-- A trouble of another kind, in the words of the system. -/
  | other (message : String)
deriving DecidableEq

def Trouble.message : Trouble → String
  | missing => "No such file or directory (os error 2)"
  | alreadyExists => "File exists (os error 17)"
  | notADirectory => "Not a directory (os error 20)"
  | isADirectory => "Is a directory (os error 21)"
  | nameTooLong => "File name too long (os error 36)"
  | nulInPath => "file name contained an unexpected NUL byte"
  | noSpace => "No space left on device (os error 28)"
  | notText => "stream did not contain valid UTF-8"
  | other message => message

end Sourcewright
