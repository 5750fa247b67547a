import NetworkPortal.Text.Basic

/-! # Paths, and what can go wrong with them

A path is a text with slashes between names. A path that begins with one starts at the root.
-/
namespace NetworkPortal.Storage

namespace Path

def isAbsolute (path : String) : Bool := Text.startsWith "/" path

/-- The names on the way. A slash at the end counts as a step to the directory itself. -/
def steps (path : String) : List String :=
  (Text.cutAt '/' path).filter (· != "") ++ if Text.endsWithChar '/' path then ["."] else []

def join (base path : String) : String :=
  if isAbsolute path then path
  else if base.isEmpty || Text.endsWithChar '/' base then base ++ path
  else base ++ "/" ++ path

end Path

inductive Fault where
  | notFound
  | notDirectory
  | isDirectory
  | nameTooLong
  | tooManyLinks
  /-- A path holds a NUL character. -/
  | badName
  /-- The bytes of a text file are not UTF-8. -/
  | badText
  deriving DecidableEq

def Fault.message : Fault → String
  | .notFound => "No such file or directory (os error 2)"
  | .notDirectory => "Not a directory (os error 20)"
  | .isDirectory => "Is a directory (os error 21)"
  | .nameTooLong => "File name too long (os error 36)"
  | .tooManyLinks => "Too many levels of symbolic links (os error 40)"
  | .badName => "file name contained an unexpected NUL byte"
  | .badText => "stream did not contain valid UTF-8"

end NetworkPortal.Storage
