import Crafting.Json.Reader
import Crafting.Text.Utf8

/-!
# Data files

What is found at the place of a data file, and the value that its content holds.
-/

namespace Crafting

/-- What is found at the place of a data file. -/
inductive DataFile where
  | absent
  | unreadable
  | bytes (content : List UInt8)

/-- Reads the value that a file's content holds. -/
def DataFile.parse (content : List UInt8) : Except Failure Json :=
  match Text.decodeUtf8? content with
  | none => .error .undecodable
  | some text => Json.read (String.ofList text)

/-- Whether a path does not start from a directory. -/
def isAbsolutePath (path : String) : Bool :=
  path.startsWith "/"

/-- The path of a file in a directory. -/
def pathIn (directory name : String) : String :=
  if isAbsolutePath name then name
  else if directory.isEmpty || directory.endsWith "/" then directory ++ name
  else directory ++ "/" ++ name

end Crafting
