import Crafting.Assoc
import Crafting.DataFile

/-!
# Folders

A folder with all that lies in it and below. A path leads to a place step by step: a dot stays where it is, two dots go
one folder up, and every place on the way has to be a folder.
-/

namespace Crafting

/-- The places in a folder, each told by the names on the way to it. -/
structure Folder where
  files : List (List String × List UInt8) := []
  folders : List (List String) := []

namespace Folder

/-- The steps of a path that lead somewhere. -/
def steps (path : String) : List String :=
  (path.splitOn "/").filter fun step => step != "" && step != "."

variable (folder : Folder)

/-- Whether there is a folder at a place. One lies on the way to everything that lies deeper. -/
def isFolder (place : List String) : Bool :=
  place.isEmpty || folder.folders.any place.isPrefixOf || folder.files.any fun file => place.isPrefixOf file.1.dropLast

@[simp] theorem isFolder_nil : folder.isFolder [] = true := rfl

/-- Where steps lead from a place, unless they go through something that is no folder, or out of this one. -/
def walk? (place : List String) : List String → Option (List String)
  | [] => some place
  | ".." :: rest => if folder.isFolder place && !place.isEmpty then walk? place.dropLast rest else none
  | step :: rest => if folder.isFolder place then walk? (place ++ [step]) rest else none

/-- What a path leads to. -/
def find (path : String) : DataFile :=
  if isAbsolutePath path then .absent
  else
    match folder.walk? [] (steps path) with
    | none => .absent
    | some place =>
        if folder.isFolder place then .unreadable else ((Assoc.get? place folder.files).map .bytes).getD .absent

/-- The folder with one more file, or one more folder if there is no content. -/
def put (path : String) (content : Option (List UInt8)) : Folder :=
  let place := (folder.walk? [] (steps path)).getD (steps path)
  match content with
  | some bytes => { folder with files := Assoc.put place bytes folder.files }
  | none => { folder with folders := place :: folder.folders }

/-- The folder with these entries and nothing else. -/
def ofEntries (entries : List (String × Option (List UInt8))) : Folder :=
  entries.foldl (fun folder entry => folder.put entry.1 entry.2) {}

end Folder

end Crafting
