import ObjectMapping.SortedTable

/-!
Files, as far as a run needs them: reading one text and writing one. Where they are kept is left
open; here is a working folder held in memory. A path is followed name by name, and each name must
be looked for inside a folder. Nothing but folders is known above the working folder, and at the
root nothing but a few folders and the null device.
-/

namespace ObjectMapping.CommandLine

inductive FileFault where
  | missing
  | isDirectory
  | notDirectory
  | nameTooLong
  | other (text : String)
deriving DecidableEq, Repr

def FileFault.message : FileFault → String
  | missing => "No such file or directory (os error 2)"
  | isDirectory => "Is a directory (os error 21)"
  | notDirectory => "Not a directory (os error 20)"
  | nameTooLong => "File name too long (os error 36)"
  | other text => text

structure FileAccess (m : Type → Type) where
  read : String → m (Except FileFault String)
  write : String → String → m (Except FileFault Unit)

/-- A place in the tree of files by the names that lead there from the working folder, the last
one first. A step up from the working folder has the name `..`, and the root the empty name. -/
abbrev Spot := List String

namespace Spot

def path (spot : Spot) : String :=
  "/".intercalate spot.reverse

def above : Spot → Spot
  | [] => [".."]
  -- the root lies in itself
  | [""] => [""]
  | ".." :: outer => ".." :: ".." :: outer
  | _ :: outer => outer

end Spot

def pathNames (path : String) : List String :=
  ((path.toList.splitOn '/').map String.ofList).filter (· != "")

def pathStart (path : String) : Spot :=
  if path.startsWith "/" then [""] else []

def maxPathSize : Nat := 4095

def maxNameSize : Nat := 255

def nullDevice : Spot := ["null", "dev", ""]

def rootFolders : List Spot :=
  [[""], ["dev", ""], ["tmp", ""]]

abbrev Directory := SortedTable String

namespace Directory

def textOf? (d : Directory) (spot : Spot) : Option String :=
  -- the null device is always there and always empty
  if spot = nullDevice then some "" else d.find? spot.path

/-- Whether there is a folder at a place. A folder is there if something is in it. -/
def isFolder (d : Directory) (spot : Spot) : Bool :=
  spot.all (· = "..") || rootFolders.contains spot ||
    d.keys.any fun name => (spot.path ++ "/").toList.isPrefixOf name.toList

def follow (d : Directory) (spot : Spot) (name : String) : Except FileFault Spot :=
  -- names are only followed inside a folder, `.` and `..` as well
  if !d.isFolder spot then .error (if (d.textOf? spot).isSome then .notDirectory else .missing)
  else if name = "." then .ok spot
  else if name = ".." then .ok spot.above
  else if maxNameSize < name.utf8ByteSize then .error .nameTooLong
  else .ok (name :: spot)

def checkPath (path : String) : Except FileFault Unit :=
  if path.isEmpty then .error .missing
  else if maxPathSize < path.utf8ByteSize then .error .nameTooLong
  else .ok ()

def textAt (d : Directory) (path : String) : Except FileFault String := do
  checkPath path
  let spot ← (pathNames path).foldlM d.follow (pathStart path)
  match d.textOf? spot with
  -- a slash at the end asks for a folder
  | some text => if path.endsWith "/" then .error .notDirectory else return text
  | none => .error (if d.isFolder spot then .isDirectory else .missing)

/-- The place at which a text can be put by a path. The folder that it lies in must be there. -/
def placeFor (d : Directory) (path : String) : Except FileFault Spot := do
  checkPath path
  let names := pathNames path
  let folder ← names.dropLast.foldlM d.follow (pathStart path)
  -- behind a slash at the end there is no name, and the path leads to the folder itself
  let spot ← d.follow folder (if path.endsWith "/" then "." else names.getLastD ".")
  if d.isFolder spot then .error .isDirectory else return spot

def put (d : Directory) (path text : String) : Except FileFault Directory := do
  let spot ← d.placeFor path
  return if spot = nullDevice then d else d.insert spot.path text

def access : FileAccess (StateM Directory) where
  read path := do return (← get).textAt path
  write path text := do
    match (← get).put path text with
    | .ok d =>
      set d
      return .ok ()
    | .error fault => return .error fault

end Directory

end ObjectMapping.CommandLine
