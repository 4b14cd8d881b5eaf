import Egress.Load

/-!
# A directory of files

A directory is a list of files by their names; a name with slashes stands for a file in directories
below. Paths are followed from this directory, part by part. Of what is outside of it only the
directories right above are known to be there, and no file.
-/

namespace Egress

structure Directory where
  files : List (String × List UInt8)
  deriving Repr, DecidableEq

def pathParts (path : String) : List String :=
  ((path.toList.splitOn '/').filter (fun part => !part.isEmpty)).map String.ofList

/-- The name that the last part of a path gives to what it leads to. -/
def fileName? (path : String) : Option String :=
  match ((pathParts path).filter (· != ".")).getLast? with
  | some ".." => none
  | name => name

namespace Directory

/-- Where a walk along a path has come to. -/
inductive Spot where
  /-- A name in the directory, by its parts; the directory itself has none. -/
  | inside (names : List String)
  /-- A directory above. -/
  | above
  /-- A name in a directory above. -/
  | strange
  | lost
  deriving Repr, DecidableEq

def joined (names : List String) : String :=
  "/".intercalate names

def content? (d : Directory) (name : String) : Option (List UInt8) :=
  (d.files.find? (fun f => f.1 == name)).map Prod.snd

def isDirectory (d : Directory) (names : List String) : Bool :=
  names.isEmpty || d.files.any fun f => (joined names ++ "/").toList.isPrefixOf f.1.toList

def canLeave (d : Directory) : Spot → Bool
  | .inside names => d.isDirectory names
  | .above => true
  | _ => false

def step (d : Directory) (s : Spot) (part : String) : Spot :=
  if d.canLeave s then
    match s with
    | .inside names =>
      if part = "." then .inside names
      else if part = ".." then if names.isEmpty then .above else .inside names.dropLast
      else .inside (names ++ [part])
    | s => if part = "." ∨ part = ".." then s else .strange
  else .lost

/-- The spot that a path leads to; an absolute path leaves the directory. -/
def spot (d : Directory) (path : String) : Spot :=
  (pathParts path).foldl d.step (if path.toList.head? = some '/' then .above else .inside [])

def placeAt (d : Directory) : Spot → Place
  | .inside names =>
    match d.content? (joined names) with
    | some bytes => .file bytes
    | none =>
      if d.isDirectory names then .directory
      else if d.isDirectory names.dropLast then .vacant
      else .nowhere
  | .above => .directory
  | .strange => .vacant
  | .lost => .nowhere

/-- What a path leads to; after a slash at its end there can only be a directory. -/
def place (d : Directory) (path : String) : Place :=
  let p := d.placeAt (d.spot path)
  if path.toList.getLast? = some '/' ∧ p ≠ .directory then .nowhere else p

def put (d : Directory) (name : String) (bytes : List UInt8) : Directory :=
  ⟨d.files.filter (fun f => f.1 != name) ++ [(name, bytes)]⟩

def erase (d : Directory) (name : String) : Directory :=
  ⟨d.files.filter (fun f => f.1 != name)⟩

/-- The directory after a write to a path; a write that leads outside changes nothing here. -/
def write (d : Directory) (path : String) (bytes : List UInt8) : Directory :=
  match d.spot path with
  | .inside names => d.put (joined names) bytes
  | _ => d

/-- The path without its last part. -/
def parentSpot (d : Directory) (path : String) : Spot :=
  ((pathParts path).filter (· != ".")).dropLast.foldl d.step
    (if path.toList.head? = some '/' then .above else .inside [])

/-- Whether there is something where the parent of a path should be. -/
def hasParent (d : Directory) (path : String) : Bool :=
  (d.placeAt (d.parentSpot path)).exists

end Directory

end Egress
