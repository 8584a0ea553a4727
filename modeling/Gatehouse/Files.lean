import Gatehouse.Sorted.Map

/-!
# Files

Files and directories, and what a path leads to among them. A path is a row of steps between
slashes: a name goes down, `..` goes up, and `.` or nothing at all stays. Each step is taken in a
directory that is there, so a path that enters a missing directory leads nowhere even if it comes out
again, and so does one that goes on after a file.
-/

namespace Gatehouse

/-- What a path leads to. -/
inductive FileEntry where
  | file (content : ByteArray)
  /-- A file that cannot be read, and why. -/
  | locked (reason : String)
  | directory

inductive PathStep where
  | stay
  | up
  | down (name : String)
  deriving DecidableEq, Repr

namespace PathStep

/-- The step that is written between two slashes. -/
def ofText (text : String) : PathStep :=
  if text = "" || text = "." then .stay
  else if text = ".." then .up
  else .down text

def ofPath (path : String) : List PathStep :=
  (path.toList.splitOn '/').map fun cs => ofText (String.ofList cs)

end PathStep

/-- A place below the root, or else below the working directory: the names that lead down to it, the
last of them first. -/
structure Place where
  rooted : Bool
  names : List String
  deriving DecidableEq, Repr

namespace Place

/-- The place where the steps of a path begin. -/
def startOf (path : String) : Place := ⟨path.toList.head? = some '/', []⟩

/-- The place after one step. The root is above itself, and nothing is known above the working
directory. -/
def after? (place : Place) : PathStep → Option Place
  | .stay => some place
  | .down name => some { place with names := name :: place.names }
  | .up =>
    match place.names with
    | _ :: names => some { place with names }
    | [] => if place.rooted then some place else none

/-- The place after all the steps, each of which has to be taken in a directory. -/
def follow? (isDirectory : Place → Bool) (place : Place) : List PathStep → Option Place
  | [] => some place
  | step :: steps =>
    if isDirectory place then (place.after? step).bind fun next => follow? isDirectory next steps
    else none

/-- The places in which the steps are taken. -/
def passed (place : Place) : List PathStep → List Place
  | [] => []
  | step :: steps => place :: ((place.after? step).map fun next => passed next steps).getD []

/-- The place that a path names if every directory on its way is there. -/
def ofPath? (path : String) : Option Place :=
  (startOf path).follow? (fun _ => true) (PathStep.ofPath path)

end Place

/-- The entries that are there, by their paths. The directories on the way to them are there too. -/
abbrev FileTree := SortedMap String FileEntry

namespace FileTree

/-- The directories that are there because an entry is. -/
def directoriesOf (path : String) (entry : FileEntry) : List Place :=
  let steps := PathStep.ofPath path
  (Place.startOf path).passed <|
    match entry with
    | .file _ | .locked _ => steps
    | .directory => steps ++ [.stay]

def isDirectory (tree : FileTree) (place : Place) : Bool :=
  place.names.isEmpty || tree.toList.any fun (path, entry) => place ∈ directoriesOf path entry

/-- What stands at a place. -/
def entryAt? (tree : FileTree) (place : Place) : Option FileEntry :=
  if tree.isDirectory place then some .directory
  else (tree.toList.find? fun e => Place.ofPath? e.1 = some place).map Prod.snd

/-- What a path leads to. -/
def entry? (tree : FileTree) (path : String) : Option FileEntry :=
  ((Place.startOf path).follow? tree.isDirectory (PathStep.ofPath path)).bind tree.entryAt?

end FileTree

end Gatehouse
