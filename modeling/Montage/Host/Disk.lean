import Montage.Path
import Montage.Text.Utf8

/-!
# Disks

A disk holds files and directories. Every node but the root has a *place*, the
names on the way to it. A path is resolved segment by segment: whatever stands
before a segment must be a directory. A file can only be made in a directory
that is there.
-/

namespace Montage

/-- What stands at a place. -/
inductive Node where
  | file (bytes : Bytes) (executable : Bool)
  | directory
deriving DecidableEq

/-- The names on the way from the root to a node. -/
abbrev Place := List String

/-- Why an operation on files or programs fails. -/
inductive FileFault where
  | notFound
  | denied
  | alreadyThere
  | notDirectory
  | isDirectory
  | nameTooLong
  /-- an executable file that is no program -/
  | notRunnable
  | nulInPath
  | nulInArgument
  | notText
deriving DecidableEq

/-- How a fault is worded. -/
def FileFault.message : FileFault → String
  | notFound => "No such file or directory (os error 2)"
  | notRunnable => "Exec format error (os error 8)"
  | denied => "Permission denied (os error 13)"
  | alreadyThere => "File exists (os error 17)"
  | notDirectory => "Not a directory (os error 20)"
  | isDirectory => "Is a directory (os error 21)"
  | nameTooLong => "File name too long (os error 36)"
  | nulInPath => "file name contained an unexpected NUL byte"
  | nulInArgument => "nul byte found in provided data"
  | notText => "stream did not contain valid UTF-8"

/-- The nodes of a disk by their places. The root is always there. -/
structure Disk where
  entries : List (Place × Node) := []
deriving DecidableEq

namespace Disk

/-! ## Nodes -/

/-- The node at a place. -/
def node? (disk : Disk) (place : Place) : Option Node :=
  if place.isEmpty then some .directory else disk.entries.lookup place

/-- The disk with a node at a place, in the stead of any other one. -/
def put (disk : Disk) (place : Place) (node : Node) : Disk :=
  ⟨disk.entries.filter (fun entry => entry.1 != place) ++ [(place, node)]⟩

/-- The disk without a place and everything below it. -/
def remove (disk : Disk) (place : Place) : Disk :=
  ⟨disk.entries.filter fun entry => !place.isPrefixOf entry.1⟩

/-- The names in a directory with their nodes. -/
def children (disk : Disk) (place : Place) : List (String × Node) :=
  disk.entries.filterMap fun (other, node) =>
    match other.getLast? with
    | some name => if other.dropLast = place then some (name, node) else none
    | none => none

/-! ## Paths -/

/-- The longest name, in bytes. -/
def nameLimit : Nat := 255

/-- The longest path, in bytes. -/
def pathLimit : Nat := 4095

/-- From a place, which must be a directory, on to a segment of a path. -/
def step (disk : Disk) (place : Place) (segment : String) : Except FileFault Place :=
  match disk.node? place with
  | none => .error .notFound
  | some (.file _ _) => .error .notDirectory
  | some .directory =>
    if segment.isEmpty || segment == "." then .ok place
    else if segment == ".." then .ok place.dropLast
    else if nameLimit < segment.utf8ByteSize then .error .nameTooLong
    else .ok (place ++ [segment])

/-- The place of some segments. -/
def walk (disk : Disk) (start : Place) (segments : List String) : Except FileFault Place :=
  segments.foldlM disk.step start

/-- The segments of a path that can be one: it has a length within limits and
no NUL. -/
def segments? (path : String) : Except FileFault (List String) :=
  if path.toList.contains (Char.ofNat 0) then .error .nulInPath
  else if path.isEmpty then .error .notFound
  else if pathLimit < path.utf8ByteSize then .error .nameTooLong
  else .ok (Path.segments path)

/-- Where a path starts. -/
def start (here : Place) (path : String) : Place := if Path.isAbsolute path then [] else here

/-- Where a segment leads on to from a place. -/
def onward (place : Place) (segment : String) : Place :=
  if segment.isEmpty || segment == "." then place
  else if segment == ".." then place.dropLast
  else place ++ [segment]

/-- The place that a path names, seen from a directory, whether its directories
are there or not. -/
def placeOf (here : Place) (path : String) : Place :=
  (Path.segments path).foldl onward (start here path)

/-- The place of a path, seen from a directory. Nothing needs to stand there
yet. -/
def locate (disk : Disk) (here : Place) (path : String) : Except FileFault Place := do
  disk.walk (start here path) (← segments? path)

/-- The node at a path. -/
def find? (disk : Disk) (here : Place) (path : String) : Option Node :=
  match disk.locate here path with
  | .ok place => disk.node? place
  | .error _ => none

/-- Whether a path is that of a directory. -/
def isDirectory (disk : Disk) (here : Place) (path : String) : Bool :=
  disk.find? here path == some .directory

/-! ## Files -/

/-- The content of the file at a path. -/
def read (disk : Disk) (here : Place) (path : String) : Except FileFault Bytes := do
  match disk.node? (← disk.locate here path) with
  | none => throw .notFound
  | some .directory => throw .isDirectory
  | some (.file bytes _) => return bytes

/-- The content of the file at a path, as text. -/
def readText (disk : Disk) (here : Place) (path : String) : Except FileFault String := do
  match Text.Utf8.decode? (← disk.read here path) with
  | some text => return text
  | none => throw .notText

/-- A path that can only be a directory's, by its last segment. -/
def endsInDirectory (segments : List String) : Bool :=
  match segments.getLast? with
  | some last => last.isEmpty || last == "." || last == ".."
  | none => true

/-- The disk with a file at a path; the directory it stands in must be there. -/
def write (disk : Disk) (here : Place) (path : String) (bytes : Bytes) :
    Except FileFault Disk := do
  let segments ← segments? path
  let start := start here path
  if endsInDirectory segments then
    let above := (segments.reverse.dropWhile String.isEmpty).drop 1
    let place ← disk.walk start above.reverse
    let _ ← disk.step place "."
    throw .isDirectory
  let place ← disk.walk start segments
  match disk.node? place with
  | some .directory => throw .isDirectory
  | some (.file _ executable) => return disk.put place (.file bytes executable)
  | none => return disk.put place (.file bytes false)

/-! ## Directories -/

/-- The disk with a new directory at a path; the directory it stands in must
be there. Also the place of the new directory. -/
def makeDirectory (disk : Disk) (here : Place) (path : String) :
    Except FileFault (Place × Disk) := do
  let segments := (← segments? path).reverse.dropWhile String.isEmpty
  let place ← disk.walk (start here path) segments.reverse
  match disk.node? place with
  | some _ => throw .alreadyThere
  | none => return (place, disk.put place .directory)

/-- Make a directory, given with the paths above it, longest first. Paths above
it are made only where the directory itself cannot be made for want of them.
What was made before a failure stays. -/
def makeFirst (disk : Disk) (here : Place) : List String → Except FileFault Unit × Disk
  | [] => (.ok (), disk)
  | path :: above =>
    if path.isEmpty then (.ok (), disk)
    else
      match disk.makeDirectory here path with
      | .ok (_, disk) => (.ok (), disk)
      | .error .notFound =>
        match disk.makeFirst here above with
        | (.error fault, disk) => (.error fault, disk)
        | (.ok (), disk) =>
          match disk.makeDirectory here path with
          | .ok (_, disk) => (.ok (), disk)
          | .error fault => (if disk.isDirectory here path then .ok () else .error fault, disk)
      | .error fault => (if disk.isDirectory here path then .ok () else .error fault, disk)

/-- The disk with a directory at a path, made with all directories above it as
far as they are not there. -/
def makeDirectories (disk : Disk) (here : Place) (path : String) :
    Except FileFault Unit × Disk :=
  disk.makeFirst here (Path.ancestors path)

end Disk

end Montage
