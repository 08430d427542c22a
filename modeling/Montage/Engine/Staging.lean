import Montage.Asset
import Montage.Engine.Error
import Montage.Host.Process

/-!
# Staging

The inputs of a request are written into a directory of their own, and the
engine writes its output there too. The directory is made under the work
directory, named after the request, and removed at the end with all it holds.
-/

namespace Montage

/-- The directory of a request. -/
structure Staging where
  path : String
  place : Place
deriving DecidableEq

namespace Staging

/-- The name of a request's directory. -/
def directoryName (request suffix : String) : String := "vcomp-" ++ request ++ "-" ++ suffix

/-- A path as seen from the root. -/
def absolutePath (host : Host) (path : String) : String :=
  Path.join (Host.placeText host.directory) path

/-- Make the directory of a request, and the work directory if need be. -/
def create (host : Host) (workDirectory request suffix : String) (disk : Disk) :
    Except Error Staging × Disk :=
  match disk.makeDirectories host.directory workDirectory with
  | (.error fault, disk) => (.error (.io fault.message), disk)
  | (.ok (), disk) =>
    let path := Path.join (absolutePath host workDirectory) (directoryName request suffix)
    match disk.makeDirectory host.directory path with
    | .error fault =>
      (.error (.io (fault.message ++ " at path " ++ Text.quoted path)), disk)
    | .ok (place, disk) => (.ok ⟨path, place⟩, disk)

/-- The file name of an input. -/
def inputName (index : Nat) (asset : Asset) : String :=
  "input_" ++ toString index ++ "." ++ asset.extension

/-- The path of an input. -/
def inputPath (staging : Staging) (index : Nat) (asset : Asset) : String :=
  Path.join staging.path (inputName index asset)

/-- Where the engine writes its output. -/
def outputPath (staging : Staging) (format : String) : String :=
  Path.join staging.path ("output." ++ format)

-- irreducible, so that what is proved about `stageFrom` does not open the writing
/-- Write one input. -/
@[irreducible]
def stage (staging : Staging) (host : Host) (index : Nat) (asset : Asset) (disk : Disk) :
    Except Error String × Disk :=
  let path := staging.inputPath index asset
  match disk.write host.directory path asset.bytes with
  | .error fault => (.error (.io fault.message), disk)
  | .ok disk => (.ok path, disk)

/-- Write inputs from an index on. -/
def stageFrom (staging : Staging) (host : Host) (index : Nat) :
    List Asset → Disk → Except Error (List String) × Disk
  | [], disk => (.ok [], disk)
  | asset :: rest, disk =>
    match staging.stage host index asset disk with
    | (.error error, disk) => (.error error, disk)
    | (.ok path, disk) =>
      match staging.stageFrom host (index + 1) rest disk with
      | (.error error, disk) => (.error error, disk)
      | (.ok paths, disk) => (.ok (path :: paths), disk)

/-- Write all inputs in the order of the engine's indices. -/
def stageAll (staging : Staging) (host : Host) (assets : List Asset) (disk : Disk) :
    Except Error (List String) × Disk :=
  staging.stageFrom host 0 assets disk

/-- The disk without the directory. -/
def close (staging : Staging) (disk : Disk) : Disk := disk.remove staging.place

end Staging

end Montage
