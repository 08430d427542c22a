import Montage.Engine.Run
import Montage.Manifest.Read
import Montage.Text.Lower

/-!
# Loading

A manifest is read from a file, and its paths are taken from that file's
directory. Loading a manifest reads every asset in turn: the main one, those
before it, those after it, and the overlays. What the manifest does not say
about an asset may be found out by a probe; a probe that fails changes nothing.
-/

namespace Montage.Cli

/-- Why a command fails: what was attempted, then the causes. -/
structure Failure where
  causes : List String
deriving DecidableEq

namespace Failure

/-- How a failure is worded. -/
def text (failure : Failure) : String := ": ".intercalate failure.causes

/-- A fault of the disk while something was attempted. -/
def ofFault (attempt : String) (fault : FileFault) : Failure := ⟨[attempt, fault.message]⟩

/-- An error of a request. Below a fault of the disk stands the fault itself. -/
def ofError : Error → Failure
  | .io message => ⟨[(Error.io message).message, message]⟩
  | error => ⟨[error.message]⟩

/-- A manifest that cannot be read. Below unreadable text stands its cause. -/
def ofManifestError (path : String) (error : ManifestError) : Failure :=
  let causes := match error with
    | .unreadable cause => [cause.message]
    | .noMainPath => []
  ⟨["Invalid manifest " ++ path, error.message] ++ causes⟩

end Failure

/-! ## Manifests -/

/-- Read a manifest and take its paths from its directory. -/
def loadManifest (host : Host) (disk : Disk) (path : String) : Except Failure Manifest :=
  match disk.readText host.directory path with
  | .error fault => .error (.ofFault ("Failed to read manifest " ++ path) fault)
  | .ok text =>
    match Manifest.ofText text with
    | .error error => .error (.ofManifestError path error)
    | .ok manifest => .ok (manifest.resolvePaths ((Path.parent? path).getD "."))

/-! ## Assets -/

/-- What a manifest says about an asset; a format that it does not name is the
path's extension. -/
def declared (source : AssetSource) : AssetMetadata :=
  { source.metadata with
    format := source.metadata.format.or ((Path.extension? source.path).map Text.lower) }

/-- The gaps of a description filled by a probe, if there is one. -/
def fillGaps (host : Host) (probe : Option String) (path : String) (metadata : AssetMetadata)
    (session : Session) : AssetMetadata × Session :=
  match probe with
  | none => (metadata, session)
  | some ffprobe =>
    match probeFile host ffprobe path session with
    | (.ok found, session) => (metadata.mergedWith found, session)
    | (.error _, session) => (metadata, session)

/-- Load an asset. -/
def loadAsset (host : Host) (probe : Option String) (source : AssetSource)
    (session : Session) : Except Failure Asset × Session :=
  match session.disk.read host.directory source.path with
  | .error fault => (.error (.ofFault ("Failed to read asset " ++ source.path) fault), session)
  | .ok bytes =>
    let (metadata, session) := fillGaps host probe source.path (declared source) session
    (.ok ⟨bytes, source.kind, metadata⟩, session)

/-- Load assets in turn. -/
def loadAssets (host : Host) (probe : Option String) :
    List AssetSource → Session → Except Failure (List Asset) × Session
  | [], session => (.ok [], session)
  | source :: rest, session =>
    match loadAsset host probe source session with
    | (.error failure, session) => (.error failure, session)
    | (.ok asset, session) =>
      match loadAssets host probe rest session with
      | (.error failure, session) => (.error failure, session)
      | (.ok assets, session) => (.ok (asset :: assets), session)

/-- The composition of a manifest around its loaded assets; the others come in
the order of `Manifest.otherSources`. -/
def assemble (manifest : Manifest) (main : Asset) (others : List Asset) : Composition where
  main
  prepend := others.take manifest.prepend.length
  append := (others.drop manifest.prepend.length).take manifest.append.length
  overlays :=
    ((others.drop (manifest.prepend.length + manifest.append.length)).zip manifest.overlays).map
      fun (asset, entry) => ⟨asset, entry.spec⟩
  fragments := manifest.customFilters
  output := manifest.output

/-- Load the assets of a manifest into a composition. -/
def loadComposition (host : Host) (probe : Option String) (manifest : Manifest)
    (session : Session) : Except Failure Composition × Session :=
  match loadAsset host probe manifest.main session with
  | (.error failure, session) => (.error failure, session)
  | (.ok main, session) =>
    match loadAssets host probe manifest.otherSources session with
    | (.error failure, session) => (.error failure, session)
    | (.ok others, session) => (.ok (assemble manifest main others), session)

end Montage.Cli
