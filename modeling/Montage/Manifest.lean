import Montage.Asset
import Montage.Output
import Montage.Overlay.Spec
import Montage.Path

/-!
# Manifests

A manifest describes a composition by the files it is made of. Its paths are
relative to some directory, which `resolvePaths` puts in front of them.
-/

namespace Montage

/-- An asset in a file. -/
structure AssetSource where
  path : String
  kind : MediaKind := .video
  /-- what is known already; the rest may be found out from the file -/
  metadata : AssetMetadata := {}
deriving DecidableEq

/-- An overlay in a file, and how it is laid over the base. -/
structure OverlayEntry where
  asset : AssetSource
  spec : OverlaySpec
deriving DecidableEq

/-- A composition described by files. -/
structure Manifest where
  main : AssetSource
  /-- clips before the main one -/
  prepend : List AssetSource := []
  /-- clips after the main one -/
  append : List AssetSource := []
  overlays : List OverlayEntry := []
  /-- raw filter text that follows the generated graph -/
  customFilters : List String := []
  output : OutputOptions := {}
deriving DecidableEq

/-- An asset source with its path joined to a directory. -/
def AssetSource.resolve (directory : String) (source : AssetSource) : AssetSource :=
  { source with path := Path.join directory source.path }

/-- A manifest with all its relative paths joined to a directory. -/
def Manifest.resolvePaths (directory : String) (manifest : Manifest) : Manifest :=
  { manifest with
    main := manifest.main.resolve directory
    prepend := manifest.prepend.map (·.resolve directory)
    append := manifest.append.map (·.resolve directory)
    overlays := manifest.overlays.map fun entry =>
      { entry with asset := entry.asset.resolve directory } }

/-- The sources of a manifest but the main one. -/
def Manifest.otherSources (manifest : Manifest) : List AssetSource :=
  manifest.prepend ++ manifest.append ++ manifest.overlays.map (·.asset)

/-- The sources of a manifest in the order in which they are loaded. -/
def Manifest.sources (manifest : Manifest) : List AssetSource :=
  manifest.main :: manifest.otherSources

end Montage
