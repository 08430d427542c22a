import Montage.Json.Reader
import Montage.Manifest

/-!
# Reading manifests

The records that a manifest is made of, with their field names and defaults. A
manifest must name a main asset with a path that is not empty.
-/

namespace Montage

open Json (Reader Field Record Problem Context Document)
open Json.Field (needed defaulted)

/-- A kind by its name. -/
def MediaKind.reader : Reader MediaKind :=
  .variant [("video", .video), ("audio", .audio)]

/-- An anchor by its exact name. -/
def Position.reader : Reader Position :=
  .variant (Position.all.map fun position => (position.name, position))

/-- A dimension by its text. -/
def Dimension.reader : Reader Dimension :=
  .spelled fun text => (Dimension.ofText text).mapError SpellingError.message

/-- A colour by its text. -/
def Color.reader : Reader Color :=
  .spelled fun text => (Color.ofText text).mapError SpellingError.message

/-- The fields of a description of streams. -/
def AssetMetadata.record : Record AssetMetadata where
  name := "AssetMetadata"
  blank := {}
  fields := [
    defaulted "duration_secs" (.optional .real) fun v m => { m with duration := v },
    defaulted "width" (.optional .word) fun v m => { m with width := v },
    defaulted "height" (.optional .word) fun v m => { m with height := v },
    defaulted "frame_rate" (.optional .real) fun v m => { m with frameRate := v },
    defaulted "sample_rate" (.optional .word) fun v m => { m with sampleRate := v },
    defaulted "channels" (.optional .word) fun v m => { m with channels := v },
    defaulted "has_audio" (.optional .boolean) fun v m => { m with hasAudio := v },
    defaulted "format" (.optional .text) fun v m => { m with format := v }]

/-- The fields of an asset source. -/
def AssetSource.record : Record AssetSource where
  name := "AssetSource"
  blank := { path := "" }
  fields := [
    needed "path" .path fun v s => { s with path := v },
    defaulted "kind" MediaKind.reader fun v s => { s with kind := v },
    defaulted "metadata" AssetMetadata.record.reader fun v s => { s with metadata := v }]

/-- The fields of a frame size. -/
def Resolution.record : Record Resolution where
  name := "Resolution"
  blank := ⟨0, 0⟩
  fields := [
    needed "width" .word fun v r => { r with width := v },
    needed "height" .word fun v r => { r with height := v }]

/-- The fields of output options. -/
def OutputOptions.record : Record OutputOptions where
  name := "OutputOptions"
  blank := {}
  fields := [
    defaulted "video_label" (.optional .text) fun v o => { o with videoLabel := v },
    defaulted "audio_label" (.optional .text) fun v o => { o with audioLabel := v },
    defaulted "format" .text fun v o => { o with format := v },
    defaulted "video_codec" (.optional .text) fun v o => { o with videoCodec := v },
    defaulted "audio_codec" (.optional .text) fun v o => { o with audioCodec := v },
    defaulted "bitrate" (.optional .text) fun v o => { o with bitrate := v },
    defaulted "resolution" (.optional Resolution.record.reader)
      fun v o => { o with resolution := v },
    defaulted "fps" (.optional .real) fun v o => { o with fps := v }]

/-- The fields of an overlay specification. -/
def OverlaySpec.record : Record OverlaySpec where
  name := "OverlaySpec"
  blank := {}
  fields := [
    defaulted "position" Position.reader fun v s => { s with position := v },
    defaulted "width" (.optional Dimension.reader) fun v s => { s with width := v },
    defaulted "height" (.optional Dimension.reader) fun v s => { s with height := v },
    defaulted "opacity" .real fun v s => { s with opacity := v },
    defaulted "start_time_secs" .real fun v s => { s with start := v },
    defaulted "duration_secs" (.optional .real) fun v s => { s with duration := v },
    defaulted "color_key" (.optional Color.reader) fun v s => { s with colorKey := v },
    defaulted "color_key_similarity" (.optional .real)
      fun v s => { s with similarity := v },
    defaulted "color_key_blend" (.optional .real) fun v s => { s with blend := v },
    defaulted "mix_audio" .boolean fun v s => { s with mixAudio := v }]

namespace OverlayEntry

/-- The levels of arrays and objects that members set aside may have. A
document may have 127, of which the manifest, its overlays and the entry take
three. -/
def asideRoom : Nat := 124

/-- Go through the members of an entry: read the asset where it stands, look
through the other members and set them aside. -/
def gather (context : Context) (asset : Option AssetSource)
    (aside : List (List Char × Document)) :
    List (List Char × Document) →
      Except Problem (Option AssetSource × List (List Char × Document))
  | [] => .ok (asset, aside.reverse)
  | (key, document) :: rest => do
    let name ← Json.readText context.encoding key
    if name = "asset" then
      if asset.isSome then throw (.duplicateField name)
      let source ← AssetSource.record.reader context document
      gather context (some source) aside rest
    else
      Json.lookThrough context.encoding asideRoom document
      gather context asset ((key, document) :: aside) rest

/-- An overlay: an object with its asset and the fields of its specification
side by side. The specification is read after the whole object. -/
def reader : Reader OverlayEntry
  | context, .object members => do
    match ← gather context none [] members with
    | (none, _) => throw (.missingField "asset")
    | (some asset, aside) =>
      let spec ← OverlaySpec.record.ofMembers { context with setAside := true } aside
      return ⟨asset, spec⟩
  | context, document => Json.refuse "struct OverlayEntry" context document

end OverlayEntry

/-- The fields of a manifest. -/
def Manifest.record : Record Manifest where
  name := "CompositionManifest"
  blank := { main := { path := "" } }
  fields := [
    needed "main" AssetSource.record.reader fun v m => { m with main := v },
    defaulted "prepend" (.list AssetSource.record.reader) fun v m => { m with prepend := v },
    defaulted "append" (.list AssetSource.record.reader) fun v m => { m with append := v },
    defaulted "overlays" (.list OverlayEntry.reader) fun v m => { m with overlays := v },
    defaulted "custom_filters" (.list .text) fun v m => { m with customFilters := v },
    defaulted "output" OutputOptions.record.reader fun v m => { m with output := v }]

/-- Why a text is no manifest. -/
inductive ManifestError where
  | unreadable (cause : Json.ReadError)
  | noMainPath

/-- How a failure is worded. -/
def ManifestError.message : ManifestError → String
  | unreadable cause => "JSON parse error: " ++ cause.message
  | noMainPath => "Invalid manifest: main asset path is empty"

/-- Read a manifest from its JSON text. -/
def Manifest.ofText (text : String) : Except ManifestError Manifest :=
  match Json.ofText Manifest.record.reader text with
  | .error cause => .error (.unreadable cause)
  | .ok manifest => if manifest.main.path.isEmpty then .error .noMainPath else .ok manifest

end Montage
