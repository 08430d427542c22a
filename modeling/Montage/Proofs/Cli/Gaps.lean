import Montage.Proofs.Cli.Loading
import Montage.Proofs.Engine.Probing
import Mathlib.Data.List.Forall2

/-!
# What a probe has a say in

Loading takes from a probe only what the manifest leaves open. Two loadings of
one manifest with two probes, of which one or both may be missing or may fail,
fail for the same reason or yield compositions that differ in such gaps only. If
there are no gaps, or if neither probe finds anything for them, both
compositions have the same plan (`probes_fill_gaps`).
-/

namespace Montage

/-! ## Descriptions -/

namespace AssetMetadata

/-- A description that says all that another one says. -/
structure Extends (metadata full : AssetMetadata) : Prop where
  duration : ∀ value ∈ metadata.duration, full.duration = some value
  width : ∀ value ∈ metadata.width, full.width = some value
  height : ∀ value ∈ metadata.height, full.height = some value
  frameRate : ∀ value ∈ metadata.frameRate, full.frameRate = some value
  sampleRate : ∀ value ∈ metadata.sampleRate, full.sampleRate = some value
  channels : ∀ value ∈ metadata.channels, full.channels = some value
  hasAudio : ∀ value ∈ metadata.hasAudio, full.hasAudio = some value
  format : ∀ value ∈ metadata.format, full.format = some value

/-- A description without gaps. -/
structure IsComplete (metadata : AssetMetadata) : Prop where
  duration : metadata.duration.isSome
  width : metadata.width.isSome
  height : metadata.height.isSome
  frameRate : metadata.frameRate.isSome
  sampleRate : metadata.sampleRate.isSome
  channels : metadata.channels.isSome
  hasAudio : metadata.hasAudio.isSome
  format : metadata.format.isSome

variable {metadata full : AssetMetadata}

theorem extends_mergedWith (metadata other : AssetMetadata) :
    metadata.Extends (metadata.mergedWith other) := by
  have kept : ∀ {α : Type} (first second : Option α), ∀ value ∈ first,
      (first <|> second) = some value := by
    intro α first second value known
    rw [Option.mem_def.mp known]
    rfl
  constructor <;> exact kept _ _

theorem Extends.trans {last : AssetMetadata} (more : metadata.Extends full)
    (most : full.Extends last) : metadata.Extends last where
  duration value known := most.duration value (more.duration value known)
  width value known := most.width value (more.width value known)
  height value known := most.height value (more.height value known)
  frameRate value known := most.frameRate value (more.frameRate value known)
  sampleRate value known := most.sampleRate value (more.sampleRate value known)
  channels value known := most.channels value (more.channels value known)
  hasAudio value known := most.hasAudio value (more.hasAudio value known)
  format value known := most.format value (more.format value known)

theorem IsComplete.eq_of_extends (complete : metadata.IsComplete)
    (more : metadata.Extends full) : full = metadata := by
  have same : ∀ {α : Type} {known found : Option α}, known.isSome →
      (∀ value ∈ known, found = some value) → found = known := by
    intro α known found given kept
    obtain ⟨value, rfl⟩ := Option.isSome_iff_exists.mp given
    exact kept value rfl
  obtain ⟨duration, width, height, frameRate, sampleRate, channels, hasAudio, format⟩ := full
  cases metadata
  rw [mk.injEq]
  exact ⟨same complete.duration more.duration, same complete.width more.width,
    same complete.height more.height, same complete.frameRate more.frameRate,
    same complete.sampleRate more.sampleRate, same complete.channels more.channels,
    same complete.hasAudio more.hasAudio, same complete.format more.format⟩

end AssetMetadata

/-- An asset without its description. -/
def Asset.undescribed (asset : Asset) : Asset := { asset with metadata := {} }

theorem Asset.eq_of_undescribed {asset same : Asset} (rest : asset.undescribed = same.undescribed)
    (metadata : asset.metadata = same.metadata) : asset = same := by
  obtain ⟨bytes, kind, description⟩ := asset
  obtain ⟨bytes', kind', description'⟩ := same
  obtain ⟨rfl, rfl, -⟩ := Asset.mk.inj rest
  exact congrArg _ metadata

/-- A composition without the descriptions of its assets. -/
def Composition.undescribed (composition : Composition) : Composition :=
  { composition with
    main := composition.main.undescribed
    prepend := composition.prepend.map (·.undescribed)
    append := composition.append.map (·.undescribed)
    overlays := composition.overlays.map fun layer =>
      { layer with asset := layer.asset.undescribed } }

namespace Cli

variable {host other : Host} {probe probe' : Option String} {disk : Disk}

/-- An asset with the description that a manifest gives, of which only gaps were
filled. -/
structure FillsGaps (source : AssetSource) (asset : Asset) : Prop where
  kind : asset.kind = source.kind
  keeps : source.metadata.Extends asset.metadata
  /-- a format that is not given is the path's extension, if there is one -/
  extension : source.metadata.format = none → ∀ extension ∈ Path.extension? source.path,
    asset.metadata.format = some (Text.lower extension)

/-- A composition of a manifest in which only gaps of descriptions were filled. -/
structure FillsGapsOf (manifest : Manifest) (composition : Composition) : Prop where
  main : FillsGaps manifest.main composition.main
  prepend : List.Forall₂ FillsGaps manifest.prepend composition.prepend
  append : List.Forall₂ FillsGaps manifest.append composition.append
  overlays : List.Forall₂
    (fun entry layer => FillsGaps entry.asset layer.asset ∧ layer.spec = entry.spec)
    manifest.overlays composition.overlays
  fragments : composition.fragments = manifest.customFilters
  output : composition.output = manifest.output

/-- A probe that adds nothing to what a source says. -/
def FindsNothing (host : Host) (probe : Option String) (disk : Disk) (source : AssetSource) :
    Prop :=
  (declared source).mergedWith (found host probe disk source.path) = declared source

/-! ## Assets -/

theorem declared_eq (source : AssetSource) : declared source =
    source.metadata.mergedWith { format := (Path.extension? source.path).map Text.lower } := by
  simp only [declared, AssetMetadata.mergedWith, Option.orElse_eq_orElse, Option.orElse_eq_or,
    Option.or_none]

theorem fillsGaps_assetOf (host : Host) (probe : Option String) (disk : Disk)
    (source : AssetSource) : FillsGaps source (assetOf host probe disk source) := by
  have declares : source.metadata.Extends (declared source) :=
    declared_eq source ▸ AssetMetadata.extends_mergedWith _ _
  have kept : (declared source).Extends (assetOf host probe disk source).metadata :=
    AssetMetadata.extends_mergedWith _ _
  refine ⟨rfl, declares.trans kept, ?_⟩
  intro unnamed extension ending
  have named : (declared source).format = some (Text.lower extension) := by
    unfold declared
    rw [unnamed, Option.mem_def.mp ending]
    rfl
  exact kept.format _ named

theorem undescribed_assetOf (together : other.directory = host.directory) (source : AssetSource) :
    (assetOf other probe' disk source).undescribed =
      (assetOf host probe disk source).undescribed := by
  unfold assetOf
  rw [together]
  rfl

/-- What is known completely is what every loading makes of it. -/
theorem metadata_of_complete {source : AssetSource} (complete : source.metadata.IsComplete) :
    (assetOf host probe disk source).metadata = source.metadata :=
  complete.eq_of_extends (fillsGaps_assetOf host probe disk source).keeps

/-! ## Compositions -/

theorem fillsGapsOf_compose {manifest : Manifest} {f : AssetSource → Asset}
    (each : ∀ source, FillsGaps source (f source)) :
    FillsGapsOf manifest (manifest.compose f) where
  main := each manifest.main
  prepend := List.forall₂_map_right_iff.mpr (List.forall₂_same.mpr fun source _ => each source)
  append := List.forall₂_map_right_iff.mpr (List.forall₂_same.mpr fun source _ => each source)
  overlays := List.forall₂_map_right_iff.mpr
    (List.forall₂_same.mpr fun entry _ => ⟨each entry.asset, rfl⟩)
  fragments := rfl
  output := rfl

theorem undescribed_compose (manifest : Manifest) (f : AssetSource → Asset) :
    (manifest.compose f).undescribed = manifest.compose fun source => (f source).undescribed := by
  simp [Composition.undescribed, Manifest.compose, Function.comp_def]

theorem compose_congr {manifest : Manifest} {f g : AssetSource → Asset}
    (same : ∀ source ∈ manifest.sources, f source = g source) :
    manifest.compose f = manifest.compose g := by
  simp only [Manifest.sources, Manifest.otherSources, List.forall_mem_cons, List.forall_mem_append,
    List.forall_mem_map] at same
  obtain ⟨main, ⟨prepend, append⟩, overlays⟩ := same
  have layers := List.map_congr_left fun entry member =>
    congrArg (Layer.mk · entry.spec) (overlays entry member)
  unfold Manifest.compose
  rw [main, List.map_congr_left prepend, List.map_congr_left append, layers]

/-- Two loadings of one manifest with different probes. -/
theorem probes_fill_gaps (host other : Host) (probe probe' : Option String) (manifest : Manifest)
    (session : Session) (together : other.directory = host.directory)
    (reports : OnlyReports host probe) (reports' : OnlyReports other probe') :
    (∃ failure, (loadComposition host probe manifest session).1 = .error failure ∧
      (loadComposition other probe' manifest session).1 = .error failure) ∨
    ∃ composition composition',
      (loadComposition host probe manifest session).1 = .ok composition ∧
      (loadComposition other probe' manifest session).1 = .ok composition' ∧
      FillsGapsOf manifest composition ∧ FillsGapsOf manifest composition' ∧
      composition'.undescribed = composition.undescribed ∧
      ((∀ source ∈ manifest.sources, source.metadata.IsComplete) ∨
        (∀ source ∈ manifest.sources, FindsNothing host probe session.disk source ∧
          FindsNothing other probe' session.disk source) →
        composition'.plan = composition.plan) := by
  rcases all_ok_or_first_error (fun source : AssetSource =>
      session.disk.read host.directory source.path) manifest.sources with
    readable | ⟨earlier, source, later, fault, split, readable, unreadable⟩
  · right
    obtain ⟨after, loads⟩ := loadComposition_eq reports readable
    obtain ⟨after', loads'⟩ := loadComposition_eq reports' (together ▸ readable)
    refine ⟨_, _, congrArg Prod.fst loads, congrArg Prod.fst loads',
      fillsGapsOf_compose (fillsGaps_assetOf host probe session.disk),
      fillsGapsOf_compose (fillsGaps_assetOf other probe' session.disk), ?_, ?_⟩
    · rw [undescribed_compose, undescribed_compose, funext (undescribed_assetOf together)]
    · intro settled
      refine congrArg Composition.plan (compose_congr fun source member => ?_)
      refine Asset.eq_of_undescribed (undescribed_assetOf together source) ?_
      rcases settled with complete | nothing
      · rw [metadata_of_complete (complete source member),
          metadata_of_complete (complete source member)]
      · obtain ⟨first, second⟩ := nothing source member
        exact second.trans first.symm
  · left
    refine ⟨_, loadComposition_error reports split readable unreadable, ?_⟩
    exact loadComposition_error reports' split (together ▸ readable) (together ▸ unreadable)

/-! ## A host to try probes on -/

theorem mem_programs_of_programAt {path : String} {program : List String → Behaviour}
    (found : host.programAt disk path = .ok program) :
    ∃ place, (place, program) ∈ host.programs := by
  obtain ⟨place, -, rest⟩ := bind_ok_iff.mp found
  split at rest
  · cases rest
  · cases rest
  · cases rest
  · split at rest
    · rename_i listed
      cases rest
      obtain ⟨before, after, split, -⟩ := List.lookup_eq_some_iff.mp listed
      exact ⟨place, by rw [split]; simp⟩
    · cases rest

/-- A program that is named by its path only reports if no program of the host
writes anything. -/
theorem onlyReports_of_silent {ffprobe : String} (path : ffprobe.toList.contains '/' = true)
    (silent : ∀ program ∈ host.programs.map Prod.snd, ∀ args, (program args).output = none) :
    OnlyReports host (some ffprobe) := by
  intro named same disk described behaviour starts
  obtain rfl := Option.some.inj same
  unfold Host.start at starts
  split at starts
  · cases starts
  · obtain ⟨program, found, rfl⟩ := map_ok_iff.mp starts
    unfold Host.program at found
    split at found
    · cases found
    · obtain ⟨place, listed⟩ := mem_programs_of_programAt found
      exact silent program (List.mem_map_of_mem listed) _

/-- A host whose probe takes every file for the same film. -/
def cinema : Host :=
  { Request.bench with
    programs := [(["bin", "ffprobe"], fun _ => { stdout := Probe.filmReport })] }

/-- A clip of which the width is known, and one of which everything is known. -/
def trailer : Manifest where
  main := { path := "main.MP4", metadata := { width := some 1280 } }
  append := [{
    path := "outro"
    metadata := {
      duration := some 3, width := some 320, height := some 200, frameRate := some 10
      sampleRate := some 8000, channels := some 1, hasAudio := some false, format := some "gif" } }]

/-- The same with everything known. -/
def premiere : Manifest := { trailer with main := { path := "main.MP4", metadata := {
  duration := some 60, width := some 1280, height := some 720, frameRate := some 25
  sampleRate := some 8000, channels := some 1, hasAudio := some true, format := some "mp4" } } }

/-- A session with both files. -/
def theatre : Session := shelf ["main.MP4", "outro"]

theorem probes_fill_gaps_cinema :
    (∃ blind seen,
      (loadComposition cinema none trailer theatre).1 = .ok blind ∧
      (loadComposition cinema (some "/bin/ffprobe") trailer theatre).1 = .ok seen ∧
      FillsGapsOf trailer blind ∧ FillsGapsOf trailer seen ∧
      seen.undescribed = blind.undescribed ∧ seen ≠ blind) ∧
    ∃ blind seen program,
      (loadComposition cinema none premiere theatre).1 = .ok blind ∧
      (loadComposition cinema (some "/bin/ffprobe") premiere theatre).1 = .ok seen ∧
      blind.plan = .ok program ∧ seen.plan = .ok program := by
  have reports : OnlyReports cinema (some "/bin/ffprobe") :=
    onlyReports_of_silent (by decide) (by simp [cinema])
  have silent : OnlyReports cinema none := by
    intro ffprobe named
    cases named
  constructor
  · have computed : (loadComposition cinema none trailer theatre).1.isOk ∧
        (loadComposition cinema none trailer theatre).1.toOption ≠
          (loadComposition cinema (some "/bin/ffprobe") trailer theatre).1.toOption := by
      decide +kernel
    rcases probes_fill_gaps cinema cinema none (some "/bin/ffprobe") trailer theatre rfl silent
      reports with ⟨failure, fails, -⟩ | ⟨blind, seen, loads, loads', fills, fills', same, -⟩
    · rw [fails] at computed
      cases computed.1
    · refine ⟨blind, seen, loads, loads', fills, fills', same, fun equal => ?_⟩
      rw [loads, loads', equal] at computed
      exact computed.2 rfl
  · have computed : ((loadComposition cinema none premiere theatre).1.toOption.any
        fun composition => composition.plan.isOk) = true := by
      decide +kernel
    rcases probes_fill_gaps cinema cinema none (some "/bin/ffprobe") premiere theatre rfl silent
      reports with ⟨failure, fails, -⟩ | ⟨blind, seen, loads, loads', -, -, -, settled⟩
    · rw [fails] at computed
      cases computed
    · rw [loads] at computed
      obtain ⟨program, planned⟩ := exists_ok_of_isOk computed
      refine ⟨blind, seen, program, loads, loads', planned, ?_⟩
      refine (settled (.inl fun source member => ?_)).trans planned
      simp only [Manifest.sources, Manifest.otherSources, premiere, trailer, List.map_nil,
        List.append_nil, List.nil_append, List.mem_cons, List.not_mem_nil, or_false] at member
      rcases member with rfl | rfl <;> constructor <;> rfl

end Cli

end Montage
