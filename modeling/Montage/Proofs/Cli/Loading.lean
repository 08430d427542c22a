import Montage.Cli.Loading
import Montage.Proofs.Engine.Conclusion
import Montage.Proofs.Engine.Inputs
import Montage.Proofs.Engine.Launches

/-!
# From files to inputs

The assets of a manifest are loaded in one order, kept in four lists and staged
in another order. What is staged under an index is the file that the manifest
names in that place, and it is what the engine finds there, which is started if
the inputs can be staged and it can be (`loads_in_order`). The first file that
cannot be read ends the loading.
-/

namespace Montage

/-! ## Sessions that change nothing -/

/-- A later session with the same disk, in which no process was to write a
file. -/
structure Session.Quiet (before after : Session) : Prop where
  disk : after.disk = before.disk
  launches : ∃ started, after.launches = before.launches ++ started ∧
    ∀ launch ∈ started, launch.behaviour.output = none

namespace Session.Quiet

variable {before after last : Session}

theorem refl (session : Session) : session.Quiet session := ⟨rfl, [], by simp, by simp⟩

theorem trans (first : before.Quiet after) (second : after.Quiet last) : before.Quiet last := by
  obtain ⟨disk, started, launches, silent⟩ := first
  obtain ⟨disk', others, launches', silent'⟩ := second
  refine ⟨disk'.trans disk, started ++ others, ?_, ?_⟩
  · rw [launches', launches, List.append_assoc]
  · intro launch member
    rcases List.mem_append.mp member with here | there
    · exact silent launch here
    · exact silent' launch there

end Session.Quiet

namespace Cli

/-- A probe, if there is to be one, writes no file. The file that its last
argument names is the one that it describes. -/
def OnlyReports (host : Host) (probe : Option String) : Prop :=
  ∀ ffprobe ∈ probe, ∀ disk path behaviour,
    host.start disk ffprobe (probeArgs ++ [path]) = .ok behaviour → behaviour.output = none

variable {host : Host} {probe : Option String} {session : Session}

theorem probeFile_quiet {ffprobe : String} (reports : OnlyReports host (some ffprobe))
    (path : String) (session : Session) :
    session.Quiet (probeFile host ffprobe path session).2 := by
  have runs := probeFile_runs host ffprobe path session
  obtain ⟨started, launches, probes⟩ := runs.probes
  refine ⟨runs.disk_eq (reports ffprobe rfl session.disk path), started, launches, ?_⟩
  intro launch member
  obtain ⟨described, named⟩ := probes launch member
  exact reports ffprobe rfl launch.disk described _ named.starts

theorem fillGaps_quiet (reports : OnlyReports host probe) (path : String)
    (metadata : AssetMetadata) (session : Session) :
    session.Quiet (fillGaps host probe path metadata session).2 := by
  cases probe with
  | none => exact .refl session
  | some ffprobe =>
      have probed := probeFile_quiet reports path session
      unfold fillGaps
      dsimp only
      split
      · rename_i result
        rw [result] at probed
        exact probed
      · rename_i result
        rw [result] at probed
        exact probed

/-! ## Descriptions -/

/-- What a probe finds out about a file: nothing if there is no probe, or if it
fails. -/
def found (host : Host) (probe : Option String) (disk : Disk) (path : String) : AssetMetadata :=
  (probe.bind fun ffprobe => (probeFile host ffprobe path { disk }).1.toOption).getD {}

theorem fillGaps_eq (path : String) (metadata : AssetMetadata) (session : Session) :
    (fillGaps host probe path metadata session).1 =
      metadata.mergedWith (found host probe session.disk path) := by
  have nothing : metadata.mergedWith {} = metadata := by
    simp only [AssetMetadata.mergedWith, Option.orElse_eq_orElse, Option.orElse_eq_or,
      Option.or_none]
  cases probe with
  | none => exact nothing.symm
  | some ffprobe =>
      unfold found fillGaps
      rw [Option.bind_some, ← probeFile_result]
      dsimp only
      obtain ⟨result, after⟩ := probeFile host ffprobe path session
      cases result with
      | error _ => exact nothing.symm
      | ok _ => rfl

/-! ## Loading assets -/

/-- What a loaded asset takes over from its file and from the manifest. -/
def content (asset : Asset) : Except FileFault Bytes × MediaKind := (.ok asset.bytes, asset.kind)

/-- What a disk and the manifest say of an asset. -/
def contentOf (host : Host) (disk : Disk) (source : AssetSource) :
    Except FileFault Bytes × MediaKind :=
  (disk.read host.directory source.path, source.kind)

/-- The asset that a source is loaded into, if its file can be read. -/
def assetOf (host : Host) (probe : Option String) (disk : Disk) (source : AssetSource) : Asset :=
  ⟨(disk.read host.directory source.path).toOption.getD [], source.kind,
    (declared source).mergedWith (found host probe disk source.path)⟩

/-- The reason for which an asset is not loaded. -/
def unread (source : AssetSource) (fault : FileFault) : Failure :=
  .ofFault ("Failed to read asset " ++ source.path) fault

theorem content_assetOf {disk : Disk} {source : AssetSource} {bytes : Bytes}
    (readable : disk.read host.directory source.path = .ok bytes) :
    content (assetOf host probe disk source) = contentOf host disk source := by
  unfold content assetOf contentOf
  rw [readable]
  rfl

theorem loadAsset_quiet (reports : OnlyReports host probe) (source : AssetSource)
    (session : Session) : session.Quiet (loadAsset host probe source session).2 := by
  unfold loadAsset
  split
  · exact .refl session
  · exact fillGaps_quiet reports source.path (declared source) session

theorem loadAsset_error {source : AssetSource} {fault : FileFault}
    (unreadable : session.disk.read host.directory source.path = .error fault) :
    loadAsset host probe source session = (.error (unread source fault), session) := by
  unfold loadAsset
  rw [unreadable]
  rfl

theorem loadAsset_ok (probe : Option String) {source : AssetSource} {bytes : Bytes}
    (readable : session.disk.read host.directory source.path = .ok bytes) :
    ∃ after, loadAsset host probe source session =
      (.ok (assetOf host probe session.disk source), after) := by
  unfold loadAsset assetOf
  rw [readable, ← fillGaps_eq]
  exact ⟨_, rfl⟩

/-- Files that can all be read are all loaded, in their order. -/
theorem loadAssets_ok (reports : OnlyReports host probe) {sources : List AssetSource}
    (readable : ∀ source ∈ sources,
      ∃ bytes, session.disk.read host.directory source.path = .ok bytes) :
    ∃ after, loadAssets host probe sources session =
      (.ok (sources.map (assetOf host probe session.disk)), after) := by
  induction sources generalizing session with
  | nil => exact ⟨session, rfl⟩
  | cons source rest ih =>
      rw [List.forall_mem_cons] at readable
      obtain ⟨⟨bytes, first⟩, others⟩ := readable
      have quiet := loadAsset_quiet reports source session
      obtain ⟨middle, loaded⟩ := loadAsset_ok probe first
      rw [loaded] at quiet
      rw [← quiet.disk] at others
      obtain ⟨after, remaining⟩ := ih others
      refine ⟨after, ?_⟩
      rw [loadAssets, loaded]
      dsimp only
      rw [remaining, quiet.disk]
      rfl

/-- The first file that cannot be read ends the loading. -/
theorem loadAssets_error (reports : OnlyReports host probe) {earlier : List AssetSource}
    (later : List AssetSource) {source : AssetSource} {fault : FileFault}
    (readable : ∀ source ∈ earlier,
      ∃ bytes, session.disk.read host.directory source.path = .ok bytes)
    (unreadable : session.disk.read host.directory source.path = .error fault) :
    (loadAssets host probe (earlier ++ source :: later) session).1 =
      .error (unread source fault) := by
  induction earlier generalizing session with
  | nil =>
      rw [List.nil_append, loadAssets, loadAsset_error unreadable]
  | cons first rest ih =>
      rw [List.forall_mem_cons] at readable
      obtain ⟨⟨bytes, here⟩, others⟩ := readable
      have quiet := loadAsset_quiet reports first session
      obtain ⟨middle, loaded⟩ := loadAsset_ok probe here
      rw [loaded] at quiet
      rw [← quiet.disk] at others unreadable
      have fails := ih others unreadable
      rw [List.cons_append, loadAssets, loaded]
      dsimp only
      split
      · rename_i result
        rw [result] at fails
        exact fails
      · rename_i result
        rw [result] at fails
        cases fails

/-! ## Compositions -/

end Cli

/-- The sources of a manifest in the order of the engine's inputs. -/
def Manifest.playOrder (manifest : Manifest) : List AssetSource :=
  manifest.prepend ++ manifest.main :: manifest.append ++ manifest.overlays.map (·.asset)

/-- The composition of a manifest with an asset for each of its sources. -/
def Manifest.compose (manifest : Manifest) (f : AssetSource → Asset) : Composition where
  main := f manifest.main
  prepend := manifest.prepend.map f
  append := manifest.append.map f
  overlays := manifest.overlays.map fun entry => ⟨f entry.asset, entry.spec⟩
  fragments := manifest.customFilters
  output := manifest.output

theorem Manifest.mem_sources_of_mem_playOrder {manifest : Manifest} {source : AssetSource}
    (played : source ∈ manifest.playOrder) : source ∈ manifest.sources := by
  simp only [playOrder, List.mem_append, List.mem_cons] at played
  simp only [sources, otherSources, List.mem_cons, List.mem_append]
  tauto

namespace Cli

variable {host : Host} {probe : Option String} {session : Session}

/-- The assets of a manifest's sources are sorted into its four lists. -/
theorem assemble_map (manifest : Manifest) (f : AssetSource → Asset) :
    assemble manifest (f manifest.main) (manifest.otherSources.map f) = manifest.compose f := by
  have layers : ((manifest.overlays.map (·.asset)).map f).zip manifest.overlays =
      manifest.overlays.map fun entry => (f entry.asset, entry) := by
    rw [List.map_map]
    exact List.map_prod_right_eq_zip.symm
  have clips : manifest.prepend.length + manifest.append.length =
      (manifest.prepend.map f ++ manifest.append.map f).length := by
    simp
  unfold assemble Manifest.otherSources Manifest.compose
  rw [clips, List.map_append, List.map_append, List.drop_left, layers, List.append_assoc,
    List.take_left' (List.length_map _), List.drop_left' (List.length_map _),
    List.take_left' (List.length_map _), List.map_map]
  rfl

/-- A composition of a manifest around the files that stand on a disk. -/
structure IsLoaded (host : Host) (disk : Disk) (manifest : Manifest) (composition : Composition) :
    Prop where
  inputs : composition.inputs.map content = manifest.playOrder.map (contentOf host disk)
  specs : composition.overlays.map (·.spec) = manifest.overlays.map (·.spec)
  fragments : composition.fragments = manifest.customFilters
  output : composition.output = manifest.output

theorem isLoaded_compose {disk : Disk} {manifest : Manifest}
    (readable : ∀ source ∈ manifest.sources,
      ∃ bytes, disk.read host.directory source.path = .ok bytes) :
    IsLoaded host disk manifest (manifest.compose (assetOf host probe disk)) := by
  refine ⟨?_, ?_, rfl, rfl⟩
  · have inputs : (manifest.compose (assetOf host probe disk)).inputs =
        manifest.playOrder.map (assetOf host probe disk) := by
      simp [Manifest.compose, Composition.inputs, Composition.sequence, Manifest.playOrder]
    rw [inputs, List.map_map]
    refine List.map_congr_left fun source played => ?_
    obtain ⟨bytes, reads⟩ := readable source (Manifest.mem_sources_of_mem_playOrder played)
    exact content_assetOf reads
  · simp [Manifest.compose]

/-- A manifest of which all files can be read is loaded. -/
theorem loadComposition_eq (reports : OnlyReports host probe) {manifest : Manifest}
    (readable : ∀ source ∈ manifest.sources,
      ∃ bytes, session.disk.read host.directory source.path = .ok bytes) :
    ∃ after, loadComposition host probe manifest session =
      (.ok (manifest.compose (assetOf host probe session.disk)), after) := by
  unfold Manifest.sources at readable
  rw [List.forall_mem_cons] at readable
  obtain ⟨⟨bytes, first⟩, others⟩ := readable
  have quiet := loadAsset_quiet reports manifest.main session
  obtain ⟨middle, loaded⟩ := loadAsset_ok probe first
  rw [loaded] at quiet
  rw [← quiet.disk] at others
  obtain ⟨after, remaining⟩ := loadAssets_ok reports others
  refine ⟨after, ?_⟩
  unfold loadComposition
  rw [loaded]
  dsimp only
  rw [remaining, quiet.disk]
  dsimp only
  rw [assemble_map]

theorem loadComposition_ok (reports : OnlyReports host probe) {manifest : Manifest}
    (readable : ∀ source ∈ manifest.sources,
      ∃ bytes, session.disk.read host.directory source.path = .ok bytes) :
    ∃ composition after, loadComposition host probe manifest session = (.ok composition, after) ∧
      IsLoaded host session.disk manifest composition := by
  obtain ⟨after, loads⟩ := loadComposition_eq reports readable
  exact ⟨_, after, loads, isLoaded_compose readable⟩

theorem loadComposition_error (reports : OnlyReports host probe) {manifest : Manifest}
    {earlier later : List AssetSource} {source : AssetSource} {fault : FileFault}
    (split : manifest.sources = earlier ++ source :: later)
    (readable : ∀ source ∈ earlier,
      ∃ bytes, session.disk.read host.directory source.path = .ok bytes)
    (unreadable : session.disk.read host.directory source.path = .error fault) :
    (loadComposition host probe manifest session).1 = .error (unread source fault) := by
  -- loading a manifest is loading its sources and then sorting them
  have fails := loadAssets_error reports later readable unreadable
  rw [← split, Manifest.sources, loadAssets] at fails
  unfold loadComposition
  split at fails
  · exact congrArg Except.error (Except.error.inj fails)
  · split at fails
    · exact congrArg Except.error (Except.error.inj fails)
    · cases fails

/-! ## Inputs of the engine -/

theorem inputs_of_plan {composition : Composition} {program : Program}
    (planned : composition.plan = .ok program) : program.inputs = composition.inputs := by
  rcases Composition.built_of_plan planned with full | single
  · obtain ⟨-, -, streams, -, assembled⟩ := composition.compile_ok_iff.mp full
    obtain ⟨-, rfl⟩ := composition.assemble_ok_iff.mp assembled
    rfl
  · obtain ⟨-, -, assembled⟩ := composition.singlePass_ok_iff.mp single
    obtain ⟨-, rfl⟩ := composition.assemble_ok_iff.mp assembled
    rfl

/-- A process of the engine that is given files in the order of a manifest, with
the content that they had on a disk. -/
def IsFed (host : Host) (disk : Disk) (manifest : Manifest) (program : Program)
    (other : Host) (config : EngineConfig) (launch : Launch) : Prop :=
  launch.program = config.ffmpeg ∧ ∃ (paths : List String) (output : String),
    launch.args = ["-y", "-hide_banner", "-nostdin", "-v", config.logLevel] ++
      paths.flatMap (["-i", ·]) ++
      (if program.graphText.isEmpty then [] else ["-filter_complex", program.graphText]) ++
      program.args ++ [output] ∧
    paths.map (launch.disk.read other.directory) =
      manifest.playOrder.map fun source => disk.read host.directory source.path

/-- A request starts its engine if it can, and it is given the files of the
manifest. -/
theorem IsLoaded.isFed {disk : Disk} {manifest : Manifest} {composition : Composition}
    (loaded : IsLoaded host disk manifest composition) {program : Program}
    (planned : composition.plan = .ok program) (request : Request) (other : Host)
    (config : EngineConfig) (start : Session) :
    ∃ started, (request.execute other config program start).2.launches =
        start.launches ++ started ∧
      (started ≠ [] ↔ request.CanStart other config program start) ∧
      ∀ launch ∈ started.head?, IsFed host disk manifest program other config launch := by
  obtain ⟨started, launches, starts⟩ := request.execute_starts other config program start
  refine ⟨started, launches, starts.ne_nil_iff, ?_⟩
  intro launch first
  cases starts with
  | nothing fails unready => cases first
  | @engine staging inputs disk' behaviour probes comes starts others off =>
      obtain rfl := Option.some.inj first
      obtain ⟨opened, created, staged⟩ := comes
      have reads := Staging.stageFrom_reads (Staging.create_ok created).1 staged
      refine ⟨rfl, inputs, staging.outputPath program.format, rfl, ?_⟩
      have contents := congrArg (List.map Prod.fst) loaded.inputs
      rw [List.map_map, List.map_map] at contents
      rw [reads, inputs_of_plan planned]
      exact contents

/-- The files of a manifest are loaded into a composition whose inputs they are,
in the order of the engine. The engine is started if the inputs can be staged and
it can be, and it is given files with just this content. The first file that
cannot be read, in the order of loading, is the one that the failure names. -/
theorem loads_in_order (host : Host) (probe : Option String) (manifest : Manifest)
    (session : Session) (reports : OnlyReports host probe) :
    ((∀ source ∈ manifest.sources,
        ∃ bytes, session.disk.read host.directory source.path = .ok bytes) →
      ∃ composition after,
        loadComposition host probe manifest session = (.ok composition, after) ∧
        IsLoaded host session.disk manifest composition ∧
        ∀ program, composition.plan = .ok program → ∀ request other config start,
          ∃ started, (Request.execute request other config program start).2.launches =
              start.launches ++ started ∧
            (started ≠ [] ↔ Request.CanStart request other config program start) ∧
            ∀ launch ∈ started.head?,
              IsFed host session.disk manifest program other config launch) ∧
    ∀ earlier source later fault, manifest.sources = earlier ++ source :: later →
      (∀ source ∈ earlier, ∃ bytes, session.disk.read host.directory source.path = .ok bytes) →
      session.disk.read host.directory source.path = .error fault →
        (loadComposition host probe manifest session).1 =
          .error ⟨["Failed to read asset " ++ source.path, fault.message]⟩ := by
  refine ⟨fun readable => ?_, fun earlier source later fault split readable unreadable => ?_⟩
  · obtain ⟨composition, after, loads, loaded⟩ := loadComposition_ok reports readable
    exact ⟨composition, after, loads, loaded, fun program planned => loaded.isFed planned⟩
  · exact loadComposition_error reports split readable unreadable

/-- A manifest with a clip on each side of the main one and a layer. -/
def sandwich : Manifest where
  main := { path := "main.mp4" }
  prepend := [{ path := "intro.mp4" }]
  append := [{ path := "outro.mp4" }]
  overlays := [⟨{ path := "logo.mov" }, { opacity := 0.5 }⟩]

/-- A session with some files in the working directory. -/
def shelf (names : List String) : Session where
  disk := ⟨Request.benchSession.disk.entries ++
    names.map fun name => (["home", name], .file name.toUTF8.data.toList false)⟩

/-- A session with all files of that manifest. -/
def stocked : Session := shelf ["logo.mov", "main.mp4", "outro.mp4", "intro.mp4"]

/-- A manifest with the main clip and the layer only. -/
def badged : Manifest := { sandwich with prepend := [], append := [] }

/-- Whether a process comes of the plan of what was loaded, on the same host. -/
def plansToStart (request : Request) (host : Host)
    (loaded : Except Failure Composition × Session) : Bool :=
  match loaded with
  | (.error _, _) => false
  | (.ok composition, after) =>
      match composition.plan with
      | .error _ => false
      | .ok program => !((request.execute host {} program after).2.launches.drop
          after.launches.length).isEmpty

theorem exists_of_plansToStart {request : Request} {host : Host} {composition : Composition}
    {after : Session} (starts : plansToStart request host (.ok composition, after) = true) :
    ∃ program, composition.plan = .ok program ∧
      (request.execute host {} program after).2.launches.drop after.launches.length ≠ [] := by
  unfold plansToStart at starts
  dsimp only at starts
  cases planned : composition.plan with
  | error error =>
      rw [planned] at starts
      cases starts
  | ok program =>
      rw [planned] at starts
      refine ⟨program, rfl, fun none => ?_⟩
      dsimp only at starts
      rw [none] at starts
      cases starts

theorem loads_in_order_sandwich :
    (∃ composition after,
      loadComposition Request.bench (some "/bin/ffprobe") sandwich stocked =
        (.ok composition, after) ∧
      IsLoaded Request.bench stocked.disk sandwich composition) ∧
    (∃ composition after program launch others,
      loadComposition Request.bench (some "/bin/ffprobe") badged stocked =
        (.ok composition, after) ∧
      composition.plan = .ok program ∧
      Request.CanStart Request.interrupted Request.bench {} program after ∧
      (Request.interrupted.execute Request.bench {} program after).2.launches =
        after.launches ++ launch :: others ∧
      IsFed Request.bench stocked.disk badged program Request.bench {} launch) ∧
    (loadComposition Request.bench (some "/bin/ffprobe") sandwich
        (shelf ["logo.mov", "main.mp4"])).1 =
      .error ⟨["Failed to read asset intro.mp4", "No such file or directory (os error 2)"]⟩ := by
  have reports : OnlyReports Request.bench (some "/bin/ffprobe") := by
    intro ffprobe named disk path behaviour starts
    obtain rfl := Option.some.inj named
    exact Request.output_of_bench_probe starts
  have readable : ∀ source ∈ sandwich.sources, ∃ bytes,
      stocked.disk.read Request.bench.directory source.path = .ok bytes := by
    intro source member
    apply exists_ok_of_isOk
    exact List.all_eq_true.mp (by decide +kernel : (sandwich.sources.all fun source =>
      (stocked.disk.read Request.bench.directory source.path).isOk) = true) source member
  refine ⟨?_, ?_, ?_⟩
  · obtain ⟨composition, after, loads, loaded, -⟩ :=
      (loads_in_order Request.bench (some "/bin/ffprobe") sandwich stocked reports).1 readable
    exact ⟨composition, after, loads, loaded⟩
  · have readable' : ∀ source ∈ badged.sources, ∃ bytes,
        stocked.disk.read Request.bench.directory source.path = .ok bytes :=
      fun source member => readable source ((by decide : badged.sources ⊆ sandwich.sources) member)
    obtain ⟨composition, after, loads, -, fed⟩ :=
      (loads_in_order Request.bench (some "/bin/ffprobe") badged stocked reports).1 readable'
    have runs : plansToStart Request.interrupted Request.bench
        (loadComposition Request.bench (some "/bin/ffprobe") badged stocked) = true := by
      decide +kernel
    rw [loads] at runs
    obtain ⟨program, planned, some⟩ := exists_of_plansToStart runs
    obtain ⟨started, launches, ready, given⟩ :=
      fed program planned Request.interrupted Request.bench {} after
    rw [launches, List.drop_left] at some
    obtain ⟨launch, others, rfl⟩ := List.exists_cons_of_ne_nil some
    exact ⟨composition, after, program, launch, others, loads, planned, ready.mp some, launches,
      given launch rfl⟩
  · exact (loads_in_order _ _ sandwich _ reports).2 [{ path := "main.mp4" }]
      { path := "intro.mp4" } [{ path := "outro.mp4" }, { path := "logo.mov" }] .notFound rfl
      (by
        intro source member
        obtain rfl := List.mem_singleton.mp member
        exact exists_ok_of_isOk (by decide +kernel))
      (by decide +kernel)

end Cli

end Montage
