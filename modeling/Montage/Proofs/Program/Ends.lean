import Montage.Proofs.Program.Routes

/-!
# Programs of the routes

If the labels that are asked for are none of the routes' own, the final streams
of a route get them one after the other (`stages_of_fit`), and each route ends
in a wired graph whose final streams carry the laid video and the mixed audio
(`fullRoute_endsIn`, `plainRoute_endsIn`). Such a graph is assembled, so both
routes build a program (`compile_eq`, `singlePass_eq`).
-/

namespace Montage.Composition

variable {composition : Composition}

/-! ## The ends of the routes -/

/-- The labels that are asked for are none of the routes' own. -/
def AsksNewLabels (composition : Composition) : Prop :=
  ∀ kind, ∀ label ∈ composition.requested kind, ∀ name : LinkName, name.text ≠ label

/-- A final stream under the label that is asked for. -/
def asked (composition : Composition) (kind : MediaKind) (feed : Option Feed) : Option Feed :=
  feed.map (Feed.named kind (composition.requested kind))

/-- A route that ends in a wired graph with these feeds for its final streams,
each under the label that is asked for. -/
structure EndsIn (composition : Composition) (route : FilterGraph × Streams)
    (video audio : Option Feed) : Prop where
  streams : route.2 = streamsOf (composition.asked .video video) (composition.asked .audio audio)
  wired : route.1.Wired composition.inputs.length
    ((composition.asked .video video).toList.flatMap Feed.links ++
      (composition.asked .audio audio).toList.flatMap Feed.links)
  videoFits : ∀ feed ∈ video, feed.Fits composition.inputs.length .video
  audioFits : ∀ feed ∈ audio, feed.Fits composition.inputs.length .audio

/-- How the final streams of a route get their labels, first the video and then
the audio, each in a wired graph that does not declare its new label yet. -/
structure RouteParts.Stages (composition : Composition) (parts : RouteParts)
    (layered last : FilterGraph) : Prop where
  newVideo : ∀ label ∈ composition.requested .video,
    label ∉ (parts.graph.extend parts.layering).declared
  video : relabel .video (composition.requested .video) (parts.graph.extend parts.layering)
    (parts.video.map Feed.label) = (layered, (composition.asked .video parts.video).map Feed.label)
  mixed : (layered.extend parts.mixing).Wired composition.inputs.length
    (parts.audio.toList.flatMap Feed.links ++
      (composition.asked .video parts.video).toList.flatMap Feed.links)
  newAudio : ∀ label ∈ composition.requested .audio,
    label ∉ (layered.extend parts.mixing).declared
  audio : relabel .audio (composition.requested .audio) (layered.extend parts.mixing)
    (parts.audio.map Feed.label) = (last, (composition.asked .audio parts.audio).map Feed.label)
  wired : last.Wired composition.inputs.length
    ((composition.asked .audio parts.audio).toList.flatMap Feed.links ++
      (composition.asked .video parts.video).toList.flatMap Feed.links)

/-- Parts that go together go through both stages. -/
theorem stages_of_fit {parts : RouteParts} (accepted : composition.check = .ok ())
    (own : composition.AsksNewLabels) (fit : parts.Fit composition.inputs.length) :
    ∃ layered last, parts.Stages composition layered last := by
  obtain ⟨-, distinctMix, apartMix⟩ := List.nodup_append'.mp fit.distinct
  have declared : ∀ label ∈ (parts.graph.extend parts.layering).declared,
      ∃ name ∈ parts.names ++ parts.layerNames, name.text = label := fun label member =>
    (fit.declares.append fit.declaresLayers).mem member
  -- the label of the video
  have newVideo : ∀ label ∈ composition.requested .video,
      label ∉ (parts.graph.extend parts.layering).declared := by
    intro label asked member
    obtain ⟨name, -, equal⟩ := declared label member
    exact own .video label asked name equal
  obtain ⟨layered, video, wired₁, declared₁⟩ := fit.wiredLayers.relabel .video
    (fun feed member => (fit.videoFits feed member).within) (requested_plain accepted .video)
    newVideo
  -- the mix
  have fresh₁ : ∀ name ∈ parts.mixNames, name.text ∉ layered.declared := by
    intro name listed member
    rcases declared₁ _ member with old | asked
    · obtain ⟨other, listed', equal⟩ := declared _ old
      exact apartMix (LinkName.text_injective equal ▸ listed') listed
    · exact own .video _ asked name rfl
  have mixed := (wired₁.perm List.perm_append_comm).extendWith fit.mixed fit.declaresMix
    distinctMix fresh₁
  -- the label of the audio
  have newAudio : ∀ label ∈ composition.requested .audio,
      label ∉ (layered.extend parts.mixing).declared := by
    intro label asked member
    rw [FilterGraph.Wired.declared_extend, List.mem_append] at member
    rcases member with before | mixing
    · rcases declared₁ label before with old | asked'
      · obtain ⟨name, -, equal⟩ := declared label old
        exact own .audio label asked name equal
      · exact requested_ne accepted asked' asked
    · obtain ⟨name, -, equal⟩ := fit.declaresMix.mem mixing
      exact own .audio label asked name equal
  obtain ⟨last, audio, wired₂, -⟩ := mixed.relabel .audio
    (fun feed member => (fit.audioFits feed member).within) (requested_plain accepted .audio)
    newAudio
  exact ⟨layered, last, newVideo, video, mixed, newAudio, audio, wired₂⟩

/-- A route that goes through both stages ends in the last graph. -/
theorem RouteParts.Stages.finish {parts : RouteParts} {layered last : FilterGraph}
    (stages : parts.Stages composition layered last) :
    parts.finish composition = (last, streamsOf (composition.asked .video parts.video)
      (composition.asked .audio parts.audio)) := by
  unfold RouteParts.finish finished
  rw [show composition.output.videoLabel = composition.requested .video from rfl,
    show composition.output.audioLabel = composition.requested .audio from rfl, stages.video]
  simp only [stages.audio]
  rfl

/-- Parts that go together end in a wired graph. -/
theorem endsIn_of_fit {parts : RouteParts} (accepted : composition.check = .ok ())
    (own : composition.AsksNewLabels) (fit : parts.Fit composition.inputs.length) :
    composition.EndsIn (parts.finish composition) parts.video parts.audio := by
  obtain ⟨layered, last, stages⟩ := stages_of_fit accepted own fit
  rw [stages.finish]
  exact ⟨rfl, stages.wired.perm List.perm_append_comm, fit.videoFits, fit.audioFits⟩

/-- The full route ends in the video and the audio of the reference. -/
theorem fullRoute_endsIn (accepted : composition.check = .ok ())
    (own : composition.AsksNewLabels) :
    ∃ video audio, composition.EndsIn composition.fullRoute video audio ∧
      video.map Feed.signal = composition.videoSignal ∧
      audio.map Feed.signal = composition.audioSignal := by
  obtain ⟨parts, fit, equal, seen, heard, -⟩ := fullRoute_parts accepted
  exact ⟨parts.video, parts.audio, equal ▸ endsIn_of_fit accepted own fit, seen, heard⟩

/-- The single-pass route ends in its layers laid on the main asset's video and
mixed with its audio. -/
theorem plainRoute_endsIn (accepted : composition.check = .ok ())
    (simple : composition.isSimple = true) (own : composition.AsksNewLabels) :
    ∃ video audio, composition.EndsIn composition.plainRoute video audio ∧
      video.map Feed.signal =
        composition.baseVideoSignal.map composition.laidPlainVideoSignal ∧
      audio.map Feed.signal = composition.mixedPlainSignal := by
  obtain ⟨parts, fit, equal, seen, heard, -⟩ := plainRoute_parts simple
  exact ⟨parts.video, parts.audio, equal ▸ endsIn_of_fit accepted own fit, seen, heard⟩

/-- The final streams stand for the feeds that a route ends in. -/
theorem EndsIn.signals {route : FilterGraph × Streams} {video audio : Option Feed}
    (ends : composition.EndsIn route video audio) :
    route.2.video.map route.1.signal = (composition.asked .video video).map Feed.signal ∧
      route.2.audio.map route.1.signal = (composition.asked .audio audio).map Feed.signal := by
  rw [ends.streams]
  simp only [streamsOf, Option.map_map]
  refine ⟨Option.map_congr fun feed final => ?_, Option.map_congr fun feed final => ?_⟩
  · refine ends.wired.signal fun link member => List.mem_append_left _ ?_
    exact List.mem_flatMap.mpr ⟨feed, Option.mem_toList.mpr final, member⟩
  · refine ends.wired.signal fun link member => List.mem_append_right _ ?_
    exact List.mem_flatMap.mpr ⟨feed, Option.mem_toList.mpr final, member⟩

/-- No label is asked for. -/
def Unlabelled (composition : Composition) : Prop := ∀ kind, composition.requested kind = none

theorem asked_of_unlabelled (unlabelled : composition.Unlabelled) (kind : MediaKind)
    (feed : Option Feed) : composition.asked kind feed = feed := by
  unfold asked
  rw [unlabelled kind]
  cases feed <;> rfl

theorem asksNewLabels_of_unlabelled (unlabelled : composition.Unlabelled) :
    composition.AsksNewLabels := by
  intro kind label member
  rw [unlabelled kind] at member
  exact absurd member (by simp)

/-! ## The programs of the routes -/

/-- The index of every input is a number of 64 bits, as it is for any list that
a memory holds. Beyond that a stream's label would not be read as one. -/
def Addressable (composition : Composition) : Prop := composition.inputs.length ≤ UInt64.size

/-- The main asset is seen or heard. -/
theorem baseSignal_isSome :
    composition.baseVideoSignal.isSome = true ∨ composition.baseAudioSignal.isSome = true := by
  unfold baseVideoSignal baseAudioSignal
  cases video : composition.main.isVideo with
  | true => exact .inl rfl
  | false =>
      rw [if_pos (composition.anyClipHasAudio_of_audio video)]
      exact .inr rfl

theorem mixedSignal_isSome {base : Option MediaSignal} (some : base.isSome = true)
    (signals : List MediaSignal) : (mixedSignal (base.toList ++ signals)).isSome = true := by
  obtain ⟨signal, rfl⟩ := Option.isSome_iff_exists.mp some
  cases signals <;> rfl

/-- A route that ends so leaves no label unaccounted for. -/
theorem EndsIn.accounted {route : FilterGraph × Streams} {video audio : Option Feed}
    (addressable : composition.Addressable) (ends : composition.EndsIn route video audio)
    (some : (video.map Feed.signal).isSome = true ∨ (audio.map Feed.signal).isSome = true) :
    Accounted route.1 route.2 composition.inputs.length := by
  rw [ends.streams]
  refine accounted_wired addressable ends.wired ?_ ?_
  · rw [List.forall_mem_append]
    constructor
    · intro feed member
      obtain ⟨original, present, rfl⟩ := Option.map_eq_some_iff.mp (Option.mem_toList.mp member)
      exact (Feed.named_fits _ (ends.videoFits original present)).within
    · intro feed member
      obtain ⟨original, present, rfl⟩ := Option.map_eq_some_iff.mp (Option.mem_toList.mp member)
      exact (Feed.named_fits _ (ends.audioFits original present)).within
  · unfold asked
    rcases some with seen | heard
    · obtain ⟨feed, rfl⟩ := Option.isSome_iff_exists.mp (Option.isSome_map.symm.trans seen)
      simp
    · obtain ⟨feed, rfl⟩ := Option.isSome_iff_exists.mp (Option.isSome_map.symm.trans heard)
      simp

theorem fullRoute_accounted (accepted : composition.check = .ok ())
    (addressable : composition.Addressable) (own : composition.AsksNewLabels) :
    Accounted composition.fullRoute.1 composition.fullRoute.2 composition.inputs.length := by
  obtain ⟨video, audio, ends, seen, heard⟩ := fullRoute_endsIn accepted own
  refine ends.accounted addressable ?_
  rw [seen, heard]
  exact baseSignal_isSome.imp (fun some => by simpa [videoSignal] using some)
    fun some => mixedSignal_isSome some _

theorem plainRoute_accounted (accepted : composition.check = .ok ())
    (addressable : composition.Addressable) (own : composition.AsksNewLabels)
    (simple : composition.isSimple = true) :
    Accounted composition.plainRoute.1 composition.plainRoute.2 composition.inputs.length := by
  obtain ⟨video, audio, ends, seen, heard⟩ := plainRoute_endsIn accepted simple own
  refine ends.accounted addressable ?_
  rw [seen, heard]
  exact baseSignal_isSome.imp (fun some => by simpa using some)
    fun some => mixedSignal_isSome some _

/-- The program of the full route without fragments. -/
def fullProgram (composition : Composition) : Program :=
  composition.assembled composition.fullRoute.1 composition.fullRoute.2
    (composition.baseResolution composition.isSequenced) false

/-- The program of the single-pass route. -/
def plainProgram (composition : Composition) : Program :=
  composition.assembled composition.plainRoute.1 composition.plainRoute.2
    (composition.baseResolution false) true

/-- Without fragments nothing follows the full route. -/
theorem compile_plain_iff (unfiltered : composition.fragments = []) {program : Program} :
    composition.compile = .ok program ↔
      composition.check = .ok () ∧ composition.AllSound ∧
        Accounted composition.fullRoute.1 composition.fullRoute.2 composition.inputs.length ∧
          program = composition.fullProgram := by
  have nothing : composition.fragmentStatements = [] := by
    simp [fragmentStatements, unfiltered]
  have same : composition.fullRoute.1.extend [] = composition.fullRoute.1 := by
    simp [FilterGraph.extend]
  rw [compile_ok_iff, nothing, same]
  simp only [List.foldlM_nil]
  constructor
  · rintro ⟨accepted, sounds, _, ⟨⟩, assembled⟩
    exact ⟨accepted, sounds, (composition.assemble_ok_iff.mp assembled)⟩
  · rintro ⟨accepted, sounds, assembled⟩
    exact ⟨accepted, sounds, _, rfl, composition.assemble_ok_iff.mpr assembled⟩

/-- No fragment ever follows the single-pass route. -/
theorem singlePass_plain_iff {program : Program} :
    composition.singlePass = .ok program ↔
      composition.check = .ok () ∧ composition.isSimple = true ∧
        Accounted composition.plainRoute.1 composition.plainRoute.2 composition.inputs.length ∧
          program = composition.plainProgram := by
  rw [singlePass_ok_iff, assemble_ok_iff]
  rfl

/-- The full route succeeds just when the clips can be joined. -/
theorem compile_eq (accepted : composition.check = .ok ())
    (addressable : composition.Addressable) (own : composition.AsksNewLabels)
    (unfiltered : composition.fragments = []) (sounds : composition.AllSound) :
    composition.compile = .ok composition.fullProgram :=
  (compile_plain_iff unfiltered).mpr
    ⟨accepted, sounds, fullRoute_accounted accepted addressable own, rfl⟩

/-- The single-pass route always succeeds where it can be taken. -/
theorem singlePass_eq (accepted : composition.check = .ok ())
    (addressable : composition.Addressable) (own : composition.AsksNewLabels)
    (simple : composition.isSimple = true) :
    composition.singlePass = .ok composition.plainProgram :=
  singlePass_plain_iff.mpr
    ⟨accepted, simple, plainRoute_accounted accepted addressable own simple, rfl⟩

end Montage.Composition
