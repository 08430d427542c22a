import Montage.Program.Plan
import Montage.Proofs.Composition.Acceptance
import Montage.Proofs.Program.Assembly
import Montage.Proofs.Program.Mixing

/-!
# The two routes

Each route comes down to a graph with its final streams that is then assembled
(`compile_ok_iff`, `singlePass_ok_iff`). Both routes are made of the same parts:
a base, statements that lay layers on its video and statements that mix its
audio. `fullRoute_parts` and `plainRoute_parts` put together what is known of
the parts before a final stream gets the label that is asked for; the parts are
the same whatever label that is (`fullRoute_asking_parts`,
`plainRoute_asking_parts`).
-/

namespace Montage.Composition

variable (composition : Composition)

/-! ## Down to the last step -/

/-- What both routes do with a base: statements for the layers follow, then
statements for the audio, and each final stream gets the label that is asked
for. -/
def finished (graph : FilterGraph) (layering : List Statement) (video : Option String)
    (mixing : List Statement) (audio : Option String) : FilterGraph × Streams :=
  let (graph, video) :=
    relabel .video composition.output.videoLabel (graph.extend layering) video
  let (graph, audio) :=
    relabel .audio composition.output.audioLabel (graph.extend mixing) audio
  (graph, ⟨video, audio⟩)

/-- The graph and the final streams of the full route before any fragments. -/
def fullRoute : FilterGraph × Streams :=
  let base := composition.joined
  let layering := composition.layersOn composition.isSequenced base.2.video
  let mixing := composition.mixLayers base.2.audio
  composition.finished base.1 layering.1 layering.2 mixing.1 mixing.2

/-- The graph and the final streams of the single-pass route. -/
def plainRoute : FilterGraph × Streams :=
  let base := composition.mainStreams
  let layering := composition.plainLayersOn base.video
  let mixing := composition.mixPlainLayers base.audio
  composition.finished {} layering.1 layering.2 mixing.1 mixing.2

/-- The composition with other labels asked for its final streams. -/
def asking (video audio : Option String) : Composition :=
  { composition with
    output := { composition.output with videoLabel := video, audioLabel := audio } }

/-- All clips of a sequence can sound. -/
def AllSound : Prop :=
  composition.isSequenced = true → ∀ clip ∈ composition.sequence, composition.CanSound clip

theorem compile_ok_iff {program : Program} :
    composition.compile = .ok program ↔
      composition.check = .ok () ∧ composition.AllSound ∧
        ∃ streams, composition.fragmentStatements.foldlM afterChain composition.fullRoute.2 =
            .ok streams ∧
          composition.assemble (composition.fullRoute.1.extend composition.fragmentStatements)
            streams (composition.baseResolution composition.isSequenced) false = .ok program := by
  unfold compile
  rw [bind_ok_iff]
  constructor
  · rintro ⟨⟨⟩, accepted, rest⟩
    obtain ⟨result, joins, last⟩ := bind_ok_iff.mp rest
    obtain ⟨sounds, rfl⟩ := composition.join_ok_iff.mp joins
    exact ⟨mapError_ok_iff.mp accepted, sounds, bind_ok_iff.mp last⟩
  · rintro ⟨accepted, sounds, rest⟩
    refine ⟨(), mapError_ok_iff.mpr accepted, ?_⟩
    refine bind_ok_iff.mpr ⟨composition.joined, composition.join_ok_iff.mpr ⟨sounds, rfl⟩, ?_⟩
    exact bind_ok_iff.mpr rest

theorem singlePass_ok_iff {program : Program} :
    composition.singlePass = .ok program ↔
      composition.check = .ok () ∧ composition.isSimple = true ∧
        composition.assemble composition.plainRoute.1 composition.plainRoute.2
          (composition.baseResolution false) true = .ok program := by
  unfold singlePass
  rw [bind_ok_iff]
  constructor
  · rintro ⟨⟨⟩, accepted, rest⟩
    cases simple : composition.isSimple with
    | false =>
        simp only [simple, Bool.not_false, if_true] at rest
        cases rest
    | true =>
        simp only [simple, Bool.not_true, Bool.false_eq_true, if_false] at rest
        exact ⟨mapError_ok_iff.mp accepted, rfl, rest⟩
  · rintro ⟨accepted, simple, rest⟩
    refine ⟨(), mapError_ok_iff.mpr accepted, ?_⟩
    simp only [simple, Bool.not_true, Bool.false_eq_true, if_false]
    exact rest

/-! ## The links of the routes -/

theorem nodup_places (seen : Layer × Nat → Bool) :
    ((composition.overlays.zipIdx.filter seen).map Prod.snd).Nodup := by
  have places : (composition.overlays.zipIdx.map Prod.snd).Nodup := by
    rw [List.zipIdx_map_snd]
    exact List.nodup_range'
  exact places.sublist (List.filter_sublist.map Prod.snd)

theorem nodup_fullLinks :
    (composition.joinLinks ++ composition.layerLinks ++ composition.mixLinks).Nodup := by
  have visual : (composition.visualLayers.map Prod.snd).Nodup :=
    composition.nodup_places (·.1.isVisual)
  have audible : (composition.audibleLayers.map Prod.snd).Nodup :=
    composition.nodup_places (·.1.isAudible)
  simp only [joinLinks, layerLinks, mixLinks, List.nodup_append', List.disjoint_append_left,
    List.disjoint_append_right]
  simp [nodup_numberedLinks, disjoint_numberedLinks, mem_numberedLinks, visual, audible,
    List.nodup_range']

theorem nodup_plainLinks : (composition.plainLayerLinks ++ [LinkName.mixedAudio]).Nodup := by
  have visual : (composition.visualLayers.map Prod.snd).Nodup :=
    composition.nodup_places (·.1.isVisual)
  simp [plainLayerLinks, List.nodup_append', nodup_numberedLinks, mem_numberedLinks, visual]

/-! ## The parts of a route -/

/-- What a route is made of: a base graph with its streams, statements that lay
layers on the video and statements that mix the audio, the streams they lead
to, and the links that each part may declare. -/
structure RouteParts where
  graph : FilterGraph
  baseVideo : Option Feed
  baseAudio : Option Feed
  layering : List Statement
  video : Option Feed
  mixing : List Statement
  audio : Option Feed
  names : List LinkName
  layerNames : List LinkName
  mixNames : List LinkName

namespace RouteParts

/-- Parts that go together over some number of inputs. -/
structure Fit (parts : RouteParts) (n : Nat) : Prop where
  base : parts.graph.Wired n
    (parts.baseVideo.toList.flatMap Feed.links ++ parts.baseAudio.toList.flatMap Feed.links)
  layered : Flow n (parts.baseVideo.toList.flatMap Feed.links) parts.layering
    (parts.video.toList.flatMap Feed.links)
  mixed : Flow n (parts.baseAudio.toList.flatMap Feed.links) parts.mixing
    (parts.audio.toList.flatMap Feed.links)
  videoFits : ∀ feed ∈ parts.video, feed.Fits n .video
  baseAudioFits : ∀ feed ∈ parts.baseAudio, feed.Fits n .audio
  audioFits : ∀ feed ∈ parts.audio, feed.Fits n .audio
  declares : Declares parts.graph.statements parts.names
  declaresLayers : Declares parts.layering parts.layerNames
  declaresMix : Declares parts.mixing parts.mixNames
  distinct : (parts.names ++ parts.layerNames ++ parts.mixNames).Nodup

variable {parts : RouteParts} {n : Nat}

/-- The layers take the base video and leave the base audio open. -/
theorem Fit.wiredLayers (fit : parts.Fit n) :
    (parts.graph.extend parts.layering).Wired n
      (parts.video.toList.flatMap Feed.links ++ parts.baseAudio.toList.flatMap Feed.links) := by
  obtain ⟨-, distinct, apart⟩ :=
    List.nodup_append'.mp (List.nodup_append'.mp fit.distinct).1
  refine fit.base.extendWith fit.layered fit.declaresLayers distinct ?_
  intro name listed declared
  obtain ⟨other, listed', equal⟩ := fit.declares.mem declared
  exact apart (LinkName.text_injective equal ▸ listed') listed

/-- A route put together from its parts. -/
def finish (composition : Composition) (parts : RouteParts) : FilterGraph × Streams :=
  composition.finished parts.graph parts.layering (parts.video.map Feed.label) parts.mixing
    (parts.audio.map Feed.label)

end RouteParts

section

variable {composition}

/-- Without a base video there are no visual layers. -/
theorem visualLayers_of_audio (accepted : composition.check = .ok ())
    (audioOnly : composition.main.isVideo = false) : composition.visualLayers = [] := by
  refine List.eq_nil_iff_forall_not_mem.mpr fun item visual => ?_
  have video := isVideo_of_visual accepted visual
  rw [audioOnly] at video
  exact absurd video (by decide)

/-- The full route leads to the video and the audio of the reference. It mixes
the audio of the clips with that of the layers. Its parts do not depend on the
labels that are asked for. -/
theorem fullRoute_asking_parts (accepted : composition.check = .ok ()) :
    ∃ parts : RouteParts, parts.Fit composition.inputs.length ∧
      (∀ videoLabel audioLabel, (composition.asking videoLabel audioLabel).fullRoute =
        parts.finish (composition.asking videoLabel audioLabel)) ∧
      parts.video.map Feed.signal = composition.videoSignal ∧
      parts.audio.map Feed.signal = composition.audioSignal ∧
      parts.baseAudio = composition.baseAudioFeed ∧
      parts.audio =
        mixedFeed (composition.baseAudioFeed.toList ++ composition.layerAudioFeeds) := by
  have audioOnly : composition.baseVideoFeed = none → composition.visualLayers = [] :=
    fun noVideo => visualLayers_of_audio accepted (composition.baseVideoFeed_eq_none.mp noVideo)
  obtain ⟨video, videoFits, label, signal, layered⟩ :=
    composition.layersOn_flow composition.isSequenced composition.baseVideoFeed_fits audioOnly
  obtain ⟨audioFits, label', mixed⟩ :=
    composition.mixLayers_flow composition.baseAudioFeed_fits
  have base : composition.joined.1.Wired composition.inputs.length
      (composition.baseVideoFeed.toList.flatMap Feed.links ++
        composition.baseAudioFeed.toList.flatMap Feed.links) := by
    have distinct := (List.nodup_append'.mp
      (List.nodup_append'.mp composition.nodup_fullLinks).1).1
    rw [← List.flatMap_append]
    have empty : FilterGraph.Wired {} composition.inputs.length ([] ++ []) := .empty _
    have wired := empty.extendWith composition.join_flow composition.join_declares distinct
      fun _ _ => List.not_mem_nil
    rwa [List.append_nil] at wired
  refine ⟨{
    graph := composition.joined.1
    baseVideo := composition.baseVideoFeed
    baseAudio := composition.baseAudioFeed
    layering := (composition.layersOn composition.isSequenced
      (composition.baseVideoFeed.map Feed.label)).1
    video := video
    mixing := (composition.mixLayers (composition.baseAudioFeed.map Feed.label)).1
    audio := mixedFeed (composition.baseAudioFeed.toList ++ composition.layerAudioFeeds)
    names := composition.joinLinks
    layerNames := composition.layerLinks
    mixNames := composition.mixLinks }, ?_, ?_, ?_, composition.mixedFeed_base,
    rfl, rfl⟩
  · exact ⟨base, layered, mixed, videoFits, composition.baseAudioFeed_fits, audioFits,
      composition.join_declares, composition.layersOn_declares _ _,
      composition.mixLayers_declares _, composition.nodup_fullLinks⟩
  · intro videoLabel audioLabel
    show (composition.asking videoLabel audioLabel).finished composition.joined.1
      (composition.layersOn composition.isSequenced composition.joined.2.video).1
      (composition.layersOn composition.isSequenced composition.joined.2.video).2
      (composition.mixLayers composition.joined.2.audio).1
      (composition.mixLayers composition.joined.2.audio).2 = _
    unfold RouteParts.finish
    simp only [joined_streams, label, label']
  · rw [signal, composition.baseFeed_signals.1, laidVideoSignal_base]

/-- The parts of the full route under the labels that are asked for. -/
theorem fullRoute_parts (accepted : composition.check = .ok ()) :
    ∃ parts : RouteParts, parts.Fit composition.inputs.length ∧
      composition.fullRoute = parts.finish composition ∧
      parts.video.map Feed.signal = composition.videoSignal ∧
      parts.audio.map Feed.signal = composition.audioSignal ∧
      parts.baseAudio = composition.baseAudioFeed ∧
      parts.audio =
        mixedFeed (composition.baseAudioFeed.toList ++ composition.layerAudioFeeds) := by
  obtain ⟨parts, fit, equal, rest⟩ := fullRoute_asking_parts accepted
  exact ⟨parts, fit, equal composition.output.videoLabel composition.output.audioLabel, rest⟩

theorem isSequenced_of_isSimple (simple : composition.isSimple = true) :
    composition.isSequenced = false := by
  unfold isSimple at simple
  simp only [Bool.and_eq_true] at simple
  simp [isSequenced, simple.1.1]

theorem mainStreams_eq (single : composition.isSequenced = false) :
    composition.mainStreams =
      ⟨composition.baseVideoFeed.map Feed.label, composition.baseAudioFeed.map Feed.label⟩ := by
  rw [← joined_streams]
  simp [joined, single]

/-- Plain layers are laid on whatever labels are asked for. -/
theorem plainLayersOn_asking (videoLabel audioLabel base : Option String) :
    (composition.asking videoLabel audioLabel).plainLayersOn base =
      composition.plainLayersOn base := by
  have all : ∀ size current layers,
      (composition.asking videoLabel audioLabel).layAllPlainOn size current layers =
        composition.layAllPlainOn size current layers := by
    intro size current layers
    induction layers generalizing current with
    | nil => rfl
    | cons item rest ih =>
        obtain ⟨layer, place⟩ := item
        simp only [layAllPlainOn, ih]
        rfl
  unfold plainLayersOn
  simp only [all]
  rfl

/-- The single-pass route leads to its layers laid on the main asset's video and
mixed with its audio. It starts from the streams of the main asset. Its parts do
not depend on the labels that are asked for. -/
theorem plainRoute_asking_parts (simple : composition.isSimple = true) :
    ∃ parts : RouteParts, parts.Fit composition.inputs.length ∧
      (∀ videoLabel audioLabel, (composition.asking videoLabel audioLabel).plainRoute =
        parts.finish (composition.asking videoLabel audioLabel)) ∧
      parts.video.map Feed.signal =
        composition.baseVideoSignal.map composition.laidPlainVideoSignal ∧
      parts.audio.map Feed.signal = composition.mixedPlainSignal ∧
      parts.baseAudio = composition.baseAudioFeed := by
  have single := isSequenced_of_isSimple simple
  have overVideo : composition.baseVideoFeed.isSome → composition.main.isVideo = true := by
    unfold baseVideoFeed
    cases composition.main.isVideo <;> simp
  obtain ⟨video, videoFits, label, signal, layered⟩ :=
    composition.plainLayersOn_flow composition.baseVideoFeed_fits overVideo
  obtain ⟨audioFits, label', mixed⟩ :=
    composition.mixPlainLayers_flow composition.baseAudioFeed_fits
  have base : FilterGraph.Wired {} composition.inputs.length
      (composition.baseVideoFeed.toList.flatMap Feed.links ++
        composition.baseAudioFeed.toList.flatMap Feed.links) := by
    have unopened := composition.baseFeeds_links
    simp only [single, Bool.false_eq_true, if_false, baseFeeds, List.flatMap_append] at unopened
    rw [unopened]
    exact .empty _
  refine ⟨{
    graph := {}
    baseVideo := composition.baseVideoFeed
    baseAudio := composition.baseAudioFeed
    layering := (composition.plainLayersOn (composition.baseVideoFeed.map Feed.label)).1
    video := video
    mixing := (composition.mixPlainLayers (composition.baseAudioFeed.map Feed.label)).1
    audio := mixedFeed (composition.baseAudioFeed.toList ++ composition.plainAudioFeeds)
    names := []
    layerNames := composition.plainLayerLinks
    mixNames := [.mixedAudio] }, ?_, ?_, ?_, composition.mixedPlainFeed_base, rfl⟩
  · exact ⟨base, layered, mixed, videoFits, composition.baseAudioFeed_fits, audioFits, .nil [],
      composition.plainLayersOn_declares _, composition.mixPlainLayers_declares _,
      composition.nodup_plainLinks⟩
  · intro videoLabel audioLabel
    show (composition.asking videoLabel audioLabel).finished {}
      ((composition.asking videoLabel audioLabel).plainLayersOn composition.mainStreams.video).1
      ((composition.asking videoLabel audioLabel).plainLayersOn composition.mainStreams.video).2
      (composition.mixPlainLayers composition.mainStreams.audio).1
      (composition.mixPlainLayers composition.mainStreams.audio).2 = _
    unfold RouteParts.finish
    simp only [plainLayersOn_asking, mainStreams_eq single, label, label']
  · rw [signal, composition.baseFeed_signals.1]

/-- The parts of the single-pass route under the labels that are asked for. -/
theorem plainRoute_parts (simple : composition.isSimple = true) :
    ∃ parts : RouteParts, parts.Fit composition.inputs.length ∧
      composition.plainRoute = parts.finish composition ∧
      parts.video.map Feed.signal =
        composition.baseVideoSignal.map composition.laidPlainVideoSignal ∧
      parts.audio.map Feed.signal = composition.mixedPlainSignal ∧
      parts.baseAudio = composition.baseAudioFeed := by
  obtain ⟨parts, fit, equal, rest⟩ := plainRoute_asking_parts simple
  exact ⟨parts, fit, equal composition.output.videoLabel composition.output.audioLabel, rest⟩

end

end Montage.Composition
