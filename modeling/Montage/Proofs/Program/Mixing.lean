import Montage.Program.SinglePass
import Montage.Proofs.Program.Joining
import Montage.Proofs.Program.Layering

/-!
# Mixing audio

What the two routes do with audible layers, as flows: the full route fits each
of them to its time window first (`mixLayers_flow`), the single-pass route
takes them as they are (`mixPlainLayers_flow`). The last audio is the mix of
the base audio and the layers, or the only one of them that there is.
-/

namespace Montage.Composition

variable (composition : Composition)

theorem audibleLayers_within : ∀ item ∈ composition.audibleLayers,
    composition.layerIndex item.2 < composition.inputs.length := fun _ member =>
  composition.layerIndex_lt (List.mem_filter.mp member).1

/-! ## Mixing feeds -/

/-- What comes out of mixing. -/
def mixedFeed : List Feed → Option Feed
  | [] => none
  | [feed] => some feed
  | feeds => some (.link "mixa"
      (.output .mix (Filter.mix feeds.length) (feeds.map Feed.signal) 1 0))

theorem mixedFeed_signal (feeds : List Feed) :
    (mixedFeed feeds).map Feed.signal = mixedSignal (feeds.map Feed.signal) := by
  rcases feeds with _ | ⟨first, _ | ⟨second, rest⟩⟩
  · rfl
  · rfl
  · simp [mixedFeed, mixedSignal, Feed.signal]

theorem mixedFeed_fits {n : Nat} {kind : MediaKind} {feeds : List Feed}
    (fits : ∀ feed ∈ feeds, feed.Fits n kind) : ∀ feed ∈ mixedFeed feeds, feed.Fits n kind := by
  rcases feeds with _ | ⟨first, _ | ⟨second, rest⟩⟩
  · simp [mixedFeed]
  · simpa [mixedFeed] using fits
  · rintro feed ⟨rfl⟩
    trivial

theorem mixStreams_flow {n : Nat} {feeds : List Feed} (within : ∀ feed ∈ feeds, feed.Within n) :
    (mixStreams (feeds.map Feed.label)).2 = (mixedFeed feeds).map Feed.label ∧
      Flow n (feeds.flatMap Feed.links) (mixStreams (feeds.map Feed.label)).1
        ((mixedFeed feeds).toList.flatMap Feed.links) := by
  rcases feeds with _ | ⟨first, _ | ⟨second, rest⟩⟩
  · exact ⟨rfl, .refl n _⟩
  · exact ⟨rfl, .refl n _⟩
  · have mix : Flow n _ [⟨.mix, (first :: second :: rest).map Feed.label, ["mixa"],
      Filter.mix (first :: second :: rest).length⟩] _ :=
        Flow.single (first :: second :: rest) rfl within
    refine ⟨rfl, ?_⟩
    show Flow n _ [⟨.mix, (first :: second :: rest).map Feed.label, ["mixa"],
      Filter.mix ((first :: second :: rest).map Feed.label).length⟩] _
    rw [List.length_map]
    exact mix

theorem mixStreams_declares (sources : List String) :
    Declares (mixStreams sources).1 [.mixedAudio] := by
  rcases sources with _ | ⟨first, _ | ⟨second, rest⟩⟩
  · exact .nil _
  · exact .nil _
  · exact List.Sublist.refl _

/-! ## The full route -/

/-- An audible layer in its time window. -/
def layerAudioFeed (layer : Layer) (place : Nat) : Feed :=
  if layer.spec.isTimed then
    .link (layerLabel place "audio")
      (.chain .audioTiming (Filter.audioTiming layer.spec.start layer.spec.finish)
        (inputSignal .audio (composition.layerIndex place)))
  else .source .audio (composition.layerIndex place)

theorem layerAudioFeed_signal (layer : Layer) (place : Nat) :
    (composition.layerAudioFeed layer place).signal = composition.layerAudioSignal layer place := by
  unfold layerAudioFeed layerAudioSignal filteredIf
  cases layer.spec.isTimed <;> rfl

theorem layerAudioFeed_fits {n place : Nat} (layer : Layer)
    (bound : composition.layerIndex place < n) :
    (composition.layerAudioFeed layer place).Fits n .audio := by
  unfold layerAudioFeed
  cases layer.spec.isTimed with
  | false => exact ⟨rfl, bound⟩
  | true => trivial

theorem layerAudio_flow {n place : Nat} (layer : Layer)
    (bound : composition.layerIndex place < n) :
    (composition.layerAudio layer place).2 = (composition.layerAudioFeed layer place).label ∧
      Flow n [] (composition.layerAudio layer place).1
        (composition.layerAudioFeed layer place).links := by
  unfold layerAudio layerAudioFeed
  cases layer.spec.isTimed with
  | false => exact ⟨rfl, .refl n []⟩
  | true =>
      have source : (Feed.source .audio (composition.layerIndex place)).Within n := bound
      exact ⟨rfl, Flow.chain source .audioTiming
        (Filter.audioTiming layer.spec.start layer.spec.finish) (layerLabel place "audio")⟩

theorem layerAudio_declares (layer : Layer) (place : Nat) :
    Declares (composition.layerAudio layer place).1 [.numbered .timedAudio place] := by
  have timed := layerLabel_eq place .timedAudio "audio" rfl rfl
  unfold Declares layerAudio
  cases layer.spec.isTimed <;> simp [Statement.chain, timed]

-- From here on it does not matter when a layer is timed.
attribute [local irreducible] layerAudioFeed

/-- The audible layers in their time windows. -/
def layerAudioFeeds : List Feed :=
  composition.audibleLayers.map fun (layer, place) => composition.layerAudioFeed layer place

theorem layerAudioFeeds_fits :
    ∀ feed ∈ composition.layerAudioFeeds, feed.Fits composition.inputs.length .audio := by
  intro feed member
  obtain ⟨⟨layer, place⟩, audible, rfl⟩ := List.mem_map.mp member
  exact composition.layerAudioFeed_fits layer (composition.audibleLayers_within _ audible)

/-- The base audio mixed with the layers of the full route is the audio of the
reference. -/
theorem mixedFeed_base :
    (mixedFeed (composition.baseAudioFeed.toList ++ composition.layerAudioFeeds)).map Feed.signal =
      composition.audioSignal := by
  rw [mixedFeed_signal, audioSignal, List.map_append, ← composition.baseFeed_signals.2,
    Option.toList_map, layerAudioFeeds, audibleLayers, List.map_map]
  simp only [Function.comp_def, layerAudioFeed_signal]

/-- The full route mixes the base audio with its layers. -/
theorem mixLayers_flow {base : Option Feed}
    (fits : ∀ feed ∈ base, feed.Fits composition.inputs.length .audio) :
    (∀ feed ∈ mixedFeed (base.toList ++ composition.layerAudioFeeds),
        feed.Fits composition.inputs.length .audio) ∧
      (composition.mixLayers (base.map Feed.label)).2 =
        (mixedFeed (base.toList ++ composition.layerAudioFeeds)).map Feed.label ∧
      Flow composition.inputs.length (base.toList.flatMap Feed.links)
        (composition.mixLayers (base.map Feed.label)).1
        ((mixedFeed (base.toList ++ composition.layerAudioFeeds)).toList.flatMap Feed.links) := by
  have each : ∀ item ∈ composition.audibleLayers,
      (composition.layerAudio item.1 item.2).2 =
          (composition.layerAudioFeed item.1 item.2).label ∧
        Flow composition.inputs.length [] (composition.layerAudio item.1 item.2).1
          (composition.layerAudioFeed item.1 item.2).links := fun item member =>
    composition.layerAudio_flow item.1 (composition.audibleLayers_within item member)
  -- the route hands on labels, the flows hand on feeds
  have labels : (base.map Feed.label).toList ++
      (composition.audibleLayers.map fun (layer, place) =>
        composition.layerAudio layer place).map (·.2) =
      (base.toList ++ composition.layerAudioFeeds).map Feed.label := by
    simp only [List.map_append, Option.toList_map, layerAudioFeeds, List.map_map,
      Function.comp_def]
    exact congrArg _ (List.map_congr_left fun item member => by rw [(each item member).1])
  have all : ∀ feed ∈ base.toList ++ composition.layerAudioFeeds,
      feed.Fits composition.inputs.length .audio := by
    rw [List.forall_mem_append]
    exact ⟨by simpa using fits, composition.layerAudioFeeds_fits⟩
  obtain ⟨label, mixing⟩ := mixStreams_flow fun feed member => (all feed member).within
  have timing : Flow composition.inputs.length []
      ((composition.audibleLayers.map fun (layer, place) =>
        composition.layerAudio layer place).flatMap (·.1))
      (composition.layerAudioFeeds.flatMap Feed.links) := by
    rw [layerAudioFeeds, List.flatMap_map, List.flatMap_map]
    exact Flow.flatMap fun item member => (each item member).2
  unfold mixLayers
  simp only [labels]
  refine ⟨mixedFeed_fits all, label, ?_⟩
  rw [List.flatMap_append] at mixing
  have opened := timing.frame_left (base.toList.flatMap Feed.links)
  rw [List.append_nil] at opened
  exact opened.append mixing

/-- The links that mixing may declare on the full route. -/
def mixLinks : List LinkName :=
  numberedLinks [.timedAudio] (composition.audibleLayers.map Prod.snd) ++ [.mixedAudio]

theorem mixLayers_declares (base : Option String) :
    Declares (composition.mixLayers base).1 composition.mixLinks := by
  have timing : Declares
      ((composition.audibleLayers.map fun (layer, place) =>
        composition.layerAudio layer place).flatMap (·.1))
      (numberedLinks [.timedAudio] (composition.audibleLayers.map Prod.snd)) := by
    rw [List.flatMap_map]
    exact .numbered fun item _ => composition.layerAudio_declares item.1 item.2
  exact timing.append (mixStreams_declares _)

/-! ## The single-pass route -/

/-- The audible layers as they are. -/
def plainAudioFeeds : List Feed :=
  composition.audibleLayers.map fun (_, place) => .source .audio (composition.layerIndex place)

theorem plainAudioFeeds_fits :
    ∀ feed ∈ composition.plainAudioFeeds, feed.Fits composition.inputs.length .audio := by
  intro feed member
  obtain ⟨item, audible, rfl⟩ := List.mem_map.mp member
  exact ⟨rfl, composition.audibleLayers_within item audible⟩

/-- The base audio mixed with the layers of the single-pass route. -/
def mixedPlainSignal : Option MediaSignal :=
  mixedSignal (composition.baseAudioSignal.toList ++ composition.audibleLayers.map fun (_, place) =>
    inputSignal .audio (composition.layerIndex place))

theorem mixedPlainFeed_base :
    (mixedFeed (composition.baseAudioFeed.toList ++ composition.plainAudioFeeds)).map Feed.signal =
      composition.mixedPlainSignal := by
  rw [mixedFeed_signal, mixedPlainSignal, List.map_append, ← composition.baseFeed_signals.2,
    Option.toList_map, plainAudioFeeds, List.map_map]
  rfl

/-- The single-pass route mixes the base audio with its layers. -/
theorem mixPlainLayers_flow {base : Option Feed}
    (fits : ∀ feed ∈ base, feed.Fits composition.inputs.length .audio) :
    (∀ feed ∈ mixedFeed (base.toList ++ composition.plainAudioFeeds),
        feed.Fits composition.inputs.length .audio) ∧
      (composition.mixPlainLayers (base.map Feed.label)).2 =
        (mixedFeed (base.toList ++ composition.plainAudioFeeds)).map Feed.label ∧
      Flow composition.inputs.length (base.toList.flatMap Feed.links)
        (composition.mixPlainLayers (base.map Feed.label)).1
        ((mixedFeed (base.toList ++ composition.plainAudioFeeds)).toList.flatMap Feed.links) := by
  have labels : (base.map Feed.label).toList ++
      (composition.audibleLayers.map fun (_, place) =>
        streamLabel .audio (composition.layerIndex place)) =
      (base.toList ++ composition.plainAudioFeeds).map Feed.label := by
    rw [List.map_append, Option.toList_map, plainAudioFeeds, List.map_map]
    rfl
  have all : ∀ feed ∈ base.toList ++ composition.plainAudioFeeds,
      feed.Fits composition.inputs.length .audio := by
    rw [List.forall_mem_append]
    exact ⟨by simpa using fits, composition.plainAudioFeeds_fits⟩
  -- layers are taken as they are, so mixing uses up no links but that of the base
  have unopened : composition.plainAudioFeeds.flatMap Feed.links = [] := by
    simp [plainAudioFeeds, List.flatMap_map, Feed.links]
  obtain ⟨label, mixing⟩ := mixStreams_flow fun feed member => (all feed member).within
  rw [List.flatMap_append, unopened, List.append_nil] at mixing
  unfold mixPlainLayers
  rw [labels]
  exact ⟨mixedFeed_fits all, label, mixing⟩

theorem mixPlainLayers_declares (base : Option String) :
    Declares (composition.mixPlainLayers base).1 [.mixedAudio] := mixStreams_declares _

end Montage.Composition
