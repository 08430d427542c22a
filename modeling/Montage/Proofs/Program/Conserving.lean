import Montage.Proofs.Graph.Conservation
import Montage.Proofs.Program.Routes

/-!
# Conservation along the routes

Both routes are given the same streams of the inputs: the video of each clip and
of each visual layer, and the audio of each clip that has some and of each
audible layer (`Composition.inputStreams`). Each step of a route conserves what
it is given, so both routes do (`fullRoute_conserves`, `plainRoute_conserves`),
whatever labels are asked for.
-/

namespace Montage

namespace Composition

variable (composition : Composition)

/-! ## The streams that are given -/

/-- The label of a stream by its kind and its index. -/
def labelOf (stream : MediaKind × Nat) : String := streamLabel stream.1 stream.2

theorem labelOf_injective : Function.Injective labelOf := by
  rintro ⟨kind, index⟩ ⟨kind', index'⟩ same
  exact Prod.ext (streamLabel_inj.mp same).1 (streamLabel_inj.mp same).2

/-- The streams of a clip. -/
def clipStreams (clip : Asset) (index : Nat) : List (MediaKind × Nat) :=
  (if composition.main.isVideo then [(.video, index)] else []) ++
  (if clip.hasAudio then [(.audio, index)] else [])

/-- The streams of layers of a kind. -/
def layerStreams (kind : MediaKind) (layers : List (Layer × Nat)) : List (MediaKind × Nat) :=
  layers.map fun (_, place) => (kind, composition.layerIndex place)

/-- The streams of all clips that a program is made of. -/
def sequenceStreams : List (MediaKind × Nat) :=
  composition.sequence.zipIdx.flatMap fun item => composition.clipStreams item.1 item.2

/-- The streams of the inputs that a program is made of. -/
def inputStreams : List (MediaKind × Nat) :=
  composition.sequenceStreams ++ composition.layerStreams .video composition.visualLayers ++
    composition.layerStreams .audio composition.audibleLayers

/-! ## Joining -/

theorem joinable_conserves {clip : Asset} (member : clip ∈ composition.sequence) (index : Nat) :
    Conserves ((composition.clipStreams clip index).map labelOf) (composition.joinable clip index)
      ((composition.joinable clip index).flatMap (·.outputs)) := by
  have heard : clip.hasAudio = true → composition.anyClipHasAudio = true := fun audio =>
    List.any_eq_true.mpr ⟨clip, member, audio⟩
  have inputs : (composition.joinable clip index).flatMap (·.inputs) =
      (composition.clipStreams clip index).map labelOf := by
    unfold joinable clipStreams clipAudioStatement clipVideo
    cases audio : clip.hasAudio with
    | true =>
        rw [heard audio]
        cases composition.main.isVideo <;> simp [Statement.chain, labelOf]
    | false =>
        cases composition.main.isVideo <;> cases composition.anyClipHasAudio <;>
          simp [Statement.chain, labelOf]
  rw [← inputs]
  exact .whole _

theorem joined_conserves :
    Conserves (composition.sequenceStreams.map labelOf) composition.joined.1.statements
      composition.joined.2.labels := by
  unfold joined sequenceStreams
  cases sequenced : composition.isSequenced with
  | false =>
      -- a single clip is the main asset, and its streams are left as they are
      obtain ⟨sequence, main⟩ := composition.sequence_of_single sequenced
      have streams : composition.mainStreams.labels =
          (composition.clipStreams composition.main 0).map labelOf := by
        unfold mainStreams Streams.labels clipStreams
        rw [main]
        cases composition.main.isVideo <;> cases composition.main.hasAudio <;> rfl
      simpa [sequence, streams] using Conserves.nil _
  | true =>
      have clips := Conserves.flatMap fun item (member : item ∈ composition.sequence.zipIdx) =>
        composition.joinable_conserves (List.fst_mem_of_mem_zipIdx member) item.2
      rw [← List.flatMap_assoc] at clips
      rw [List.map_flatMap]
      exact clips.append (.one rfl rfl)

/-! ## Laying layers on -/

theorem linkSteps_conserves (place : Nat) (input : String) (steps : List PreparationStep) :
    Conserves [input] (linkSteps place input steps).1 [(linkSteps place input steps).2] := by
  induction steps generalizing input with
  | nil => exact .nil _
  | cons step rest ih =>
      cases rest with
      | nil => exact .one rfl rfl
      | cons next rest =>
          have first : Conserves [input]
              [.chain step.kind input step.body (layerLabel place step.name)]
              [layerLabel place step.name] := .one rfl rfl
          exact first.append (ih _)

/-- A stream that is filtered while another one waits for it. -/
theorem filtered_conserves {chain overlay : Statement} {current input label : String}
    {left : List String} (filters : Conserves [input] [chain] [label])
    (overlays : Conserves [current, label] [overlay] left) :
    Conserves [current, input] [chain, overlay] left :=
  ((filters.frame [current]).perm List.perm_append_comm List.perm_append_comm).append overlays

theorem layOn_conserves (current : String) (layer : Layer) (place : Nat) (prepared : String) :
    Conserves [current, prepared] (layOn current layer place prepared).1
      [(layOn current layer place prepared).2] := by
  unfold layOn
  by_cases translucent : layer.spec.opacity < 1
  · simp only [translucent, if_true]
    exact filtered_conserves (.one rfl rfl) (.one rfl rfl)
  · simp only [translucent, if_false]
    exact .one rfl rfl

theorem layAllOn_conserves (layers : List (Layer × Nat × String)) (current : String) :
    Conserves (current :: layers.map (·.2.2)) (layAllOn current layers).1
      [(layAllOn current layers).2] := by
  induction layers generalizing current with
  | nil => exact .nil _
  | cons item rest ih =>
      obtain ⟨layer, place, prepared⟩ := item
      have first := (layOn_conserves current layer place prepared).frame (rest.map (·.2.2))
      exact first.append (ih _)

/-- The layers of the full route; without a base there must be no visual
layers. -/
theorem layersOn_conserves (sequenced : Bool) {base : Option String}
    (audioOnly : base = none → composition.visualLayers = []) :
    Conserves
      (base.toList ++ (composition.layerStreams .video composition.visualLayers).map labelOf)
      (composition.layersOn sequenced base).1 (composition.layersOn sequenced base).2.toList := by
  unfold layersOn
  cases base with
  | none =>
      rw [audioOnly rfl]
      exact .nil []
  | some current =>
      let size := (composition.baseResolution sequenced).getD .fullHD
      have preparing := Conserves.flatMap fun item (_ : item ∈ composition.visualLayers) =>
        linkSteps_conserves item.2 (streamLabel .video (composition.layerIndex item.2))
          (preparation size item.1.spec)
      have laying := layAllOn_conserves (composition.visualLayers.map fun item =>
        (item.1, item.2, (composition.prepareLayer size item.1 item.2).2)) current
      -- all layers are prepared while the base waits
      have waiting := (preparing.frame [current]).perm List.perm_append_comm List.perm_append_comm
      simp only [← List.map_eq_flatMap] at waiting
      simpa [layerStreams, labelOf, prepareLayer, size, List.flatMap_map, Function.comp_def]
        using waiting.append (by simpa [prepareLayer, Function.comp_def] using laying)

theorem layPlainOn_conserves (base : Resolution) (current : String) (layer : Layer) (place : Nat) :
    Conserves [current, streamLabel .video (composition.layerIndex place)]
      (composition.layPlainOn base current layer place).1
      [(composition.layPlainOn base current layer place).2] := by
  rw [layPlainOn_eq]
  cases plainSteps base layer.spec with
  | nil => exact .one rfl rfl
  | cons step rest => exact filtered_conserves (.one rfl rfl) (.one rfl rfl)

theorem layAllPlainOn_conserves (size : Resolution) (layers : List (Layer × Nat))
    (current : String) :
    Conserves (current :: (composition.layerStreams .video layers).map labelOf)
      (composition.layAllPlainOn size current layers).1
      [(composition.layAllPlainOn size current layers).2] := by
  induction layers generalizing current with
  | nil => exact .nil _
  | cons item rest ih =>
      obtain ⟨layer, place⟩ := item
      exact ((composition.layPlainOn_conserves size current layer place).frame _).append (ih _)

/-- The layers of the single-pass route. -/
theorem plainLayersOn_conserves {base : Option String}
    (audioOnly : base = none → composition.visualLayers = [])
    (overVideo : base.isSome → composition.main.isVideo = true) :
    Conserves
      (base.toList ++ (composition.layerStreams .video composition.visualLayers).map labelOf)
      (composition.plainLayersOn base).1 (composition.plainLayersOn base).2.toList := by
  unfold plainLayersOn
  cases base with
  | none =>
      rw [audioOnly rfl]
      exact .nil []
  | some current =>
      obtain ⟨size, known⟩ := composition.baseResolution_isSome false (overVideo rfl)
      rw [known]
      exact composition.layAllPlainOn_conserves size composition.visualLayers current

/-! ## Mixing -/

theorem mixStreams_conserves (sources : List String) :
    Conserves sources (mixStreams sources).1 (mixStreams sources).2.toList := by
  rcases sources with _ | ⟨first, _ | ⟨second, rest⟩⟩
  · exact .nil []
  · exact .nil [first]
  · exact .one rfl rfl

theorem layerAudio_conserves (layer : Layer) (place : Nat) :
    Conserves [streamLabel .audio (composition.layerIndex place)]
      (composition.layerAudio layer place).1 [(composition.layerAudio layer place).2] := by
  unfold layerAudio
  cases layer.spec.isTimed with
  | true => exact .one rfl rfl
  | false => exact .nil _

theorem mixLayers_conserves (base : Option String) :
    Conserves
      (base.toList ++ (composition.layerStreams .audio composition.audibleLayers).map labelOf)
      (composition.mixLayers base).1 (composition.mixLayers base).2.toList := by
  have timing := Conserves.flatMap fun item (_ : item ∈ composition.audibleLayers) =>
    composition.layerAudio_conserves item.1 item.2
  have waiting := (timing.frame base.toList).perm List.perm_append_comm List.perm_append_comm
  simp only [← List.map_eq_flatMap] at waiting
  have mixing := mixStreams_conserves
    (base.toList ++ composition.audibleLayers.map fun item =>
      (composition.layerAudio item.1 item.2).2)
  unfold mixLayers
  simpa [layerStreams, labelOf, List.flatMap_map, Function.comp_def] using waiting.append mixing

theorem mixPlainLayers_conserves (base : Option String) :
    Conserves
      (base.toList ++ (composition.layerStreams .audio composition.audibleLayers).map labelOf)
      (composition.mixPlainLayers base).1 (composition.mixPlainLayers base).2.toList := by
  have mixing := mixStreams_conserves
    (base.toList ++ composition.audibleLayers.map fun (_, place) =>
      streamLabel .audio (composition.layerIndex place))
  simpa [mixPlainLayers, layerStreams, labelOf, Function.comp_def] using mixing

/-! ## The routes -/

section

variable {composition}

/-- A base is conserved, then the layers that are laid on its video and the
layers that are mixed with its audio. -/
theorem finished_conserves {graph : FilterGraph} {base : Streams}
    {layering mixing : List Statement} {video audio : Option String}
    {given seen heard : List String} (joins : Conserves given graph.statements base.labels)
    (lays : Conserves (base.video.toList ++ seen) layering video.toList)
    (mixes : Conserves (base.audio.toList ++ heard) mixing audio.toList) :
    Conserves (given ++ seen ++ heard)
      (composition.finished graph layering video mixing audio).1.statements
      (composition.finished graph layering video mixing audio).2.labels := by
  -- the base audio waits while layers are laid on the video
  have waiting : (base.video.toList ++ seen ++ base.audio.toList).Perm (base.labels ++ seen) := by
    simp only [Streams.labels, List.append_assoc]
    exact List.perm_append_comm.append_left _
  have laid : Conserves (given ++ seen) (graph.extend layering).statements
      (video.toList ++ base.audio.toList) :=
    (joins.frame seen).append ((lays.frame base.audio.toList).perm waiting (List.Perm.refl _))
  have named := laid.relabel .video composition.output.videoLabel
  -- the final video waits while the audio is mixed
  unfold finished
  generalize relabel .video composition.output.videoLabel (graph.extend layering) video = result
    at named ⊢
  obtain ⟨graph₁, final⟩ := result
  have waiting' : (base.audio.toList ++ heard ++ final.toList).Perm
      (final.toList ++ base.audio.toList ++ heard) := by
    rw [List.append_assoc final.toList]
    exact List.perm_append_comm
  have mixed : Conserves (given ++ seen ++ heard) (graph₁.extend mixing).statements
      (audio.toList ++ final.toList) :=
    (named.frame heard).append ((mixes.frame final.toList).perm waiting' (List.Perm.refl _))
  exact (mixed.relabel .audio composition.output.audioLabel).perm (List.Perm.refl _)
    List.perm_append_comm

/-- The full route uses up the streams that it is given. -/
theorem fullRoute_conserves (accepted : composition.check = .ok ()) :
    Conserves (composition.inputStreams.map labelOf) composition.fullRoute.1.statements
      composition.fullRoute.2.labels := by
  have audioOnly : composition.joined.2.video = none → composition.visualLayers = [] := by
    rw [joined_streams]
    intro noVideo
    exact visualLayers_of_audio accepted
      (composition.baseVideoFeed_eq_none.mp (Option.map_eq_none_iff.mp noVideo))
  simp only [inputStreams, List.map_append]
  exact finished_conserves composition.joined_conserves
    (composition.layersOn_conserves _ audioOnly) (composition.mixLayers_conserves _)

/-- The single-pass route uses up the streams that it is given. -/
theorem plainRoute_conserves (accepted : composition.check = .ok ())
    (simple : composition.isSimple = true) :
    Conserves (composition.inputStreams.map labelOf) composition.plainRoute.1.statements
      composition.plainRoute.2.labels := by
  have single := isSequenced_of_isSimple simple
  have joins := composition.joined_conserves
  have streams : composition.joined = ({}, composition.mainStreams) := by
    simp [joined, single]
  rw [streams] at joins
  have video : composition.mainStreams.video.isSome = composition.main.isVideo := by
    unfold mainStreams
    cases composition.main.isVideo <;> rfl
  have audioOnly : composition.mainStreams.video = none → composition.visualLayers = [] := by
    intro noVideo
    rw [noVideo] at video
    exact visualLayers_of_audio accepted video.symm
  simp only [inputStreams, List.map_append]
  exact finished_conserves joins
    (composition.plainLayersOn_conserves audioOnly fun some => video ▸ some)
    (composition.mixPlainLayers_conserves _)

/-! ## What the routes declare -/

/-- Relabelling declares nothing but the label that is asked for. -/
theorem mem_declared_relabel {kind : MediaKind} {requested current : Option String}
    {graph : FilterGraph} {label : String}
    (declared : label ∈ (relabel kind requested graph current).1.declared) :
    label ∈ graph.declared ∨ label ∈ requested := by
  rcases relabel_cases kind requested graph current with
    same | ⟨old, new, rfl, rfl, -, ⟨statements, renamed, equal⟩ | equal⟩
  · rw [same] at declared
    exact .inl declared
  · rw [equal] at declared
    have exchanged := (FilterGraph.perm_renameLast? renamed).mem_iff.mp
      (List.mem_cons_of_mem old declared)
    exact (List.mem_cons.mp exchanged).symm.imp_right fun equal => congrArg some equal.symm
  · rw [equal, FilterGraph.Wired.declared_extend] at declared
    exact (List.mem_append.mp declared).imp_right fun last =>
      congrArg some (List.mem_singleton.mp last).symm

/-- No label that a route declares looks like a stream of an input. -/
theorem RouteParts.Fit.colon_notMem {parts : RouteParts} {n : Nat}
    (accepted : composition.check = .ok ()) (fit : parts.Fit n) :
    ∀ label ∈ (parts.finish composition).1.declared, ':' ∉ label.toList := by
  intro label declared
  change label ∈ (relabel .audio composition.output.audioLabel
    ((relabel .video composition.output.videoLabel (parts.graph.extend parts.layering)
      (parts.video.map Feed.label)).1.extend parts.mixing)
    (parts.audio.map Feed.label)).1.declared at declared
  rcases mem_declared_relabel declared with before | audio
  · rw [FilterGraph.Wired.declared_extend, List.mem_append] at before
    rcases before with before | mixing
    · rcases mem_declared_relabel before with own | video
      · exact fit.wiredLayers.plain label own
      · exact requested_plain accepted .video label video
    · exact fit.declaresMix.colon_notMem label mixing
  · exact requested_plain accepted .audio label audio

end

end Composition

end Montage
