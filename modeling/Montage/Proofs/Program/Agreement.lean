import Montage.Proofs.Decimal.Overflow
import Montage.Proofs.Program.Ends

/-!
# The routes agree

Where the single-pass route can be taken, both routes can, and what they build
differs only in how a layer's size and opacity are written: in one statement or
in two. With the runs of such statements joined, the final streams are the same
(`fused_laid`), and the full route has one statement more for each layer with
both (`length_layersOn`).
-/

namespace Montage

namespace Binary64

theorem not_pos_of_isZero {x : Binary64} (zero : x.isZero = true) : ¬ (0 : Binary64) < x := by
  have place : x.place = some 0 := by simpa [isZero] using zero
  show ¬ (0 : Binary64).lt x = true
  simp [lt, place_zero, place]

end Binary64

/-! ## Joined runs -/

namespace MediaSignal

theorem fused_chain (kind : FilterKind) (body : String) (source : MediaSignal) :
    (MediaSignal.chain kind body source).fused = source.fused.followedBy kind body := by
  simp [MediaSignal.chain, fused, fusedAll]

theorem fused_input (label : String) : (MediaSignal.input label).fused = .input label := by
  simp [fused]

theorem followedBy_input (kind : FilterKind) (body label : String) :
    (MediaSignal.input label).followedBy kind body = .chain kind body (.input label) := rfl

theorem followedBy_chain (kind kind' : FilterKind) (body body' : String) (source : MediaSignal) :
    (MediaSignal.chain kind body source).followedBy kind' body' =
      .chain kind' (body ++ "," ++ body') source := rfl

/-- Filters of two inputs are left as they are. -/
theorem fused_pair (kind : FilterKind) (body : String) (first second : MediaSignal)
    (pads pad : Nat) :
    (MediaSignal.output kind body [first, second] pads pad).fused =
      .output kind body [first.fused, second.fused] pads pad := by
  simp [fused, fusedAll]

end MediaSignal

namespace Composition

/-! ## Plain layers -/

theorem isPlain_of_mem {composition : Composition} (simple : composition.isSimple = true)
    {item : Layer × Nat} (member : item ∈ composition.overlays.zipIdx) :
    isPlain item.1 = true := by
  unfold isSimple at simple
  rw [Bool.and_eq_true, List.all_eq_true] at simple
  exact simple.2 item.1 (List.fst_mem_of_mem_zipIdx member)

/-- A plain layer is there all the time and has no colour key. -/
theorem isPlain_spec {layer : Layer} (plain : isPlain layer = true) :
    layer.spec.colorKey = none ∧ ¬ (0 : Binary64) < layer.spec.start ∧
      layer.spec.duration = none := by
  unfold isPlain at plain
  simp only [Bool.and_eq_true, Option.isNone_iff_eq_none] at plain
  exact ⟨plain.1.1, Binary64.not_pos_of_isZero plain.1.2, plain.2⟩

theorem isTimed_of_isPlain {layer : Layer} (plain : isPlain layer = true) :
    layer.spec.isTimed = false := by
  obtain ⟨-, start, duration⟩ := isPlain_spec plain
  simp [OverlaySpec.isTimed, start, duration]

theorem preparedSignal_of_isPlain {layer : Layer} (plain : isPlain layer = true)
    (base : Resolution) (signal : MediaSignal) :
    preparedSignal base layer.spec signal =
      filteredIf (layer.spec.width.isSome || layer.spec.height.isSome) .scale
        (scaleBody base layer.spec) signal := by
  obtain ⟨key, start, -⟩ := isPlain_spec plain
  simp only [preparedSignal, key, start, filteredIf, decide_false, Bool.false_eq_true, if_false,
    scaleBody]

variable {composition : Composition}

theorem signal_plainFeed (place : Nat) (spec : OverlaySpec) (feed : Feed) (steps : List String) :
    (plainFeed place spec feed steps).signal =
      filteredIf (!steps.isEmpty) (plainKind spec) (",".intercalate steps) feed.signal := by
  cases steps <;> rfl

/-- A plain layer is the same on both routes once its filters are joined. -/
theorem fused_layer {layer : Layer} (plain : isPlain layer = true) (base : Resolution)
    (place : Nat) :
    (composition.layerSignal base layer place).fused =
      (composition.plainLayerFeed base layer place).signal.fused := by
  have source : inputSignal .video (composition.sequence.length + place) =
      (Feed.source .video (composition.layerIndex place)).signal := rfl
  unfold layerSignal translucentSignal plainLayerFeed
  rw [preparedSignal_of_isPlain plain, source]
  rw [signal_plainFeed]
  unfold filteredIf
  cases sized : layer.spec.width.isSome || layer.spec.height.isSome <;>
    cases translucent : decide (layer.spec.opacity < 1) <;>
    simp [plainSteps, plainKind, sized, translucent, Feed.signal, MediaSignal.fused_chain,
      MediaSignal.fused_input, MediaSignal.followedBy_input, MediaSignal.followedBy_chain]

theorem layerWindow_of_isPlain {layer : Layer} (plain : isPlain layer = true) :
    layerWindow layer.spec = none := by
  simp [layerWindow, isTimed_of_isPlain plain]

/-- Layers laid on a base by either route are the same once their filters are
joined. -/
theorem fused_laid {layers : List (Layer × Nat)} (plain : ∀ item ∈ layers, isPlain item.1 = true)
    (size : Resolution) {base base' : MediaSignal} (same : base.fused = base'.fused) :
    (layers.foldl (fun current (layer, place) =>
        overlaidSignal layer.spec current (composition.layerSignal size layer place)) base).fused =
      (composition.laidAllPlainSignal size layers base').fused := by
  unfold laidAllPlainSignal
  -- both fold over the same layers, and the videos agree after each of them
  induction layers generalizing base base' with
  | nil => exact same
  | cons item rest ih =>
      obtain ⟨layer, place⟩ := item
      rw [List.forall_mem_cons] at plain
      rw [List.foldl_cons, List.foldl_cons]
      refine ih plain.2 ?_
      simp only [overlaidSignal, laidPlainSignal]
      rw [layerWindow_of_isPlain plain.1, MediaSignal.fused_pair, MediaSignal.fused_pair, same,
        fused_layer plain.1]

theorem plain_of_visual (simple : composition.isSimple = true) :
    ∀ item ∈ composition.visualLayers, isPlain item.1 = true := fun _ member =>
  isPlain_of_mem simple (List.mem_filter.mp member).1

theorem plain_of_audible (simple : composition.isSimple = true) :
    ∀ item ∈ composition.audibleLayers, isPlain item.1 = true := fun _ member =>
  isPlain_of_mem simple (List.mem_filter.mp member).1

/-- The video of the reference is the one that the single-pass route builds. -/
theorem fused_videoSignal (simple : composition.isSimple = true) :
    composition.videoSignal.map MediaSignal.fused =
      (composition.baseVideoSignal.map composition.laidPlainVideoSignal).map MediaSignal.fused := by
  have single : decide (1 < composition.sequence.length) = false := by
    rw [← isSequenced_eq, isSequenced_of_isSimple simple]
  unfold videoSignal laidPlainVideoSignal
  rw [Option.map_map, Option.map_map, single]
  exact Option.map_congr fun base _ => fused_laid (plain_of_visual simple) _ rfl

/-- The audio of the reference is the one that the single-pass route builds. -/
theorem audioSignal_of_isSimple (simple : composition.isSimple = true) :
    composition.audioSignal = composition.mixedPlainSignal := by
  have each : ∀ item ∈ composition.audibleLayers,
      composition.layerAudioSignal item.1 item.2 =
        inputSignal .audio (composition.layerIndex item.2) := by
    intro item member
    have timed := isTimed_of_isPlain (plain_of_audible simple item member)
    simp only [layerAudioSignal, filteredIf, timed, Bool.false_eq_true, if_false, layerIndex]
  unfold audioSignal mixedPlainSignal
  rw [← audibleLayers, List.map_congr_left each]

/-! ## Numbers of statements -/

theorem length_linkSteps (place : Nat) (input : String) (steps : List PreparationStep) :
    (linkSteps place input steps).1.length = steps.length := by
  induction steps generalizing input with
  | nil => rfl
  | cons step rest ih =>
      cases rest with
      | nil => rfl
      | cons next rest => exact congrArg (· + 1) (ih _)

/-- A layer with a width or a height. -/
def isSized (layer : Layer) : Bool := layer.spec.width.isSome || layer.spec.height.isSome

/-- A layer with an opacity below one. -/
def isTranslucent (layer : Layer) : Bool := decide (layer.spec.opacity < 1)

/-- A layer with both a size and an opacity below one. -/
def isSizedAndTranslucent (layer : Layer) : Bool := isSized layer && isTranslucent layer

theorem length_layOn (current : String) (layer : Layer) (place : Nat) (prepared : String) :
    (layOn current layer place prepared).1.length = 1 + (isTranslucent layer).toNat := by
  unfold layOn isTranslucent
  by_cases translucent : layer.spec.opacity < 1 <;> simp [translucent]

theorem length_preparation {layer : Layer} (plain : isPlain layer = true) (base : Resolution) :
    (preparation base layer.spec).length = (isSized layer).toNat := by
  obtain ⟨key, start, -⟩ := isPlain_spec plain
  unfold preparation isSized
  simp only [key, start, if_false]
  cases layer.spec.width.isSome || layer.spec.height.isSome <;> rfl

theorem length_layPlainOn (size : Resolution) (current : String) (layer : Layer) (place : Nat) :
    (composition.layPlainOn size current layer place).1.length =
      1 + (isSized layer || isTranslucent layer).toNat := by
  rw [layPlainOn_eq]
  unfold plainSteps isSized isTranslucent
  cases layer.spec.width.isSome || layer.spec.height.isSome <;>
    cases decide (layer.spec.opacity < 1) <;> rfl

theorem countP_cons_toNat (p : Layer → Bool) (item : Layer × α) (rest : List (Layer × α)) :
    (item :: rest).countP (p ·.1) = (p item.1).toNat + rest.countP (p ·.1) := by
  rw [List.countP_cons, Nat.add_comm]
  cases p item.1 <;> rfl

theorem length_layAllOn (current : String) (layers : List (Layer × Nat × String)) :
    (layAllOn current layers).1.length =
      layers.length + layers.countP (isTranslucent ·.1) := by
  induction layers generalizing current with
  | nil => rfl
  | cons item rest ih =>
      obtain ⟨layer, place, prepared⟩ := item
      show ((layOn current layer place prepared).1 ++ (layAllOn _ rest).1).length = _
      rw [List.length_append, length_layOn, ih, countP_cons_toNat, List.length_cons]
      dsimp only
      omega

theorem length_prepareAll {layers : List (Layer × Nat)}
    (plain : ∀ item ∈ layers, isPlain item.1 = true) (size : Resolution) :
    (layers.flatMap fun (layer, place) =>
      (composition.prepareLayer size layer place).1).length = layers.countP (isSized ·.1) := by
  induction layers with
  | nil => rfl
  | cons item rest ih =>
      rw [List.forall_mem_cons] at plain
      rw [List.flatMap_cons, List.length_append, ih plain.2, countP_cons_toNat]
      simp only [prepareLayer, length_linkSteps, length_preparation plain.1]

theorem length_layAllPlainOn (size : Resolution) (current : String) (layers : List (Layer × Nat)) :
    (composition.layAllPlainOn size current layers).1.length =
      layers.length + layers.countP fun item => isSized item.1 || isTranslucent item.1 := by
  induction layers generalizing current with
  | nil => rfl
  | cons item rest ih =>
      obtain ⟨layer, place⟩ := item
      show ((composition.layPlainOn size current layer place).1 ++
        (composition.layAllPlainOn size _ rest).1).length = _
      rw [List.length_append, length_layPlainOn, ih, List.length_cons,
        countP_cons_toNat fun layer => isSized layer || isTranslucent layer]
      dsimp only
      omega

/-- A layer with both properties is counted once more. -/
theorem countP_sized_add_translucent (layers : List (Layer × Nat)) :
    layers.countP (isSized ·.1) + layers.countP (isTranslucent ·.1) =
      layers.countP (fun item => isSized item.1 || isTranslucent item.1) +
        layers.countP (isSizedAndTranslucent ·.1) := by
  induction layers with
  | nil => rfl
  | cons item rest ih =>
      have here : (isSized item.1).toNat + (isTranslucent item.1).toNat =
          (isSized item.1 || isTranslucent item.1).toNat +
            (isSizedAndTranslucent item.1).toNat := by
        unfold isSizedAndTranslucent
        cases isSized item.1 <;> cases isTranslucent item.1 <;> rfl
      simp only [countP_cons_toNat,
        countP_cons_toNat fun layer => isSized layer || isTranslucent layer]
      omega

/-- The full route takes one statement more for each layer with both a size and
an opacity below one. -/
theorem length_layersOn (accepted : composition.check = .ok ())
    (simple : composition.isSimple = true) (base : Option String)
    (video : base.isSome = composition.main.isVideo) :
    (composition.layersOn false base).1.length =
      (composition.plainLayersOn base).1.length +
        composition.visualLayers.countP (isSizedAndTranslucent ·.1) := by
  cases base with
  | none =>
      have none := visualLayers_of_audio accepted video.symm
      simp [layersOn, plainLayersOn, none]
  | some current =>
      obtain ⟨size, known⟩ := composition.baseResolution_isSome false video.symm
      have preparing := @length_prepareAll composition _ (plain_of_visual simple) size
      have counted := countP_sized_add_translucent composition.visualLayers
      rw [layersOn_eq]
      simp only [plainLayersOn, known, Option.getD_some, List.length_append, preparing,
        length_layAllOn, length_layAllPlainOn, labelled, preparedLayers, List.length_map,
        List.countP_map, Function.comp_def]
      omega

theorem layerAudio_of_isPlain {layer : Layer} (plain : isPlain layer = true) (place : Nat) :
    composition.layerAudio layer place =
      ([], streamLabel .audio (composition.layerIndex place)) := by
  simp only [layerAudio, isTimed_of_isPlain plain, Bool.false_eq_true, if_false]

/-- Both routes mix the audio alike. -/
theorem mixLayers_of_isSimple (simple : composition.isSimple = true) (base : Option String) :
    composition.mixLayers base = composition.mixPlainLayers base := by
  have each : ∀ item ∈ composition.audibleLayers,
      composition.layerAudio item.1 item.2 =
        ([], streamLabel .audio (composition.layerIndex item.2)) := fun item member =>
    layerAudio_of_isPlain (plain_of_audible simple item member) item.2
  have unwritten : (composition.audibleLayers.flatMap fun _ => ([] : List Statement)) = [] :=
    List.flatMap_eq_nil_iff.mpr fun _ _ => rfl
  unfold mixLayers mixPlainLayers
  rw [List.map_congr_left each]
  simp [List.flatMap_map, Function.comp_def, unwritten]

theorem finished_of_unlabelled (unlabelled : composition.Unlabelled) (graph : FilterGraph)
    (layering mixing : List Statement) (video audio : Option String) :
    composition.finished graph layering video mixing audio =
      ((graph.extend layering).extend mixing, ⟨video, audio⟩) := by
  unfold finished
  rw [show composition.output.videoLabel = none from unlabelled .video,
    show composition.output.audioLabel = none from unlabelled .audio]
  simp only [relabel_none]

theorem length_fullRoute (accepted : composition.check = .ok ())
    (simple : composition.isSimple = true) (unlabelled : composition.Unlabelled) :
    composition.fullRoute.1.statements.length =
      composition.plainRoute.1.statements.length +
        composition.visualLayers.countP (isSizedAndTranslucent ·.1) := by
  have single := isSequenced_of_isSimple simple
  have base : composition.joined = ({}, composition.mainStreams) := by simp [joined, single]
  have video : composition.mainStreams.video.isSome = composition.main.isVideo := by
    unfold mainStreams
    cases composition.main.isVideo <;> rfl
  have layering := length_layersOn accepted simple composition.mainStreams.video video
  unfold fullRoute plainRoute
  simp only [base, single, finished_of_unlabelled unlabelled, mixLayers_of_isSimple simple,
    FilterGraph.extend, List.length_append, layering]
  omega

end Composition

/-! ## The same programs -/

/-- Programs that ask the same of the engine, however their filters are cut
into statements and their links are called. -/
structure Program.Equivalent (program other : Program) : Prop where
  inputs : program.inputs = other.inputs
  format : program.format = other.format
  baseResolution : program.baseResolution = other.baseResolution
  outputKind : program.outputKind = other.outputKind
  /-- what follows the mappings of the final streams -/
  flags : ∃ flags, program.args = Composition.mapArgs program.final ++ flags ∧
    other.args = Composition.mapArgs other.final ++ flags
  video : (program.final.video.map program.graph.signal).map MediaSignal.fused =
    (other.final.video.map other.graph.signal).map MediaSignal.fused
  audio : (program.final.audio.map program.graph.signal).map MediaSignal.fused =
    (other.final.audio.map other.graph.signal).map MediaSignal.fused

namespace Composition

variable {composition : Composition}

/-- Programs of the two routes whose final streams are the same once their
filters are joined are equivalent. -/
theorem equivalent_of_signals (single : composition.isSequenced = false)
    (video : (composition.plainProgram.final.video.map
        composition.plainProgram.graph.signal).map MediaSignal.fused =
      (composition.fullProgram.final.video.map
        composition.fullProgram.graph.signal).map MediaSignal.fused)
    (audio : (composition.plainProgram.final.audio.map
        composition.plainProgram.graph.signal).map MediaSignal.fused =
      (composition.fullProgram.final.audio.map
        composition.fullProgram.graph.signal).map MediaSignal.fused) :
    composition.plainProgram.Equivalent composition.fullProgram := by
  have hasVideo : composition.plainProgram.final.video.isSome =
      composition.fullProgram.final.video.isSome := by
    simpa using congrArg Option.isSome video
  have hasAudio : composition.plainProgram.final.audio.isSome =
      composition.fullProgram.final.audio.isSome := by
    simpa using congrArg Option.isSome audio
  refine ⟨rfl, rfl, ?_, ?_, ⟨_, rfl, ?_⟩, video, audio⟩
  · show composition.baseResolution false = composition.baseResolution composition.isSequenced
    rw [single]
  · unfold Program.outputKind
    rw [hasVideo]
  · show _ ++ composition.output.encoderArgs composition.fullProgram.final.video.isSome
      composition.fullProgram.final.audio.isSome = _
    rw [← hasVideo, ← hasAudio]
    rfl

/-- Where the single-pass route can be taken, both routes build a program, the
two are equivalent, and the full one has one statement more for each layer that
is seen with both a size and an opacity below one. -/
theorem routes_agree (accepted : composition.check = .ok ())
    (addressable : composition.Addressable) (simple : composition.isSimple = true)
    (unlabelled : composition.Unlabelled) :
    ∃ full single, composition.compile = .ok full ∧ composition.singlePass = .ok single ∧
      single.Equivalent full ∧
      full.graph.statements.length = single.graph.statements.length +
        (composition.overlays.zipIdx.filter (·.1.isVisual)).countP
          (isSizedAndTranslucent ·.1) := by
  have own := asksNewLabels_of_unlabelled unlabelled
  have single := isSequenced_of_isSimple simple
  have unfiltered : composition.fragments = [] := by
    unfold isSimple at simple
    simp only [Bool.and_eq_true, List.isEmpty_iff] at simple
    exact simple.1.2
  have sounds : composition.AllSound := fun sequenced =>
    absurd (single.symm.trans sequenced) (by decide)
  refine ⟨composition.fullProgram, composition.plainProgram,
    compile_eq accepted addressable own unfiltered sounds,
    singlePass_eq accepted addressable own simple,
    ?_, length_fullRoute accepted simple unlabelled⟩
  obtain ⟨video, audio, full, seen, heard⟩ := fullRoute_endsIn accepted own
  obtain ⟨plainVideo, plainAudio, plain, plainSeen, plainHeard⟩ :=
    plainRoute_endsIn accepted simple own
  obtain ⟨fullVideo, fullAudio⟩ := full.signals
  obtain ⟨singleVideo, singleAudio⟩ := plain.signals
  rw [asked_of_unlabelled unlabelled] at fullVideo fullAudio singleVideo singleAudio
  refine equivalent_of_signals single ?_ ?_
  · -- the video, by way of the reference
    calc (composition.plainProgram.final.video.map
        composition.plainProgram.graph.signal).map MediaSignal.fused
        = (composition.baseVideoSignal.map
            composition.laidPlainVideoSignal).map MediaSignal.fused :=
          congrArg _ (singleVideo.trans plainSeen)
      _ = composition.videoSignal.map MediaSignal.fused := (fused_videoSignal simple).symm
      _ = _ := congrArg _ (fullVideo.trans seen).symm
  · -- the audio
    calc (composition.plainProgram.final.audio.map
        composition.plainProgram.graph.signal).map MediaSignal.fused
        = composition.mixedPlainSignal.map MediaSignal.fused :=
          congrArg _ (singleAudio.trans plainHeard)
      _ = composition.audioSignal.map MediaSignal.fused := by rw [audioSignal_of_isSimple simple]
      _ = _ := congrArg _ (fullAudio.trans heard).symm

/-- A video under a plain layer with a size and an opacity. -/
def watermarked : Composition where
  main := ⟨[1], .video, {}⟩
  overlays := [⟨⟨[2], .video, {}⟩, { opacity := 0.5, width := some (.pixels 320) }⟩]

theorem routes_agree_watermarked :
    ∃ full single, watermarked.compile = .ok full ∧ watermarked.singlePass = .ok single ∧
      single.Equivalent full ∧
      full.graph.statements.length = single.graph.statements.length +
        (watermarked.overlays.zipIdx.filter (·.1.isVisual)).countP
          (isSizedAndTranslucent ·.1) := by
  have addressable : watermarked.Addressable := by
    show watermarked.inputs.length ≤ UInt64.size
    decide
  have unlabelled : watermarked.Unlabelled := fun kind => by cases kind <;> rfl
  exact routes_agree (by decide +kernel) addressable (by decide +kernel) unlabelled

end Composition

end Montage
