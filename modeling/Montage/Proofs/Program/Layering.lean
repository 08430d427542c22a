import Montage.Program.SinglePass
import Montage.Proofs.Graph.Flow
import Montage.Proofs.Program.Joining

/-!
# Laying layers on

What the two routes do with visual layers, as flows. The full route prepares
all layers and then lays them on (`layersOn_flow`); the single-pass route takes
each layer in one statement and lays it on (`plainLayersOn_flow`). Either way
the last video carries the layers folded over the base in their order.
-/

namespace Montage.Composition

variable (composition : Composition)

theorem mem_overlays_of_visual {layer : Layer} {place : Nat}
    (member : (layer, place) ∈ composition.visualLayers) :
    (layer, place) ∈ composition.overlays.zipIdx := (List.mem_filter.mp member).1

theorem visualLayers_within : ∀ item ∈ composition.visualLayers,
    composition.layerIndex item.2 < composition.inputs.length := fun _ member =>
  composition.layerIndex_lt (composition.mem_overlays_of_visual member)

/-! ## Preparing layers -/

/-- A signal through some steps of preparation. -/
def throughSteps (steps : List PreparationStep) (signal : MediaSignal) : MediaSignal :=
  steps.foldl (fun signal step => .chain step.kind step.body signal) signal

/-- A layer after some steps of preparation; without any it stays as it is. -/
def preparedFeed (place : Nat) (feed : Feed) : List PreparationStep → Feed
  | [] => feed
  | step :: rest => .link (preparedLabel place) (throughSteps (step :: rest) feed.signal)

theorem preparedFeed_within {n place : Nat} {feed : Feed} (within : feed.Within n)
    (steps : List PreparationStep) : (preparedFeed place feed steps).Within n := by
  cases steps with
  | nil => exact within
  | cons step rest => trivial

theorem preparedFeed_signal (place : Nat) (feed : Feed) (steps : List PreparationStep) :
    (preparedFeed place feed steps).signal = throughSteps steps feed.signal := by
  cases steps <;> rfl

/-- Linked steps lead from a layer to the prepared layer. -/
theorem linkSteps_flow {n : Nat} (place : Nat) {feed : Feed} (within : feed.Within n)
    (steps : List PreparationStep) :
    (linkSteps place feed.label steps).2 = (preparedFeed place feed steps).label ∧
      Flow n feed.links (linkSteps place feed.label steps).1
        (preparedFeed place feed steps).links := by
  induction steps generalizing feed with
  | nil => exact ⟨rfl, .refl n _⟩
  | cons step rest ih =>
      -- only the last step declares the prepared layer
      cases rest with
      | nil => exact ⟨rfl, Flow.chain within step.kind step.body (preparedLabel place)⟩
      | cons next rest =>
          have first := Flow.chain within step.kind step.body (layerLabel place step.name)
          have opened : (Feed.link (layerLabel place step.name)
            (.chain step.kind step.body feed.signal)).Within n := trivial
          obtain ⟨label, flow⟩ := ih opened
          exact ⟨label, first.append flow⟩

/-- The steps of preparation are those of the reference. -/
theorem throughSteps_preparation (base : Resolution) (spec : OverlaySpec) (signal : MediaSignal) :
    throughSteps (preparation base spec) signal = preparedSignal base spec signal := by
  unfold preparation preparedSignal filteredIf throughSteps scaleBody
  by_cases delayed : 0 < spec.start <;> cases spec.colorKey <;>
    cases sized : spec.width.isSome || spec.height.isSome <;> simp [delayed]

theorem prepareLayer_declares (base : Resolution) (layer : Layer) (place : Nat) :
    Declares (composition.prepareLayer base layer place).1
      [.numbered .delayed place, .numbered .keyed place, .numbered .prepared place] := by
  have pad := layerLabel_eq place .delayed "pad" rfl rfl
  have key := layerLabel_eq place .keyed "key" rfl rfl
  unfold Declares prepareLayer preparation
  by_cases delayed : 0 < layer.spec.start <;> cases layer.spec.colorKey <;>
    cases sized : layer.spec.width.isSome || layer.spec.height.isSome <;>
    simp [delayed, linkSteps, Statement.chain, pad, key, preparedLabel_eq]

-- The steps hang on comparisons of doubles, which must not be computed from here on.
attribute [local irreducible] preparation

/-- A visual layer, prepared. -/
def layerFeed (base : Resolution) (layer : Layer) (place : Nat) : Feed :=
  preparedFeed place (.source .video (composition.layerIndex place))
    (preparation base layer.spec)

theorem layerFeed_within {n place : Nat} (base : Resolution) (layer : Layer)
    (bound : composition.layerIndex place < n) :
    (composition.layerFeed base layer place).Within n := by
  have source : (Feed.source .video (composition.layerIndex place)).Within n := bound
  exact preparedFeed_within source (preparation base layer.spec)

theorem prepareLayer_flow {n place : Nat} (base : Resolution) (layer : Layer)
    (bound : composition.layerIndex place < n) :
    (composition.prepareLayer base layer place).2 =
        (composition.layerFeed base layer place).label ∧
      Flow n [] (composition.prepareLayer base layer place).1
        (composition.layerFeed base layer place).links := by
  have source : (Feed.source .video (composition.layerIndex place)).Within n := bound
  exact linkSteps_flow place source (preparation base layer.spec)

/-! ## Laying prepared layers on -/

/-- The video with a prepared layer laid on. -/
def laidSignal (current : MediaSignal) (layer : Layer) (prepared : MediaSignal) : MediaSignal :=
  overlaidSignal layer.spec current (translucentSignal layer.spec prepared)

/-- A statement that lays one video over another. -/
theorem overlay_flow {n : Nat} {current layer : Feed} (within : current.Within n)
    (within' : layer.Within n) (body output : String) :
    Flow n (current.links ++ layer.links) [⟨.overlay, [current.label, layer.label], [output], body⟩]
      [(output, .output .overlay body [current.signal, layer.signal] 1 0)] := by
  have flow : Flow n _ [⟨.overlay, [current.label, layer.label], [output], body⟩] _ :=
    Flow.single [current, layer] rfl (by simp [within, within'])
  simpa [Statement.results, Statement.outputSignal] using flow

theorem layOn_flow {n : Nat} {current prepared : Feed} (within : current.Within n)
    (within' : prepared.Within n) (layer : Layer) (place : Nat) :
    (layOn current.label layer place prepared.label).2 = "ov" ++ toString place ∧
      Flow n (current.links ++ prepared.links)
        (layOn current.label layer place prepared.label).1
        [("ov" ++ toString place, laidSignal current.signal layer prepared.signal)] := by
  unfold layOn laidSignal translucentSignal filteredIf
  by_cases translucent : layer.spec.opacity < 1
  · -- the opacity is applied first, with the video open besides
    simp only [translucent, if_true, decide_true]
    refine ⟨trivial, ?_⟩
    have first := (Flow.chain within' .alpha (Filter.alpha layer.spec.opacity)
      (layerLabel place "alpha")).frame_left current.links
    have opened : (Feed.link (layerLabel place "alpha")
      (.chain .alpha (Filter.alpha layer.spec.opacity) prepared.signal)).Within n := trivial
    have second := overlay_flow within opened
      (Filter.overlay layer.spec.position (layerWindow layer.spec)) ("ov" ++ toString place)
    exact first.append second
  · simp only [translucent, if_false, decide_false]
    exact ⟨trivial, overlay_flow within within'
      (Filter.overlay layer.spec.position (layerWindow layer.spec)) ("ov" ++ toString place)⟩

theorem layOn_declares (current : String) (layer : Layer) (place : Nat) (prepared : String) :
    Declares (layOn current layer place prepared).1
      [.numbered .translucent place, .numbered .laid place] := by
  have alpha := layerLabel_eq place .translucent "alpha" rfl rfl
  unfold Declares layOn
  by_cases translucent : layer.spec.opacity < 1 <;>
    simp only [translucent, if_true, if_false] <;>
    simp [Statement.chain, alpha, ← laid_text]

/-- A visual layer with its place and the feed it is prepared in. -/
abbrev PreparedLayer := Layer × Nat × Feed

/-- The video with prepared layers laid on one after the other. -/
def laidAllSignal (layers : List PreparedLayer) (base : MediaSignal) : MediaSignal :=
  layers.foldl (fun current (layer, _, prepared) => laidSignal current layer prepared.signal) base

/-- Prepared layers as the route lists them. -/
def labelled (layers : List PreparedLayer) : List (Layer × Nat × String) :=
  layers.map fun (layer, place, prepared) => (layer, place, prepared.label)

theorem layAllOn_flow {n : Nat} {layers : List PreparedLayer}
    (prepared : ∀ item ∈ layers, item.2.2.Within n) {current : Feed}
    (fits : current.Fits n .video) :
    ∃ last : Feed, last.Fits n .video ∧
      (layAllOn current.label (labelled layers)).2 = last.label ∧
      last.signal = laidAllSignal layers current.signal ∧
      Flow n (current.links ++ layers.flatMap (·.2.2.links))
        (layAllOn current.label (labelled layers)).1 last.links := by
  induction layers generalizing current with
  | nil =>
      refine ⟨current, fits, rfl, rfl, ?_⟩
      rw [List.flatMap_nil, List.append_nil]
      exact .refl n _
  | cons item rest ih =>
      obtain ⟨layer, place, feed⟩ := item
      rw [List.forall_mem_cons] at prepared
      -- the layers that are still to come stay open while this one is laid on
      obtain ⟨label, first⟩ := layOn_flow fits.within prepared.1 layer place
      have next : (Feed.link ("ov" ++ toString place)
        (laidSignal current.signal layer feed.signal)).Fits n .video := trivial
      obtain ⟨last, fits', label', signal, flow⟩ := ih prepared.2 next
      refine ⟨last, fits', ?_, signal, ?_⟩
      · show (layAllOn (layOn current.label layer place feed.label).2 (labelled rest)).2 = _
        rw [label]
        exact label'
      · show Flow n _ ((layOn current.label layer place feed.label).1 ++
          (layAllOn (layOn current.label layer place feed.label).2 (labelled rest)).1) _
        rw [label, List.flatMap_cons, ← List.append_assoc]
        exact (first.frame _).append flow

theorem layAllOn_declares (layers : List (Layer × Nat × String)) (current : String) :
    Declares (layAllOn current layers).1
      (numberedLinks [.translucent, .laid] (layers.map (·.2.1))) := by
  induction layers generalizing current with
  | nil => exact .nil _
  | cons item rest ih =>
      obtain ⟨layer, place, prepared⟩ := item
      exact .append (layOn_declares current layer place prepared) (ih _)

/-! ## All layers of the full route -/

/-- The visual layers with the feeds they are prepared in. -/
def preparedLayers (base : Resolution) : List PreparedLayer :=
  composition.visualLayers.map fun (layer, place) =>
    (layer, place, composition.layerFeed base layer place)

theorem preparedLayers_within (base : Resolution) :
    ∀ item ∈ composition.preparedLayers base,
      item.2.2.Within composition.inputs.length := by
  intro item member
  obtain ⟨⟨layer, place⟩, visual, rfl⟩ := List.mem_map.mp member
  exact composition.layerFeed_within base layer (composition.visualLayers_within _ visual)

/-- All visual layers are prepared, with nothing open before. -/
theorem preparing_flow (base : Resolution) :
    Flow composition.inputs.length []
      (composition.visualLayers.flatMap fun (layer, place) =>
        (composition.prepareLayer base layer place).1)
      ((composition.preparedLayers base).flatMap (·.2.2.links)) := by
  have each : ∀ item ∈ composition.visualLayers, Flow composition.inputs.length []
      (composition.prepareLayer base item.1 item.2).1
      (composition.layerFeed base item.1 item.2).links := fun item member =>
    (composition.prepareLayer_flow base item.1 (composition.visualLayers_within item member)).2
  simp only [preparedLayers, List.flatMap_map]
  exact Flow.flatMap each

/-- The labels that the route hands on are those of the prepared feeds. -/
theorem labelled_preparedLayers (base : Resolution) :
    labelled (composition.preparedLayers base) =
      composition.visualLayers.map fun (layer, place) =>
        (layer, place, (composition.prepareLayer base layer place).2) := by
  have each : ∀ item ∈ composition.visualLayers,
      (composition.layerFeed base item.1 item.2).label =
        (composition.prepareLayer base item.1 item.2).2 := fun item member =>
    (composition.prepareLayer_flow base item.1
      (composition.visualLayers_within item member)).1.symm
  simp only [labelled, preparedLayers, List.map_map, Function.comp_def]
  exact List.map_congr_left fun item member => by rw [each item member]

/-- The statements of the full route for its layers, and the label of the last
video. -/
theorem layersOn_eq (sequenced : Bool) (base : Option String) :
    composition.layersOn sequenced base =
      let size := (composition.baseResolution sequenced).getD .fullHD
      let preparing := composition.visualLayers.flatMap fun (layer, place) =>
        (composition.prepareLayer size layer place).1
      match base with
      | none => (preparing, none)
      | some current =>
        let laying := layAllOn current (labelled (composition.preparedLayers size))
        (preparing ++ laying.1, some laying.2) := by
  unfold layersOn
  cases base with
  | none => simp [List.flatMap_map]
  | some current => simp [List.flatMap_map, labelled_preparedLayers, Function.comp_def]

/-- A video that the layers of the full route are laid on. -/
def laidVideoSignal (sequenced : Bool) (base : MediaSignal) : MediaSignal :=
  laidAllSignal
    (composition.preparedLayers ((composition.baseResolution sequenced).getD .fullHD)) base

theorem layerFeed_signal (base : Resolution) (layer : Layer) (place : Nat) :
    translucentSignal layer.spec (composition.layerFeed base layer place).signal =
      composition.layerSignal base layer place := by
  unfold layerFeed layerSignal
  rw [preparedFeed_signal, throughSteps_preparation]
  rfl

/-- The base with the layers of the full route laid on is the video of the
reference. -/
theorem laidVideoSignal_base :
    composition.baseVideoSignal.map (composition.laidVideoSignal composition.isSequenced) =
      composition.videoSignal := by
  unfold videoSignal laidVideoSignal laidAllSignal preparedLayers laidSignal visualLayers
  simp only [List.foldl_map, layerFeed_signal, isSequenced_eq]

/-- The full route lays its layers on the base; without a base there must be
no visual layers. -/
theorem layersOn_flow (sequenced : Bool) {base : Option Feed}
    (fits : ∀ feed ∈ base, feed.Fits composition.inputs.length .video)
    (audioOnly : base = none → composition.visualLayers = []) :
    ∃ last : Option Feed, (∀ feed ∈ last, feed.Fits composition.inputs.length .video) ∧
      (composition.layersOn sequenced (base.map Feed.label)).2 = last.map Feed.label ∧
      last.map Feed.signal =
        (base.map Feed.signal).map (composition.laidVideoSignal sequenced) ∧
      Flow composition.inputs.length (base.toList.flatMap Feed.links)
        (composition.layersOn sequenced (base.map Feed.label)).1
        (last.toList.flatMap Feed.links) := by
  rw [layersOn_eq]
  cases base with
  | none =>
      refine ⟨none, by simp, rfl, rfl, ?_⟩
      rw [audioOnly rfl]
      exact .refl _ []
  | some current =>
      -- all layers are prepared before the first is laid on
      have preparing := composition.preparing_flow
        ((composition.baseResolution sequenced).getD .fullHD)
      obtain ⟨last, fits', label, signal, laying⟩ := layAllOn_flow
        (composition.preparedLayers_within ((composition.baseResolution sequenced).getD .fullHD))
        (fits current rfl)
      refine ⟨some last, by simpa using fits', congrArg some label, congrArg some signal, ?_⟩
      simp only [Option.toList_some, List.flatMap_singleton]
      refine Flow.append ?_ laying
      simpa using preparing.frame_left current.links

/-- The links that the layers of the full route may declare. -/
def layerLinks : List LinkName :=
  numberedLinks [.delayed, .keyed, .prepared] (composition.visualLayers.map Prod.snd) ++
    numberedLinks [.translucent, .laid] (composition.visualLayers.map Prod.snd)

theorem layersOn_declares (sequenced : Bool) (base : Option String) :
    Declares (composition.layersOn sequenced base).1 composition.layerLinks := by
  have preparing : Declares
      (composition.visualLayers.flatMap fun (layer, place) =>
        (composition.prepareLayer ((composition.baseResolution sequenced).getD .fullHD) layer
          place).1)
      (numberedLinks [.delayed, .keyed, .prepared] (composition.visualLayers.map Prod.snd)) :=
    .numbered fun item _ => composition.prepareLayer_declares _ item.1 item.2
  rw [layersOn_eq]
  cases base with
  | none =>
      have more := preparing.append (Declares.nil
        (numberedLinks [.translucent, .laid] (composition.visualLayers.map Prod.snd)))
      simpa [layerLinks] using more
  | some current =>
      refine preparing.append ?_
      have laying := layAllOn_declares (labelled (composition.preparedLayers
        ((composition.baseResolution sequenced).getD .fullHD))) current
      simpa [labelled, preparedLayers, List.map_map, Function.comp_def] using laying

/-! ## All layers of the single-pass route -/

/-- The filters of a plain layer: a size, then an opacity. -/
def plainSteps (base : Resolution) (spec : OverlaySpec) : List String :=
  (if spec.width.isSome || spec.height.isSome then [scaleBody base spec] else []) ++
  (if decide (spec.opacity < 1) then [Filter.alpha spec.opacity] else [])

/-- The kind of the statement of a plain layer. -/
def plainKind (spec : OverlaySpec) : FilterKind :=
  if decide (spec.opacity < 1) then .alpha else .scale

/-- A plain layer after its filters; without any it stays as it is. -/
def plainFeed (place : Nat) (spec : OverlaySpec) (feed : Feed) : List String → Feed
  | [] => feed
  | step :: rest => .link ("layer" ++ toString place)
      (.chain (plainKind spec) (",".intercalate (step :: rest)) feed.signal)

/-- The video with a plain layer laid on. -/
def laidPlainSignal (current : MediaSignal) (spec : OverlaySpec) (layer : MediaSignal) :
    MediaSignal :=
  .output .overlay (Filter.overlay spec.position none) [current, layer] 1 0

/-- A plain layer as the single-pass route lays it on. -/
def plainLayerFeed (base : Resolution) (layer : Layer) (place : Nat) : Feed :=
  plainFeed place layer.spec (.source .video (composition.layerIndex place))
    (plainSteps base layer.spec)

theorem layPlainOn_eq (base : Resolution) (current : String) (layer : Layer) (place : Nat) :
    composition.layPlainOn base current layer place =
      match plainSteps base layer.spec with
      | [] => ([⟨.overlay, [current, streamLabel .video (composition.layerIndex place)],
          ["dv" ++ toString place], Filter.overlay layer.spec.position none⟩],
          "dv" ++ toString place)
      | step :: rest => ([.chain (plainKind layer.spec)
            (streamLabel .video (composition.layerIndex place))
            (",".intercalate (step :: rest)) ("layer" ++ toString place),
          ⟨.overlay, [current, "layer" ++ toString place],
            ["dv" ++ toString place], Filter.overlay layer.spec.position none⟩],
          "dv" ++ toString place) := by
  show (if (plainSteps base layer.spec).isEmpty then _ else
    ([Statement.chain _ _ (",".intercalate (plainSteps base layer.spec)) _, _], _)) = _
  cases plainSteps base layer.spec <;> rfl

theorem layPlainOn_flow {n place : Nat} (base : Resolution) {current : Feed}
    (within : current.Within n) (layer : Layer) (bound : composition.layerIndex place < n) :
    (composition.layPlainOn base current.label layer place).2 = "dv" ++ toString place ∧
      Flow n current.links (composition.layPlainOn base current.label layer place).1
        [("dv" ++ toString place, laidPlainSignal current.signal layer.spec
          (composition.plainLayerFeed base layer place).signal)] := by
  have source : Feed.Within n (.source .video (composition.layerIndex place)) := bound
  rw [layPlainOn_eq]
  unfold plainLayerFeed
  cases plainSteps base layer.spec with
  | nil =>
      have overlay := overlay_flow within source (Filter.overlay layer.spec.position none)
        ("dv" ++ toString place)
      rw [show (Feed.source .video (composition.layerIndex place)).links = [] from rfl,
        List.append_nil] at overlay
      exact ⟨rfl, overlay⟩
  | cons step rest =>
      have first := (Flow.chain source (plainKind layer.spec) (",".intercalate (step :: rest))
        ("layer" ++ toString place)).frame_left current.links
      have opened : (Feed.link ("layer" ++ toString place)
        (.chain (plainKind layer.spec) (",".intercalate (step :: rest))
          (Feed.source .video (composition.layerIndex place)).signal)).Within n := trivial
      have second := overlay_flow within opened
        (Filter.overlay layer.spec.position none) ("dv" ++ toString place)
      have both := first.append second
      rw [show (Feed.source .video (composition.layerIndex place)).links = [] from rfl,
        List.append_nil] at both
      exact ⟨rfl, both⟩

theorem layPlainOn_declares (base : Resolution) (current : String) (layer : Layer) (place : Nat) :
    Declares (composition.layPlainOn base current layer place).1
      [.numbered .plain place, .numbered .laidPlain place] := by
  rw [layPlainOn_eq]
  unfold Declares
  cases plainSteps base layer.spec <;> simp [Statement.chain, ← plain_text, ← laidPlain_text]

/-- The video with plain layers laid on one after the other. -/
def laidAllPlainSignal (size : Resolution) (layers : List (Layer × Nat)) (base : MediaSignal) :
    MediaSignal :=
  layers.foldl (fun current (layer, place) => laidPlainSignal current layer.spec
    (composition.plainLayerFeed size layer place).signal) base

theorem layAllPlainOn_flow {n : Nat} (size : Resolution) {layers : List (Layer × Nat)}
    (bounds : ∀ item ∈ layers, composition.layerIndex item.2 < n) {current : Feed}
    (fits : current.Fits n .video) :
    ∃ last : Feed, last.Fits n .video ∧
      (composition.layAllPlainOn size current.label layers).2 = last.label ∧
      last.signal = composition.laidAllPlainSignal size layers current.signal ∧
      Flow n current.links (composition.layAllPlainOn size current.label layers).1
        last.links := by
  induction layers generalizing current with
  | nil => exact ⟨current, fits, rfl, rfl, .refl n _⟩
  | cons item rest ih =>
      obtain ⟨layer, place⟩ := item
      rw [List.forall_mem_cons] at bounds
      obtain ⟨label, first⟩ := composition.layPlainOn_flow size fits.within layer bounds.1
      have next : (Feed.link ("dv" ++ toString place) (laidPlainSignal current.signal layer.spec
        (composition.plainLayerFeed size layer place).signal)).Fits n .video := trivial
      obtain ⟨last, fits', label', signal, flow⟩ := ih bounds.2 next
      refine ⟨last, fits', ?_, signal, ?_⟩
      · show (composition.layAllPlainOn size
          (composition.layPlainOn size current.label layer place).2 rest).2 = _
        rw [label]
        exact label'
      · show Flow n _ ((composition.layPlainOn size current.label layer place).1 ++
          (composition.layAllPlainOn size
            (composition.layPlainOn size current.label layer place).2 rest).1) _
        rw [label]
        exact first.append flow

theorem layAllPlainOn_declares (size : Resolution) (layers : List (Layer × Nat))
    (current : String) :
    Declares (composition.layAllPlainOn size current layers).1
      (numberedLinks [.plain, .laidPlain] (layers.map Prod.snd)) := by
  induction layers generalizing current with
  | nil => exact .nil _
  | cons item rest ih =>
      obtain ⟨layer, place⟩ := item
      exact .append (composition.layPlainOn_declares size current layer place) (ih _)

/-- A video asset always has a size to lay layers on. -/
theorem baseResolution_isSome (sequenced : Bool) (video : composition.main.isVideo = true) :
    ∃ size, composition.baseResolution sequenced = some size := by
  unfold baseResolution
  rw [if_pos video]
  exact ⟨_, rfl⟩

/-- A video that the layers of the single-pass route are laid on. -/
def laidPlainVideoSignal (base : MediaSignal) : MediaSignal :=
  composition.laidAllPlainSignal ((composition.baseResolution false).getD .fullHD)
    composition.visualLayers base

/-- The single-pass route lays its layers on the base, if there is one. -/
theorem plainLayersOn_flow {base : Option Feed}
    (fits : ∀ feed ∈ base, feed.Fits composition.inputs.length .video)
    (video : base.isSome → composition.main.isVideo = true) :
    ∃ last : Option Feed, (∀ feed ∈ last, feed.Fits composition.inputs.length .video) ∧
      (composition.plainLayersOn (base.map Feed.label)).2 = last.map Feed.label ∧
      last.map Feed.signal = (base.map Feed.signal).map composition.laidPlainVideoSignal ∧
      Flow composition.inputs.length (base.toList.flatMap Feed.links)
        (composition.plainLayersOn (base.map Feed.label)).1
        (last.toList.flatMap Feed.links) := by
  cases base with
  | none => exact ⟨none, by simp, rfl, rfl, .refl _ []⟩
  | some current =>
      obtain ⟨size, known⟩ := composition.baseResolution_isSome false (video rfl)
      obtain ⟨last, fits', label, signal, flow⟩ :=
        composition.layAllPlainOn_flow size composition.visualLayers_within (fits current rfl)
      refine ⟨some last, by simpa using fits', ?_, ?_, ?_⟩
      · simp only [Option.map_some, plainLayersOn, known, label]
      · simp only [Option.map_some, laidPlainVideoSignal, known, signal, Option.getD_some]
      · simpa only [Option.map_some, plainLayersOn, known, Option.toList_some,
          List.flatMap_singleton] using flow

/-- The links that the layers of the single-pass route may declare. -/
def plainLayerLinks : List LinkName :=
  numberedLinks [.plain, .laidPlain] (composition.visualLayers.map Prod.snd)

theorem plainLayersOn_declares (base : Option String) :
    Declares (composition.plainLayersOn base).1 composition.plainLayerLinks := by
  unfold plainLayersOn
  split
  · exact composition.layAllPlainOn_declares _ composition.visualLayers _
  · exact .nil _

end Montage.Composition
