import Montage.Program.Plan
import Montage.Proofs.Outcome
import Mathlib.Data.List.Basic

/-!
# What a plan depends on

Of an asset's content planning only asks whether there is any, and of its
description it reads some fields, which depend on the place of the asset. What
is left of a composition without the rest is its relevant part. Every step of
both routes comes out the same for the relevant part, so two compositions with
the same relevant part have the same plan (`plan_of_relevant`): the same error,
or programs that differ in their inputs only.
-/

namespace Montage

/-! ## Relevant parts -/

namespace AssetMetadata

/-- What is read of the main asset's description. -/
def ofMain (metadata : AssetMetadata) : AssetMetadata :=
  { metadata with channels := none, format := none }

/-- What is read of the description of a clip before or after the main asset. -/
def ofClip (metadata : AssetMetadata) : AssetMetadata :=
  { duration := metadata.duration, hasAudio := metadata.hasAudio }

/-- What is read of a layer's description. -/
def ofLayer (metadata : AssetMetadata) : AssetMetadata :=
  { hasAudio := metadata.hasAudio }

end AssetMetadata

/-- An asset with a part of its description, and with one byte for its content
if there is any. -/
def Asset.reduced (part : AssetMetadata → AssetMetadata) (asset : Asset) : Asset :=
  ⟨if asset.isEmpty then [] else [0], asset.kind, part asset.metadata⟩

/-- A layer with what is read of its asset. -/
def Layer.relevant (layer : Layer) : Layer := ⟨layer.asset.reduced .ofLayer, layer.spec⟩

namespace Composition

/-- What planning reads of a composition. -/
def relevant (composition : Composition) : Composition where
  main := composition.main.reduced .ofMain
  prepend := composition.prepend.map (Asset.reduced .ofClip)
  append := composition.append.map (Asset.reduced .ofClip)
  overlays := composition.overlays.map Layer.relevant
  fragments := composition.fragments
  output := composition.output

end Composition

namespace Asset

variable (part : AssetMetadata → AssetMetadata) (asset : Asset)

theorem isEmpty_reduced : (asset.reduced part).isEmpty = asset.isEmpty := by
  show (if asset.isEmpty then ([] : Bytes) else [0]).isEmpty = asset.isEmpty
  split
  · rename_i empty
    exact empty.symm
  · rename_i some
    exact (Bool.eq_false_iff.mpr some).symm

theorem reduced_reduced (part' : AssetMetadata → AssetMetadata) :
    (asset.reduced part).reduced part' = asset.reduced (part' ∘ part) := by
  show (⟨if (asset.reduced part).isEmpty then [] else [0], _, _⟩ : Asset) = _
  rw [isEmpty_reduced]
  rfl

end Asset

/-! ## Checking -/

theorem clipViolations_reduced (part : AssetMetadata → AssetMetadata) (mainKind : MediaKind)
    (place : ClipPlace) (clips : List Asset) :
    clipViolations mainKind place (clips.map (Asset.reduced part)) =
      clipViolations mainKind place clips := by
  unfold clipViolations
  simp only [List.zipIdx_map, List.flatMap_map, Prod.map, Asset.isEmpty_reduced, id_eq]
  rfl

theorem layerViolations_relevant (mainIsVideo : Bool) (layer : Layer) (index : Nat) :
    layerViolations mainIsVideo layer.relevant index = layerViolations mainIsVideo layer index := by
  unfold layerViolations
  rw [show layer.relevant.asset.isEmpty = layer.asset.isEmpty from Asset.isEmpty_reduced _ _]
  rfl

namespace Composition

variable (composition : Composition)

theorem check_relevant : composition.relevant.check = composition.check := by
  have same : composition.relevant.violations = composition.violations := by
    unfold violations
    simp only [relevant, clipViolations_reduced, Asset.isEmpty_reduced, List.zipIdx_map,
      List.flatMap_map, Prod.map, layerViolations_relevant, id_eq]
    rfl
  unfold check
  rw [same]

/-! ## Clips -/

theorem length_sequence_relevant :
    composition.relevant.sequence.length = composition.sequence.length := by
  simp [sequence, relevant]

/-- As far as a clip is read, the main asset is one as any other. -/
theorem sequence_relevant : composition.relevant.sequence.map (Asset.reduced .ofClip) =
    composition.sequence.map (Asset.reduced .ofClip) := by
  simp only [sequence, relevant, List.map_append, List.map_cons, List.map_map, Function.comp_def,
    Asset.reduced_reduced]
  rfl

theorem mainStreams_relevant : composition.relevant.mainStreams = composition.mainStreams := by
  unfold mainStreams mainIndex
  rw [show composition.relevant.prepend.length = composition.prepend.length from List.length_map _]
  rfl

theorem isSequenced_relevant : composition.relevant.isSequenced = composition.isSequenced := by
  simp [isSequenced, relevant]

theorem isSimple_relevant : composition.relevant.isSimple = composition.isSimple := by
  simp only [isSimple, relevant, List.isEmpty_map, List.all_map]
  rfl

theorem anyClipHasAudio_relevant :
    composition.relevant.anyClipHasAudio = composition.anyClipHasAudio := by
  simp only [anyClipHasAudio, sequence, relevant, List.any_append, List.any_cons, List.any_map]
  rfl

theorem clipStatements_relevant (clip : Asset) (index : Nat) :
    composition.relevant.clipStatements clip index =
      composition.clipStatements (clip.reduced .ofClip) index := by
  unfold clipStatements
  rw [anyClipHasAudio_relevant]
  rfl

theorem clipStatements_reduced (clip : Asset) (index : Nat) :
    composition.clipStatements (clip.reduced .ofClip) index =
      composition.clipStatements clip index := rfl

theorem join_relevant : composition.relevant.join = composition.join := by
  have parts : (composition.relevant.sequence.zipIdx.mapM fun item =>
        composition.relevant.clipStatements item.1 item.2) =
      composition.sequence.zipIdx.mapM fun item =>
        composition.clipStatements item.1 item.2 := by
    -- both are the statements of the reduced clips
    have reduce : ∀ clips : List Asset,
        (clips.zipIdx.mapM fun item =>
          composition.clipStatements (item.1.reduced .ofClip) item.2) =
        (clips.map (Asset.reduced .ofClip)).zipIdx.mapM fun item =>
          composition.clipStatements item.1 item.2 := by
      intro clips
      rw [List.zipIdx_map, List.mapM_map]
      rfl
    simp only [clipStatements_relevant]
    rw [reduce, sequence_relevant, ← reduce]
    simp only [clipStatements_reduced]
  unfold join
  dsimp only
  rw [isSequenced_relevant, parts, length_sequence_relevant, anyClipHasAudio_relevant,
    mainStreams_relevant]
  rfl

/-! ## Layers -/

/-- The layers of a kind, each at its place, and what is read of them. -/
theorem filter_relevant {seen : Layer → Bool} (same : ∀ layer, seen layer.relevant = seen layer)
    (layers : List Layer) :
    (layers.map Layer.relevant).zipIdx.filter (fun item => seen item.1) =
      (layers.zipIdx.filter fun item => seen item.1).map fun (layer, place) =>
        (layer.relevant, place) := by
  rw [List.zipIdx_map, List.filter_map]
  have seenSame : ((fun item : Layer × Nat => seen item.1) ∘ Prod.map Layer.relevant id) =
      fun item => seen item.1 := funext fun item => same item.1
  rw [seenSame]
  rfl

theorem visualLayers_relevant : composition.relevant.visualLayers =
    composition.visualLayers.map fun (layer, place) => (layer.relevant, place) :=
  filter_relevant (fun _ => rfl) composition.overlays

theorem audibleLayers_relevant : composition.relevant.audibleLayers =
    composition.audibleLayers.map fun (layer, place) => (layer.relevant, place) :=
  filter_relevant (fun _ => rfl) composition.overlays

theorem layerIndex_relevant : composition.relevant.layerIndex = composition.layerIndex := by
  funext place
  unfold layerIndex
  rw [length_sequence_relevant]

theorem prepareLayer_relevant (base : Resolution) (layer : Layer) (place : Nat) :
    composition.relevant.prepareLayer base layer.relevant place =
      composition.prepareLayer base layer place := by
  unfold prepareLayer
  rw [layerIndex_relevant]
  rfl

/-- Laying layers on looks at how they are laid on only. -/
theorem layAllOn_relevant (current : String) (layers : List (Layer × Nat × String)) :
    layAllOn current (layers.map fun (layer, place, label) => (layer.relevant, place, label)) =
      layAllOn current layers := by
  induction layers generalizing current with
  | nil => rfl
  | cons item rest ih =>
      obtain ⟨layer, place, prepared⟩ := item
      simp only [List.map_cons, layAllOn, ih]
      rfl

theorem layersOn_relevant (sequenced : Bool) (base : Option String) :
    composition.relevant.layersOn sequenced base = composition.layersOn sequenced base := by
  have laid : ∀ (size : Resolution) (current : String),
      layAllOn current (composition.visualLayers.map fun (layer, place) =>
        (layer.relevant, place, (composition.prepareLayer size layer place).2)) =
      layAllOn current (composition.visualLayers.map fun (layer, place) =>
        (layer, place, (composition.prepareLayer size layer place).2)) := by
    intro size current
    have step := layAllOn_relevant current (composition.visualLayers.map fun (layer, place) =>
      (layer, place, (composition.prepareLayer size layer place).2))
    rwa [List.map_map] at step
  unfold layersOn
  simp only [visualLayers_relevant, List.map_map, Function.comp_def, List.flatMap_map,
    prepareLayer_relevant]
  cases base with
  | none => rfl
  | some current =>
      dsimp only
      rw [show composition.relevant.baseResolution = composition.baseResolution from rfl, laid]

theorem layerAudio_relevant (layer : Layer) (place : Nat) :
    composition.relevant.layerAudio layer.relevant place = composition.layerAudio layer place := by
  unfold layerAudio
  rw [layerIndex_relevant]
  rfl

theorem mixLayers_relevant (base : Option String) :
    composition.relevant.mixLayers base = composition.mixLayers base := by
  unfold mixLayers
  rw [audibleLayers_relevant, List.map_map]
  simp only [Function.comp_def, layerAudio_relevant]

theorem layPlainOn_relevant (base : Resolution) (current : String) (layer : Layer) (place : Nat) :
    composition.relevant.layPlainOn base current layer.relevant place =
      composition.layPlainOn base current layer place := by
  unfold layPlainOn
  rw [layerIndex_relevant]
  rfl

theorem layAllPlainOn_relevant (base : Resolution) (current : String)
    (layers : List (Layer × Nat)) :
    composition.relevant.layAllPlainOn base current
        (layers.map fun (layer, place) => (layer.relevant, place)) =
      composition.layAllPlainOn base current layers := by
  induction layers generalizing current with
  | nil => rfl
  | cons item rest ih =>
      obtain ⟨layer, place⟩ := item
      simp only [List.map_cons, layAllPlainOn, ih, layPlainOn_relevant]

theorem plainLayersOn_relevant (base : Option String) :
    composition.relevant.plainLayersOn base = composition.plainLayersOn base := by
  unfold plainLayersOn
  simp only [visualLayers_relevant, layAllPlainOn_relevant]
  rfl

theorem mixPlainLayers_relevant (base : Option String) :
    composition.relevant.mixPlainLayers base = composition.mixPlainLayers base := by
  unfold mixPlainLayers
  rw [audibleLayers_relevant, List.map_map, layerIndex_relevant]
  rfl

/-! ## Programs -/

/-- What does not tell a composition from its relevant part does not tell two
compositions with the same relevant part from each other. -/
theorem eq_of_relevant {α : Type} (f : Composition → α) {composition other : Composition}
    (only : ∀ composition, f composition.relevant = f composition)
    (same : composition.relevant = other.relevant) : f other = f composition := by
  rw [← only other, ← same, only composition]

variable {composition} {other : Composition}

/-- A program is assembled from the relevant part and its inputs. -/
theorem assemble_of_relevant (same : composition.relevant = other.relevant) (graph : FilterGraph)
    (streams : Streams) (size : Option Resolution) (singlePass : Bool) :
    other.assemble graph streams size singlePass =
      (composition.assemble graph streams size singlePass).map
        fun program => { program with inputs := other.inputs } := by
  have count : other.inputs.length = composition.inputs.length := by
    refine eq_of_relevant (·.inputs.length) (fun composition => ?_) same
    simp [inputs, sequence, relevant]
  have output : other.output = composition.output :=
    eq_of_relevant (·.output) (fun _ => rfl) same
  unfold assemble
  rw [count, output]
  rw [map_bind]
  refine bind_congr fun _ => ?_
  dsimp only
  cases streams.labels.isEmpty with
  | true => rfl
  | false =>
      show (mappings graph streams >>= _) = (mappings graph streams >>= _).map _
      rw [map_bind]
      refine bind_congr fun args => ?_
      split <;> rfl

theorem compile_of_relevant (same : composition.relevant = other.relevant) :
    other.compile = composition.compile.map
      fun program => { program with inputs := other.inputs } := by
  unfold compile
  rw [eq_of_relevant check check_relevant same, eq_of_relevant join join_relevant same,
    eq_of_relevant isSequenced isSequenced_relevant same,
    eq_of_relevant fragmentStatements (fun _ => rfl) same,
    eq_of_relevant output (fun _ => rfl) same,
    eq_of_relevant baseResolution (fun _ => rfl) same,
    eq_of_relevant layersOn (fun composition => funext₂ composition.layersOn_relevant) same,
    eq_of_relevant mixLayers (fun composition => funext composition.mixLayers_relevant) same]
  rw [map_bind]
  refine bind_congr fun _ => ?_
  rw [map_bind]
  refine bind_congr fun _ => ?_
  dsimp only
  rw [map_bind]
  refine bind_congr fun _ => ?_
  exact assemble_of_relevant same _ _ _ _

theorem singlePass_of_relevant (same : composition.relevant = other.relevant) :
    other.singlePass = composition.singlePass.map
      fun program => { program with inputs := other.inputs } := by
  unfold singlePass
  rw [eq_of_relevant check check_relevant same, eq_of_relevant isSimple isSimple_relevant same,
    eq_of_relevant mainStreams mainStreams_relevant same,
    eq_of_relevant output (fun _ => rfl) same,
    eq_of_relevant baseResolution (fun _ => rfl) same,
    eq_of_relevant plainLayersOn (fun composition => funext composition.plainLayersOn_relevant)
      same,
    eq_of_relevant mixPlainLayers (fun composition => funext composition.mixPlainLayers_relevant)
      same]
  rw [map_bind]
  refine bind_congr fun _ => ?_
  cases composition.isSimple with
  | false => rfl
  | true => exact assemble_of_relevant same _ _ _ _

/-- A composition with the same relevant part has the same plan: the same error, or
the same program but for its inputs. -/
theorem plan_of_relevant (same : composition.relevant = other.relevant) :
    other.plan = composition.plan.map fun program => { program with inputs := other.inputs } := by
  unfold plan validate
  rw [eq_of_relevant check check_relevant same, eq_of_relevant isSimple isSimple_relevant same,
    compile_of_relevant same, singlePass_of_relevant same, map_bind]
  refine bind_congr fun _ => ?_
  cases composition.isSimple with
  | true => cases composition.singlePass <;> rfl
  | false => cases composition.compile <;> rfl

/-- An introduction without sound before a clip, with music over both. -/
def rehearsed : Composition where
  main := ⟨[1], .video, { width := some 640, height := some 360, channels := some 1 }⟩
  prepend := [⟨[2], .video, { duration := some 3, hasAudio := some false }⟩]
  overlays := [⟨⟨[3], .audio, {}⟩, { start := 2 }⟩]

/-- The same with other content and other irrelevant descriptions. -/
def performed : Composition where
  main := ⟨[4, 5, 6], .video, { width := some 640, height := some 360, format := some "mkv" }⟩
  prepend := [⟨[7, 8], .video, { duration := some 3, hasAudio := some false, width := some 9 }⟩]
  overlays := [⟨⟨[9], .audio, { duration := some 100, channels := some 6 }⟩, { start := 2 }⟩]

theorem plan_performed :
    rehearsed.relevant = performed.relevant ∧ ∃ program, rehearsed.plan = .ok program ∧
      performed.plan = .ok { program with inputs := performed.inputs } := by
  have same : rehearsed.relevant = performed.relevant := rfl
  obtain ⟨program, planned⟩ : ∃ program, rehearsed.plan = .ok program :=
    exists_ok_of_isOk (by decide +kernel)
  refine ⟨same, program, planned, ?_⟩
  rw [plan_of_relevant same, planned]
  rfl

end Composition

end Montage
