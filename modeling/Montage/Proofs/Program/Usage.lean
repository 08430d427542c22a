import Montage.Proofs.Program.Conserving
import Montage.Proofs.Program.Ends

/-!
# Use of the inputs

A route without fragments uses up the streams that it is given and declares no
label that looks like one of them. Its program therefore uses each stream that
is to be seen or heard once, in a statement or as a final stream, and no other
stream of an input (`usesInputs_of_built`).
-/

namespace Montage

namespace Composition

section

variable {composition : Composition}

/-! ## Which streams are used -/

theorem mem_clipStreams {clip : Asset} {place index : Nat} {kind : MediaKind} :
    (kind, index) ∈ composition.clipStreams clip place ↔
      index = place ∧
        ((kind = .video ∧ composition.main.isVideo = true) ∨
          (kind = .audio ∧ clip.hasAudio = true)) := by
  unfold clipStreams
  cases composition.main.isVideo <;> cases clip.hasAudio <;> cases kind <;> simp

theorem nodup_clipStreams (clip : Asset) (index : Nat) :
    (composition.clipStreams clip index).Nodup := by
  unfold clipStreams
  cases composition.main.isVideo <;> cases clip.hasAudio <;> simp

theorem mem_layerStreams {kind kind' : MediaKind} {index : Nat} (seen : Layer × Nat → Bool) :
    (kind, index) ∈ composition.layerStreams kind' (composition.overlays.zipIdx.filter seen) ↔
      kind = kind' ∧ ∃ place layer, composition.layerIndex place = index ∧
        composition.overlays[place]? = some layer ∧ seen (layer, place) = true := by
  simp only [layerStreams, List.mem_map, List.mem_filter, Prod.exists, Prod.mk.injEq,
    List.mem_zipIdx_iff_getElem?]
  constructor
  · rintro ⟨layer, place, ⟨found, shown⟩, rfl, equal⟩
    exact ⟨rfl, place, layer, equal, found, shown⟩
  · rintro ⟨rfl, place, layer, equal, found, shown⟩
    exact ⟨layer, place, ⟨found, shown⟩, rfl, equal⟩

theorem nodup_layerStreams (kind : MediaKind) (seen : Layer × Nat → Bool) :
    (composition.layerStreams kind (composition.overlays.zipIdx.filter seen)).Nodup := by
  have places := composition.nodup_places seen
  have apart : Function.Injective fun place => (kind, composition.layerIndex place) := by
    intro place place' same
    exact Nat.add_left_cancel (Prod.mk.inj same).2
  have streams := places.map apart
  rwa [List.map_map] at streams

theorem mem_sequenceStreams {kind : MediaKind} {index : Nat} :
    (kind, index) ∈ composition.sequenceStreams ↔
      ∃ clip, composition.sequence[index]? = some clip ∧
        ((kind = .video ∧ composition.main.isVideo = true) ∨
          (kind = .audio ∧ clip.hasAudio = true)) := by
  simp only [sequenceStreams, List.mem_flatMap, Prod.exists, List.mem_zipIdx_iff_getElem?,
    mem_clipStreams]
  constructor
  · rintro ⟨clip, _, found, rfl, used⟩
    exact ⟨clip, found, used⟩
  · rintro ⟨clip, found, used⟩
    exact ⟨clip, index, found, rfl, used⟩

theorem nodup_sequenceStreams : composition.sequenceStreams.Nodup := by
  refine List.nodup_flatMap.mpr ⟨fun item _ => nodup_clipStreams item.1 item.2, ?_⟩
  have indices : (composition.sequence.zipIdx.map Prod.snd).Nodup := by
    rw [List.zipIdx_map_snd]
    exact List.nodup_range'
  refine (List.pairwise_map.mp indices).imp fun {item other} differ => ?_
  rintro ⟨kind, index⟩ here there
  exact differ ((mem_clipStreams.mp here).1.symm.trans (mem_clipStreams.mp there).1)

/-- No stream is listed twice. -/
theorem nodup_inputStreams : composition.inputStreams.Nodup := by
  have clipIndex : ∀ kind index, (kind, index) ∈ composition.sequenceStreams →
      index < composition.sequence.length := by
    intro kind index member
    obtain ⟨clip, found, -⟩ := mem_sequenceStreams.mp member
    exact (List.getElem?_eq_some_iff.mp found).1
  have layerIndex : ∀ kind kind' index seen, (kind, index) ∈ composition.layerStreams kind'
      (composition.overlays.zipIdx.filter seen) → composition.sequence.length ≤ index := by
    intro kind kind' index seen member
    obtain ⟨-, place, -, rfl, -⟩ := (mem_layerStreams seen).mp member
    exact Nat.le_add_right ..
  refine List.nodup_append'.mpr ⟨List.nodup_append'.mpr
    ⟨nodup_sequenceStreams, nodup_layerStreams .video _, ?_⟩, nodup_layerStreams .audio _, ?_⟩
  · rintro ⟨kind, index⟩ clip layer
    exact absurd (clipIndex _ _ clip) (Nat.not_lt.mpr (layerIndex _ _ _ _ layer))
  · rintro ⟨kind, index⟩ before layer
    rcases List.mem_append.mp before with clip | visual
    · exact absurd (clipIndex _ _ clip) (Nat.not_lt.mpr (layerIndex _ _ _ _ layer))
    · have video := ((mem_layerStreams _).mp visual).1
      have audio := ((mem_layerStreams _).mp layer).1
      rw [video] at audio
      cases audio

/-- The stream of a kind of an input is to be used: the video of a video, the
audio of a clip that has some and of an audible layer. -/
def IsUsed (composition : Composition) : MediaKind → Nat → Prop
  | .video, index => ∃ asset, composition.inputs[index]? = some asset ∧ asset.isVideo = true
  | .audio, index =>
    (∃ clip, composition.sequence[index]? = some clip ∧ clip.hasAudio = true) ∨
    ∃ place layer, composition.layerIndex place = index ∧
      composition.overlays[place]? = some layer ∧ layer.isAudible = true

/-- An input is a clip or the asset of a layer. -/
theorem inputs_getElem?_eq_some {index : Nat} {asset : Asset} :
    composition.inputs[index]? = some asset ↔
      composition.sequence[index]? = some asset ∨
        ∃ place layer, composition.layerIndex place = index ∧
          composition.overlays[place]? = some layer ∧ layer.asset = asset := by
  unfold inputs layerIndex
  rw [List.getElem?_append]
  split
  · rename_i clip
    refine ⟨.inl, fun found => found.resolve_right ?_⟩
    rintro ⟨place, layer, rfl, -⟩
    omega
  · rename_i later
    have none : composition.sequence[index]? = none := List.getElem?_eq_none (by omega)
    rw [none, List.getElem?_map, Option.map_eq_some_iff]
    constructor
    · rintro ⟨layer, found, equal⟩
      exact .inr ⟨index - composition.sequence.length, layer, by omega, found, equal⟩
    · rintro (absent | ⟨place, layer, rfl, found, equal⟩)
      · cases absent
      · rw [Nat.add_sub_cancel_left]
        exact ⟨layer, found, equal⟩

/-- The routes are given just the streams that are to be used. -/
theorem mem_inputStreams (accepted : composition.check = .ok ()) {kind : MediaKind}
    {index : Nat} : (kind, index) ∈ composition.inputStreams ↔ composition.IsUsed kind index := by
  -- in a composition that is accepted all clips are of the kind of the main asset
  have clips : (kind, index) ∈ composition.sequenceStreams ↔
      ∃ clip, composition.sequence[index]? = some clip ∧
        ((kind = .video ∧ clip.isVideo = true) ∨ (kind = .audio ∧ clip.hasAudio = true)) := by
    refine mem_sequenceStreams.trans (exists_congr fun clip => and_congr_right fun found => ?_)
    have same := kind_of_clip accepted clip (List.mem_of_getElem? found)
    rw [Asset.isVideo, Asset.isVideo, same]
  unfold inputStreams
  rw [List.mem_append, List.mem_append, clips, visualLayers, audibleLayers, mem_layerStreams,
    mem_layerStreams]
  cases kind with
  | video =>
      simp only [IsUsed, inputs_getElem?_eq_some, Layer.isVisual, true_and, reduceCtorEq,
        false_and, or_false]
      constructor
      · rintro (⟨clip, found, video⟩ | ⟨place, layer, equal, found, video⟩)
        · exact ⟨clip, .inl found, video⟩
        · exact ⟨layer.asset, .inr ⟨place, layer, equal, found, rfl⟩, video⟩
      · rintro ⟨asset, found | ⟨place, layer, equal, found, rfl⟩, video⟩
        · exact .inl ⟨asset, found, video⟩
        · exact .inr ⟨place, layer, equal, found, video⟩
  | audio =>
      simp only [IsUsed, true_and, reduceCtorEq, false_and, false_or, or_false]

theorem IsUsed.lt {kind : MediaKind} {index : Nat} (used : composition.IsUsed kind index) :
    index < composition.inputs.length := by
  obtain ⟨asset, found⟩ : ∃ asset, composition.inputs[index]? = some asset := by
    cases kind with
    | video => exact used.imp fun _ => And.left
    | audio =>
        rcases used with ⟨clip, found, -⟩ | ⟨place, layer, equal, found, -⟩
        · exact ⟨clip, inputs_getElem?_eq_some.mpr (.inl found)⟩
        · exact ⟨layer.asset, inputs_getElem?_eq_some.mpr (.inr ⟨place, layer, equal, found, rfl⟩)⟩
  exact (List.getElem?_eq_some_iff.mp found).1

end

end Composition

/-! ## The streams of a program -/

namespace Program

/-- The labels that are used: all that statements consume, and the final
streams. -/
def used (program : Program) : List String := program.graph.consumed ++ program.final.labels

/-- A program uses the streams of its inputs: each that is to be used once, and
no other one. No statement declares a label that looks like one. -/
structure UsesInputs (program : Program) (composition : Composition) : Prop where
  inputs : program.inputs = composition.inputs
  once : ∀ kind index, composition.IsUsed kind index →
    program.used.count (Composition.streamLabel kind index) = 1
  never : ∀ kind index, ¬ composition.IsUsed kind index →
    program.used.count (Composition.streamLabel kind index) = 0
  only : ∀ label ∈ program.used, isInputStream label = true →
    ∃ kind, ∃ index < program.inputs.length, label = Composition.streamLabel kind index
  undeclared : ∀ label ∈ program.graph.declared, isInputStream label = false

end Program

namespace Composition

variable {composition : Composition} {program : Program}

/-- A graph that conserves the streams of the inputs and declares no such
label uses them. -/
theorem usesInputs_of_conserves (accepted : composition.check = .ok ())
    (inputs : program.inputs = composition.inputs)
    (conserves : Conserves (composition.inputStreams.map labelOf) program.graph.statements
      program.final.labels)
    (plain : ∀ label ∈ program.graph.declared, ':' ∉ label.toList) :
    program.UsesInputs composition := by
  have count : ∀ label, ':' ∈ label.toList →
      program.used.count label = (composition.inputStreams.map labelOf).count label :=
    fun label colon => conserves.count_uses fun declared => plain label declared colon
  have listed : ∀ kind index, labelOf (kind, index) ∈ composition.inputStreams.map labelOf ↔
      composition.IsUsed kind index := fun kind index => by
    rw [List.mem_map_of_injective labelOf_injective, mem_inputStreams accepted]
  have distinct : (composition.inputStreams.map labelOf).Nodup :=
    nodup_inputStreams.map labelOf_injective
  refine ⟨inputs, fun kind index used => ?_, fun kind index unused => ?_, ?_,
    fun label declared => isInputStream_eq_false (plain label declared)⟩
  · rw [count _ (colon_mem_streamLabel kind index)]
    exact List.count_eq_one_of_mem distinct ((listed kind index).mpr used)
  · rw [count _ (colon_mem_streamLabel kind index)]
    exact List.count_eq_zero.mpr fun member => unused ((listed kind index).mp member)
  · intro label used stream
    have colon : ':' ∈ label.toList := by
      by_contra none
      rw [isInputStream_eq_false none] at stream
      cases stream
    have member : label ∈ composition.inputStreams.map labelOf := by
      rw [← List.count_pos_iff, ← count label colon]
      exact List.count_pos_iff.mpr used
    obtain ⟨⟨kind, index⟩, given, rfl⟩ := List.mem_map.mp member
    rw [inputs]
    exact ⟨kind, index, ((mem_inputStreams accepted).mp given).lt, rfl⟩

/-- Without fragments each program uses the streams of its inputs, whatever
labels are asked for. -/
theorem usesInputs_of_built (unfiltered : composition.fragments = [])
    (built : composition.compile = .ok program ∨ composition.singlePass = .ok program) :
    program.UsesInputs composition := by
  rcases built with full | single
  · obtain ⟨accepted, -, -, rfl⟩ := (compile_plain_iff unfiltered).mp full
    obtain ⟨parts, fit, equal, -⟩ := fullRoute_parts accepted
    have plain := fit.colon_notMem accepted
    rw [← equal] at plain
    exact usesInputs_of_conserves accepted rfl (fullRoute_conserves accepted) plain
  · obtain ⟨accepted, simple, assembled⟩ := composition.singlePass_ok_iff.mp single
    obtain ⟨-, rfl⟩ := composition.assemble_ok_iff.mp assembled
    obtain ⟨parts, fit, equal, -⟩ := plainRoute_parts simple
    have plain := fit.colon_notMem accepted
    rw [← equal] at plain
    exact usesInputs_of_conserves accepted rfl (plainRoute_conserves accepted simple) plain

/-- A silent clip before a video with a layer that is both seen and heard, one
that is only seen and one that is only heard, under labels that are asked
for. -/
def crowded : Composition where
  main := ⟨[1], .video, {}⟩
  prepend := [⟨[2], .video, { hasAudio := some false, duration := some 2 }⟩]
  overlays := [⟨⟨[3], .video, {}⟩, { mixAudio := true, opacity := 0.5 }⟩,
    ⟨⟨[4], .video, {}⟩, {}⟩, ⟨⟨[5], .audio, {}⟩, { start := 1 }⟩]
  output := { videoLabel := some "picture", audioLabel := some "sound" }

theorem usesInputs_crowded : ∃ program, crowded.compile = .ok program ∧
    program.UsesInputs crowded := by
  obtain ⟨program, compiled⟩ : ∃ program, crowded.compile = .ok program :=
    exists_ok_of_isOk (by decide +kernel)
  exact ⟨program, compiled, usesInputs_of_built rfl (.inl compiled)⟩

end Composition

end Montage
