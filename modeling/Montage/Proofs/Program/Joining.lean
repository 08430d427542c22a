import Montage.Proofs.Graph.Flow
import Montage.Proofs.Outcome
import Montage.Proofs.Program.Reference

/-!
# Joining clips

When clips can be joined, and what comes out: `join_ok_iff` gives the condition
on the clips together with the statements, `join_error` the fault of the first
clip that has no audio and cannot be filled with silence, and `join_flow` the
streams that the layers are then laid on.
-/

namespace Montage.Composition

variable (composition : Composition)

/-! ## Sequences -/

theorem length_sequence :
    composition.sequence.length = composition.prepend.length + (composition.append.length + 1) := by
  simp [sequence]

theorem isSequenced_eq : composition.isSequenced = decide (1 < composition.sequence.length) := by
  rw [length_sequence]
  unfold isSequenced
  cases composition.prepend <;> cases composition.append <;> simp
  omega

/-- A composition with one clip has no other than its main asset. -/
theorem sequence_of_single (single : composition.isSequenced = false) :
    composition.sequence = [composition.main] ∧ composition.mainIndex = 0 := by
  unfold isSequenced at single
  rw [Bool.not_eq_false', Bool.and_eq_true, List.isEmpty_iff, List.isEmpty_iff] at single
  simp [sequence, mainIndex, single.1, single.2]

theorem mainIndex_lt : composition.mainIndex < composition.inputs.length := by
  simp [inputs, sequence, mainIndex]

theorem clipIndex_lt {clip : Asset} {index : Nat}
    (member : (clip, index) ∈ composition.sequence.zipIdx) :
    index < composition.inputs.length := by
  have bound := List.snd_lt_of_mem_zipIdx member
  simp [inputs]
  omega

theorem layerIndex_lt {layer : Layer} {place : Nat}
    (member : (layer, place) ∈ composition.overlays.zipIdx) :
    composition.layerIndex place < composition.inputs.length := by
  have bound := List.snd_lt_of_mem_zipIdx member
  simp [inputs, layerIndex]
  omega

/-! ## When clips can be joined -/

/-- A clip whose audio can be joined with that of the others: it has some, or
silence of its length can be made, or no clip has any. -/
def CanSound (clip : Asset) : Prop :=
  composition.anyClipHasAudio = true → clip.hasAudio = false → (usableDuration? clip).isSome

/-- The audio of a clip, or the silence in its place. -/
def clipAudioStatement (clip : Asset) (index : Nat) : Statement :=
  if clip.hasAudio then
    .chain .normalizeAudio (streamLabel .audio index)
      (Filter.normalizeAudio composition.sequenceRate) ("a" ++ toString index)
  else
    ⟨.silentAudio, [], ["a" ++ toString index],
      Filter.silentAudio composition.sequenceRate (clip.metadata.duration.getD 0)⟩

/-- The statements of a clip that can be joined. -/
def joinable (clip : Asset) (index : Nat) : List Statement :=
  (if composition.main.isVideo then [composition.clipVideo index] else []) ++
  (if composition.anyClipHasAudio then [composition.clipAudioStatement clip index] else [])

theorem clipAudio_eq {clip : Asset} {index : Nat}
    (sounds : clip.hasAudio = false → (usableDuration? clip).isSome) :
    composition.clipAudio clip index = .ok (composition.clipAudioStatement clip index) := by
  unfold clipAudio clipAudioStatement
  cases audio : clip.hasAudio with
  | true => rfl
  | false =>
      obtain ⟨duration, usable⟩ := Option.isSome_iff_exists.mp (sounds audio)
      have known : clip.metadata.duration = some duration :=
        (Option.filter_eq_some_iff.mp usable).1
      simp [usable, known]

theorem clipStatements_eq {clip : Asset} {index : Nat} (sounds : composition.CanSound clip) :
    composition.clipStatements clip index = .ok (composition.joinable clip index) := by
  unfold clipStatements joinable
  cases some : composition.anyClipHasAudio with
  | true =>
      rw [composition.clipAudio_eq (sounds some)]
      rfl
  | false => simp [pure, Except.pure]

theorem clipStatements_error {clip : Asset} {index : Nat} (silent : ¬ composition.CanSound clip) :
    composition.clipStatements clip index = .error (.silenceOfUnknownLength index) := by
  unfold CanSound at silent
  simp only [Classical.not_imp, Option.not_isSome_iff_eq_none] at silent
  obtain ⟨some, audio, unknown⟩ := silent
  unfold clipStatements clipAudio
  simp [some, audio, unknown]

theorem clipStatements_ok_iff {clip : Asset} {index : Nat} {statements : List Statement} :
    composition.clipStatements clip index = .ok statements ↔
      composition.CanSound clip ∧ statements = composition.joinable clip index := by
  by_cases sounds : composition.CanSound clip
  · rw [composition.clipStatements_eq sounds, Except.ok.injEq]
    simp [sounds, eq_comm]
  · simp [composition.clipStatements_error sounds, sounds]

/-- The streams of the joined clips. -/
def joinedStreams : Streams where
  video := if composition.main.isVideo then some "basev" else none
  audio := if composition.anyClipHasAudio then some "basea" else none

/-- The statements of all clips. -/
def clipsStatements : List Statement :=
  composition.sequence.zipIdx.flatMap fun (clip, index) => composition.joinable clip index

/-- The statement that joins the clips. -/
def concatStatement : Statement :=
  ⟨.concat, composition.clipsStatements.flatMap (·.outputs), composition.joinedStreams.labels,
    Filter.concat composition.sequence.length composition.main.isVideo
      composition.anyClipHasAudio⟩

/-- The graph and the streams that layers are laid on. -/
def joined : FilterGraph × Streams :=
  if composition.isSequenced then
    (⟨composition.clipsStatements ++ [composition.concatStatement]⟩, composition.joinedStreams)
  else ({}, composition.mainStreams)

/-- Clips are joined just when each of them can sound. -/
theorem join_ok_iff {result : FilterGraph × Streams} :
    composition.join = .ok result ↔
      (composition.isSequenced = true → ∀ clip ∈ composition.sequence, composition.CanSound clip) ∧
        result = composition.joined := by
  unfold join joined
  cases sequenced : composition.isSequenced with
  | false => simp [pure, Except.pure, eq_comm]
  | true =>
      have each : ∀ (item : Asset × Nat) statements,
          composition.clipStatements item.1 item.2 = .ok statements ↔
            composition.CanSound item.1 ∧ statements = composition.joinable item.1 item.2 :=
        fun item statements => composition.clipStatements_ok_iff
      -- the condition on a clip does not depend on its place
      have clips : (∀ item ∈ composition.sequence.zipIdx, composition.CanSound item.1) ↔
          ∀ clip ∈ composition.sequence, composition.CanSound clip := by
        rw [← List.forall_mem_map (f := Prod.fst), List.zipIdx_map_fst]
      simp only [Bool.not_true, Bool.false_eq_true, if_false, if_true, true_implies]
      rw [bind_ok_iff, ← clips]
      constructor
      · rintro ⟨parts, found, last⟩
        obtain ⟨sounds, rfl⟩ := (mapM_ok_iff each).mp found
        cases last
        exact ⟨sounds, rfl⟩
      · rintro ⟨sounds, rfl⟩
        exact ⟨_, (mapM_ok_iff each).mpr ⟨sounds, rfl⟩, rfl⟩

/-- The first clip that cannot sound decides the fault. -/
theorem join_error (sequenced : composition.isSequenced = true) {earlier later : List Asset}
    {clip : Asset} (split : composition.sequence = earlier ++ clip :: later)
    (before : ∀ other ∈ earlier, composition.CanSound other)
    (silent : ¬ composition.CanSound clip) :
    composition.join = .error (.silenceOfUnknownLength earlier.length) := by
  have indexed : composition.sequence.zipIdx =
      earlier.zipIdx ++ (clip, earlier.length) :: later.zipIdx (earlier.length + 1) := by
    rw [split, List.zipIdx_append, List.zipIdx_cons, Nat.zero_add]
  have fails : (composition.sequence.zipIdx.mapM fun (clip, index) =>
      composition.clipStatements clip index) =
        .error (.silenceOfUnknownLength earlier.length) := by
    rw [indexed]
    refine mapM_error_of_first ?_ (composition.clipStatements_error silent)
    rintro ⟨other, index⟩ member
    exact ⟨_, composition.clipStatements_eq (before other (List.fst_mem_of_mem_zipIdx member))⟩
  unfold join
  simp only [sequenced, fails]
  rfl

/-! ## The streams of the joined clips -/

/-- The links of one clip. -/
def clipFeeds (clip : Asset) (index : Nat) : List Feed :=
  (if composition.main.isVideo then
    [.link ("v" ++ toString index) (composition.clipVideoSignal index)] else []) ++
  (if composition.anyClipHasAudio then
    [.link ("a" ++ toString index) (composition.clipAudioSignal clip index)] else [])

theorem clipVideo_flow {n index : Nat} (bound : index < n) :
    Flow n [] [composition.clipVideo index]
      [("v" ++ toString index, composition.clipVideoSignal index)] :=
  Flow.single [.source .video index] rfl (List.forall_mem_singleton.mpr bound)

theorem clipAudio_flow {n index : Nat} (clip : Asset) (bound : index < n) :
    Flow n [] [composition.clipAudioStatement clip index]
      [("a" ++ toString index, composition.clipAudioSignal clip index)] := by
  unfold clipAudioStatement clipAudioSignal
  cases clip.hasAudio with
  | true => exact Flow.single [.source .audio index] rfl (List.forall_mem_singleton.mpr bound)
  | false => exact Flow.single [] rfl (by simp)

theorem joinable_flow {n index : Nat} (clip : Asset) (bound : index < n) :
    Flow n [] (composition.joinable clip index)
      ((composition.clipFeeds clip index).flatMap Feed.links) := by
  have video : Flow n [] (if composition.main.isVideo then [composition.clipVideo index] else [])
      ((if composition.main.isVideo then
        [Feed.link ("v" ++ toString index) (composition.clipVideoSignal index)]
        else []).flatMap Feed.links) := by
    cases composition.main.isVideo with
    | true => exact composition.clipVideo_flow bound
    | false => exact .refl n []
  have audio : Flow n []
      (if composition.anyClipHasAudio then [composition.clipAudioStatement clip index] else [])
      ((if composition.anyClipHasAudio then
        [Feed.link ("a" ++ toString index) (composition.clipAudioSignal clip index)]
        else []).flatMap Feed.links) := by
    cases composition.anyClipHasAudio with
    | true => exact composition.clipAudio_flow clip bound
    | false => exact .refl n []
  unfold joinable clipFeeds
  rw [List.flatMap_append]
  refine video.append ?_
  simpa using audio.frame_left _

theorem joinable_outputs (clip : Asset) (index : Nat) :
    (composition.joinable clip index).flatMap (·.outputs) =
      (composition.clipFeeds clip index).map Feed.label := by
  unfold joinable clipFeeds clipAudioStatement
  cases composition.main.isVideo <;> cases composition.anyClipHasAudio <;>
    cases clip.hasAudio <;> rfl

theorem clipFeeds_signals (clip : Asset) (index : Nat) :
    (composition.clipFeeds clip index).map Feed.signal = composition.clipSignals clip index := by
  unfold clipFeeds clipSignals
  cases composition.main.isVideo <;> cases composition.anyClipHasAudio <;> rfl

/-- The links of all clips. -/
def clipsFeeds : List Feed :=
  composition.sequence.zipIdx.flatMap fun (clip, index) => composition.clipFeeds clip index

theorem clipsFeeds_within {n : Nat} : ∀ feed ∈ composition.clipsFeeds, feed.Within n := by
  intro feed member
  obtain ⟨⟨clip, index⟩, -, inside⟩ := List.mem_flatMap.mp member
  unfold clipFeeds at inside
  rcases List.mem_append.mp inside with video | audio
  · split at video <;> simp at video
    exact video ▸ trivial
  · split at audio <;> simp at audio
    exact audio ▸ trivial

theorem clips_flow : Flow composition.inputs.length [] composition.clipsStatements
    (composition.clipsFeeds.flatMap Feed.links) := by
  unfold clipsStatements clipsFeeds
  rw [List.flatMap_assoc]
  exact Flow.flatMap fun item member =>
    composition.joinable_flow item.1 (composition.clipIndex_lt member)

/-- An audio asset can always be heard. -/
theorem anyClipHasAudio_of_audio (audioOnly : composition.main.isVideo = false) :
    composition.anyClipHasAudio = true := by
  have heard : composition.main.hasAudio = true := by
    unfold Asset.isVideo at audioOnly
    unfold Asset.hasAudio
    cases kind : composition.main.kind with
    | video => simp [kind] at audioOnly
    | audio => rfl
  exact List.any_eq_true.mpr ⟨composition.main, by simp [sequence], heard⟩

/-- The video that layers are laid on. -/
def baseVideoFeed : Option Feed :=
  if composition.main.isVideo then
    some (if composition.isSequenced then .link "basev" (composition.joinedSignal 0)
      else .source .video composition.mainIndex)
  else none

/-- The audio that layers are mixed with. -/
def baseAudioFeed : Option Feed :=
  if composition.anyClipHasAudio then
    some (if composition.isSequenced then
        .link "basea" (composition.joinedSignal composition.main.isVideo.toNat)
      else .source .audio composition.mainIndex)
  else none

theorem baseVideoFeed_eq_none :
    composition.baseVideoFeed = none ↔ composition.main.isVideo = false := by
  unfold baseVideoFeed
  cases composition.main.isVideo <;> simp

/-- Both streams of the base. -/
def baseFeeds : List Feed := composition.baseVideoFeed.toList ++ composition.baseAudioFeed.toList

/-- The base streams are those that the reference starts from. -/
theorem baseFeed_signals :
    composition.baseVideoFeed.map Feed.signal = composition.baseVideoSignal ∧
      composition.baseAudioFeed.map Feed.signal = composition.baseAudioSignal := by
  have length : composition.sequence.length ≠ 0 := by
    rw [length_sequence]
    omega
  unfold baseVideoFeed baseAudioFeed baseVideoSignal baseAudioSignal
  cases sequenced : composition.isSequenced with
  | false =>
      obtain ⟨sequence, main⟩ := composition.sequence_of_single sequenced
      simp only [main, sequence]
      constructor <;> split <;> rfl
  | true =>
      have many : composition.sequence.length ≠ 1 := by
        rw [isSequenced_eq, decide_eq_true_eq] at sequenced
        omega
      simp only [many]
      constructor <;> split <;> rfl

/-- The base streams go by these labels. -/
theorem joined_streams :
    composition.joined.2 =
      ⟨composition.baseVideoFeed.map Feed.label, composition.baseAudioFeed.map Feed.label⟩ := by
  unfold joined baseVideoFeed baseAudioFeed
  cases sequenced : composition.isSequenced with
  | false =>
      -- the main asset is the only clip that can be heard
      have only : composition.anyClipHasAudio = composition.main.hasAudio := by
        simp [anyClipHasAudio, (composition.sequence_of_single sequenced).1]
      unfold mainStreams
      rw [only]
      cases composition.main.isVideo <;> cases composition.main.hasAudio <;> rfl
  | true =>
      unfold joinedStreams
      cases composition.main.isVideo <;> cases composition.anyClipHasAudio <;> rfl

theorem baseFeed_fits (kind : MediaKind) (label : String) (signal : MediaSignal) :
    (if composition.isSequenced then Feed.link label signal
      else .source kind composition.mainIndex).Fits composition.inputs.length kind := by
  split
  · trivial
  · exact ⟨rfl, composition.mainIndex_lt⟩

theorem baseVideoFeed_fits :
    ∀ feed ∈ composition.baseVideoFeed, feed.Fits composition.inputs.length .video := by
  intro feed member
  obtain ⟨-, equal⟩ := Option.ite_none_right_eq_some.mp member
  exact Option.some.inj equal ▸ composition.baseFeed_fits ..

theorem baseAudioFeed_fits :
    ∀ feed ∈ composition.baseAudioFeed, feed.Fits composition.inputs.length .audio := by
  intro feed member
  obtain ⟨-, equal⟩ := Option.ite_none_right_eq_some.mp member
  exact Option.some.inj equal ▸ composition.baseFeed_fits ..

theorem concat_results :
    composition.concatStatement.results (composition.clipsFeeds.map Feed.signal) =
      (if composition.main.isVideo then [("basev", composition.joinedSignal 0)] else []) ++
      (if composition.anyClipHasAudio then
        [("basea", composition.joinedSignal composition.main.isVideo.toNat)] else []) := by
  have signals : composition.clipsFeeds.map Feed.signal =
      composition.sequence.zipIdx.flatMap fun (clip, index) =>
        composition.clipSignals clip index := by
    unfold clipsFeeds
    rw [List.map_flatMap]
    exact List.flatMap_congr fun item _ => composition.clipFeeds_signals item.1 item.2
  rw [signals]
  unfold Statement.results Statement.outputSignal concatStatement joinedStreams joinedSignal
  cases composition.main.isVideo <;> cases composition.anyClipHasAudio <;> rfl

/-- The open links of the base: those of the joined clips, and none for a
single clip. -/
theorem baseFeeds_links :
    composition.baseFeeds.flatMap Feed.links =
      if composition.isSequenced then
        (if composition.main.isVideo then [("basev", composition.joinedSignal 0)] else []) ++
        (if composition.anyClipHasAudio then
          [("basea", composition.joinedSignal composition.main.isVideo.toNat)] else [])
      else [] := by
  unfold baseFeeds baseVideoFeed baseAudioFeed
  cases composition.isSequenced <;> cases composition.main.isVideo <;>
    cases composition.anyClipHasAudio <;> rfl

/-- What is joined, or the main asset itself, is there for the layers. -/
theorem join_flow : Flow composition.inputs.length [] composition.joined.1.statements
    (composition.baseFeeds.flatMap Feed.links) := by
  rw [baseFeeds_links]
  unfold joined
  cases composition.isSequenced with
  | false => exact .refl _ []
  | true =>
      -- the clips are consumed in the order in which they are declared
      have inputs : composition.concatStatement.inputs =
          composition.clipsFeeds.map Feed.label := by
        show composition.clipsStatements.flatMap (·.outputs) = _
        unfold clipsStatements clipsFeeds
        rw [List.flatMap_assoc, List.map_flatMap]
        exact List.flatMap_congr fun item _ => composition.joinable_outputs item.1 item.2
      have concat := Flow.single (n := composition.inputs.length) composition.clipsFeeds inputs
        composition.clipsFeeds_within
      rw [concat_results] at concat
      exact composition.clips_flow.append concat

/-! ## The links of the joined clips -/

/-- The links that joining may declare. -/
def joinLinks : List LinkName :=
  numberedLinks [.clipVideo, .clipAudio] (composition.sequence.zipIdx.map Prod.snd) ++
    [.joinedVideo, .joinedAudio]

theorem joinable_declares (clip : Asset) (index : Nat) :
    Declares (composition.joinable clip index)
      [.numbered .clipVideo index, .numbered .clipAudio index] := by
  unfold Declares
  rw [joinable_outputs]
  unfold clipFeeds
  cases composition.main.isVideo <;> cases composition.anyClipHasAudio <;>
    simp [Feed.label, ← clipVideo_text, ← clipAudio_text]

theorem join_declares : Declares composition.joined.1.statements composition.joinLinks := by
  unfold joined
  cases composition.isSequenced with
  | false => exact .nil _
  | true =>
      refine .append (.numbered fun item _ => composition.joinable_declares item.1 item.2) ?_
      unfold Declares concatStatement joinedStreams
      cases composition.main.isVideo <;> cases composition.anyClipHasAudio <;>
        simp [Streams.labels, LinkName.text]

end Montage.Composition
