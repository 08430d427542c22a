import Montage.Proofs.Graph.Kinds
import Montage.Program.Plan
import Montage.Proofs.Program.Naming

/-!
# Kinds of final streams

In the programs of both routes every statement takes streams of the kinds that
its filter takes, the final video is a video and the final audio is an audio
(`Program.KeepsKinds`), with one exception: if the video of a sequence asks for
the label `basea` while the joined audio still goes by it, the audio's renaming
hits the video (`keepsKinds_iff`).
-/

namespace Montage

open Montage.Composition

/-- A program whose statements take streams of the kinds that their filters
take, and whose final streams are of their kinds. -/
structure Program.KeepsKinds (program : Program) : Prop where
  takes : ∀ statement ∈ program.graph.statements, program.graph.TakesKinds statement
  final : ∀ kind, ∀ label ∈ program.final.get kind, program.graph.Names label kind

namespace Composition

variable {composition : Composition}

/-! ## The kinds of the reference -/

theorem inputSignal_hasKind (kind : MediaKind) (index : Nat) :
    (inputSignal kind index).HasKind kind := .input kind index

theorem filteredIf_hasKind {needed : Bool} {filter : FilterKind} {body : String}
    {signal : MediaSignal} {kind : MediaKind} (handles : Handles filter body [kind] [kind])
    (tree : signal.HasKind kind) : (filteredIf needed filter body signal).HasKind kind := by
  cases needed with
  | false => exact tree
  | true => exact .chain handles tree

theorem clipSignals_hasKinds (clip : Asset) (index : Nat) :
    List.Forall₂ MediaSignal.HasKind (composition.clipSignals clip index)
      (segmentKinds composition.main.isVideo composition.anyClipHasAudio) := by
  have video : (composition.clipVideoSignal index).HasKind .video :=
    .chain (.normalize _) (inputSignal_hasKind .video index)
  have audio : (composition.clipAudioSignal clip index).HasKind .audio := by
    unfold clipAudioSignal
    split
    · exact .chain (.normalizeAudio _) (inputSignal_hasKind .audio index)
    · exact .single (.silentAudio _) .nil
  unfold clipSignals segmentKinds
  cases composition.main.isVideo <;> cases composition.anyClipHasAudio
  · exact .nil
  · exact .cons audio .nil
  · exact .cons video .nil
  · exact .cons video (.cons audio .nil)

/-- Items that each give trees of the same kinds, one after the other. -/
theorem forall₂_flatMap {α : Type} {items : List α} {f : α → List MediaSignal}
    {kinds : List MediaKind}
    (each : ∀ item ∈ items, List.Forall₂ MediaSignal.HasKind (f item) kinds) :
    List.Forall₂ MediaSignal.HasKind (items.flatMap f)
      (List.replicate items.length kinds).flatten := by
  induction items with
  | nil => exact .nil
  | cons item rest ih =>
      rw [List.forall_mem_cons] at each
      rw [List.flatMap_cons, List.length_cons, List.replicate_succ, List.flatten_cons]
      exact List.rel_append each.1 (ih each.2)

theorem joinedSignal_hasKind {pad : Nat} {kind : MediaKind}
    (given : (segmentKinds composition.main.isVideo composition.anyClipHasAudio)[pad]? =
      some kind) : (composition.joinedSignal pad).HasKind kind := by
  have pads : composition.main.isVideo.toNat + composition.anyClipHasAudio.toNat =
      (segmentKinds composition.main.isVideo composition.anyClipHasAudio).length := by
    cases composition.main.isVideo <;> cases composition.anyClipHasAudio <;> rfl
  have clips := forall₂_flatMap fun item (_ : item ∈ composition.sequence.zipIdx) =>
    composition.clipSignals_hasKinds item.1 item.2
  rw [List.length_zipIdx] at clips
  unfold joinedSignal
  rw [pads]
  exact .output (.concat _ _ _) clips given

theorem baseVideoSignal_hasKind :
    ∀ signal ∈ composition.baseVideoSignal, signal.HasKind .video := by
  intro signal member
  obtain ⟨video, equal⟩ := Option.ite_none_right_eq_some.mp member
  rw [← Option.some.inj equal]
  split
  · exact inputSignal_hasKind .video 0
  · refine joinedSignal_hasKind ?_
    rw [video]
    cases composition.anyClipHasAudio <;> rfl

theorem baseAudioSignal_hasKind :
    ∀ signal ∈ composition.baseAudioSignal, signal.HasKind .audio := by
  intro signal member
  obtain ⟨audio, equal⟩ := Option.ite_none_right_eq_some.mp member
  rw [← Option.some.inj equal]
  split
  · exact inputSignal_hasKind .audio 0
  · refine joinedSignal_hasKind ?_
    rw [audio]
    cases composition.main.isVideo <;> rfl

theorem overlay_hasKind {body : String} {below above : MediaSignal} (first : below.HasKind .video)
    (second : above.HasKind .video) :
    (MediaSignal.output .overlay body [below, above] 1 0).HasKind .video :=
  .single (.overlay _) (.cons first (.cons second .nil))

theorem layerSignal_hasKind (base : Resolution) (layer : Layer) (place : Nat) :
    (composition.layerSignal base layer place).HasKind .video := by
  have delayed : (filteredIf (decide (0 < layer.spec.start)) .timePad
      (Filter.timePad layer.spec.start)
      (inputSignal .video (composition.sequence.length + place))).HasKind .video :=
    filteredIf_hasKind (.timePad _) (inputSignal_hasKind .video _)
  refine filteredIf_hasKind (.alpha _) (filteredIf_hasKind (.scale _) ?_)
  split
  · exact .chain (.colorKey _) delayed
  · exact delayed

/-- Laying something on a video over and over leaves a video. -/
theorem foldl_hasKind {α : Type} {items : List α} {lay : MediaSignal → α → MediaSignal}
    (each : ∀ current item, current.HasKind .video → (lay current item).HasKind .video)
    {base : MediaSignal} (video : base.HasKind .video) :
    (items.foldl lay base).HasKind .video := by
  induction items generalizing base with
  | nil => exact video
  | cons item rest ih => exact ih (each base item video)

theorem videoSignal_hasKind : ∀ signal ∈ composition.videoSignal, signal.HasKind .video := by
  intro signal member
  obtain ⟨base, seen, rfl⟩ := Option.map_eq_some_iff.mp member
  exact foldl_hasKind (fun current item video => overlay_hasKind video
    (composition.layerSignal_hasKind _ item.1 item.2)) (baseVideoSignal_hasKind base seen)

theorem mixedSignal_hasKind {signals : List MediaSignal}
    (each : ∀ signal ∈ signals, signal.HasKind .audio) :
    ∀ signal ∈ mixedSignal signals, signal.HasKind .audio := by
  have all : List.Forall₂ MediaSignal.HasKind signals (List.replicate signals.length .audio) := by
    induction signals with
    | nil => exact .nil
    | cons signal rest ih =>
        rw [List.forall_mem_cons] at each
        exact .cons each.1 (ih each.2)
  rcases signals with _ | ⟨first, _ | ⟨second, rest⟩⟩
  · simp [mixedSignal]
  · simpa [mixedSignal] using each
  · rintro signal ⟨rfl⟩
    exact .single (.mix _) all

theorem audioSignal_hasKind : ∀ signal ∈ composition.audioSignal, signal.HasKind .audio := by
  refine mixedSignal_hasKind (List.forall_mem_append.mpr ⟨?_, ?_⟩)
  · simpa using baseAudioSignal_hasKind
  · intro signal member
    obtain ⟨item, -, rfl⟩ := List.mem_map.mp member
    exact filteredIf_hasKind (.audioTiming _) (inputSignal_hasKind .audio _)

theorem laidPlainVideoSignal_hasKind : ∀ signal ∈ composition.baseVideoSignal.map
    composition.laidPlainVideoSignal, signal.HasKind .video := by
  intro signal member
  obtain ⟨base, seen, rfl⟩ := Option.map_eq_some_iff.mp member
  refine foldl_hasKind (fun current item video => overlay_hasKind video ?_)
    (baseVideoSignal_hasKind base seen)
  unfold plainLayerFeed
  cases plainSteps _ item.1.spec with
  | nil => exact inputSignal_hasKind .video _
  | cons step rest =>
      refine .chain ?_ (inputSignal_hasKind .video _)
      unfold plainKind
      split
      · exact .alpha _
      · exact .scale _

theorem mixedPlainSignal_hasKind :
    ∀ signal ∈ composition.mixedPlainSignal, signal.HasKind .audio := by
  refine mixedSignal_hasKind (List.forall_mem_append.mpr ⟨?_, ?_⟩)
  · simpa using baseAudioSignal_hasKind
  · intro signal member
    obtain ⟨item, -, rfl⟩ := List.mem_map.mp member
    exact inputSignal_hasKind .audio _

/-! ## The kinds of a route -/

theorem named_hasKind {n : Nat} {feed : Feed} {kind : MediaKind} (requested : Option String)
    (fits : feed.Fits n kind) (tree : feed.signal.HasKind kind) :
    (feed.named kind requested).signal.HasKind kind := by
  cases requested with
  | none => exact tree
  | some label =>
      cases feed with
      | source kind' index => exact .chain (.passthrough kind) tree
      | link old signal => exact tree

theorem asked_hasKind (composition : Composition) {n : Nat} {feed : Option Feed} {kind : MediaKind}
    (fits : ∀ given ∈ feed, given.Fits n kind)
    (trees : ∀ signal ∈ feed.map Feed.signal, signal.HasKind kind) :
    ∀ given ∈ composition.asked kind feed, given.signal.HasKind kind := by
  intro given member
  obtain ⟨original, present, rfl⟩ := Option.map_eq_some_iff.mp member
  exact named_hasKind _ (fits original present)
    (trees original.signal (Option.mem_map_of_mem _ present))

/-- A route that ends in a video and an audio keeps the kinds of its streams. -/
theorem EndsIn.keepsKinds {route : FilterGraph × Streams} {video audio : Option Feed}
    (ends : composition.EndsIn route video audio)
    (declares : ∀ statement ∈ route.1.statements, statement.outputs ≠ [])
    (seen : ∀ signal ∈ video.map Feed.signal, signal.HasKind .video)
    (heard : ∀ signal ∈ audio.map Feed.signal, signal.HasKind .audio) :
    (∀ statement ∈ route.1.statements, route.1.TakesKinds statement) ∧
      ∀ kind, ∀ label ∈ route.2.get kind, route.1.Names label kind := by
  have videos := composition.asked_hasKind ends.videoFits seen
  have audios := composition.asked_hasKind ends.audioFits heard
  have opens := ends.wired.flow.opens (List.Subset.refl _) (by simp)
  have kinded : ∀ kind (feed : Option Feed), (∀ given ∈ feed, given.signal.HasKind kind) →
      ∀ link ∈ feed.toList.flatMap Feed.links, ∃ kind, link.2.HasKind kind := by
    intro kind feed trees link member
    obtain ⟨given, present, carried⟩ := List.mem_flatMap.mp member
    cases given with
    | source kind' index => exact absurd carried (by simp [Feed.links])
    | link label signal =>
        rw [List.mem_singleton.mp carried]
        exact ⟨kind, trees _ (Option.mem_toList.mp present)⟩
  refine ⟨(ends.wired.flow.takesKinds (List.Subset.refl _) (by simp) declares ?_).2, ?_⟩
  · exact List.forall_mem_append.mpr ⟨kinded _ _ videos, kinded _ _ audios⟩
  · rw [List.forall_mem_append] at opens
    have names : ∀ kind (feed : Option Feed), (∀ given ∈ feed, given.signal.HasKind kind) →
        (∀ link ∈ feed.toList.flatMap Feed.links, route.1.Opens link) →
          ∀ label ∈ feed.map Feed.label, route.1.Names label kind := by
      intro kind feed trees opened label member
      obtain ⟨given, present, rfl⟩ := Option.map_eq_some_iff.mp member
      refine given.names (fun link carried => opened link ?_) (trees given present)
      exact List.mem_flatMap.mpr ⟨given, Option.mem_toList.mpr present, carried⟩
    rw [ends.streams]
    intro kind
    cases kind with
    | video => exact names _ _ videos opens.1
    | audio => exact names _ _ audios opens.2

/-! ## Crossed streams -/

/-- The video of a sequence asks for the label of the joined audio, and no layer
is mixed with that audio. -/
structure ClaimsJoinedAudio (composition : Composition) : Prop where
  sequenced : composition.isSequenced = true
  seen : composition.main.isVideo = true
  heard : composition.anyClipHasAudio = true
  unmixed : composition.audibleLayers = []
  asked : composition.output.videoLabel = some "basea"

/-- The parts of the full route cross their streams in just this case. -/
theorem claims_of_crosses {parts : RouteParts}
    (seen : parts.video.map Feed.signal = composition.videoSignal)
    (base : parts.baseAudio = composition.baseAudioFeed)
    (heard : parts.audio =
      mixedFeed (composition.baseAudioFeed.toList ++ composition.layerAudioFeeds))
    (crosses : parts.Crosses composition) : composition.ClaimsJoinedAudio := by
  obtain ⟨label, asked, video, signal, signal', based, mixed⟩ := crosses
  rw [base] at based
  obtain ⟨audio, joined⟩ := Option.ite_none_right_eq_some.mp based
  have sequenced : composition.isSequenced = true := by
    by_contra single
    rw [if_neg single] at joined
    exact absurd (Option.some.inj joined) Feed.noConfusion
  rw [if_pos sequenced, Option.some.injEq, Feed.link.injEq] at joined
  obtain ⟨rfl, -⟩ := joined
  refine ⟨sequenced, ?_, audio, ?_, asked⟩
  · have some : (parts.video.map Feed.signal).isSome = true := by
      rw [Option.isSome_map]
      exact video
    rw [seen] at some
    obtain ⟨tree, known⟩ := Option.isSome_iff_exists.mp some
    obtain ⟨first, known', -⟩ := Option.map_eq_some_iff.mp known
    exact (Option.ite_none_right_eq_some.mp known').1
  · -- a mix has a label of its own
    rw [heard, based] at mixed
    cases layers : composition.layerAudioFeeds with
    | nil => exact List.map_eq_nil_iff.mp layers
    | cons feed rest =>
        rw [layers] at mixed
        exact absurd (congrArg (Option.map Feed.label) mixed) (by simp [mixedFeed, Feed.label])

theorem layAllOn_last (layers : List (Layer × Nat × String)) (current : String) :
    (layAllOn current layers).2 = current ∨
      (layAllOn current layers).2 ∈ (layAllOn current layers).1.flatMap (·.outputs) := by
  induction layers generalizing current with
  | nil => exact .inl rfl
  | cons item rest ih =>
      obtain ⟨layer, place, prepared⟩ := item
      have first : (layOn current layer place prepared).2 ∈
          (layOn current layer place prepared).1.flatMap (·.outputs) := by
        unfold layOn
        by_cases translucent : layer.spec.opacity < 1 <;> simp [translucent]
      refine .inr ?_
      show (layAllOn (layOn current layer place prepared).2 rest).2 ∈
        ((layOn current layer place prepared).1 ++
          (layAllOn (layOn current layer place prepared).2 rest).1).flatMap (·.outputs)
      rw [List.flatMap_append, List.mem_append]
      rcases ih (layOn current layer place prepared).2 with same | later
      · rw [same]
        exact .inl first
      · exact .inr later

/-- The last video is the base, or an output of the layers. -/
theorem layersOn_last (sequenced : Bool) (base : String) :
    ∃ last, (composition.layersOn sequenced (some base)).2 = some last ∧
      (last = base ∨
        last ∈ (composition.layersOn sequenced (some base)).1.flatMap (·.outputs)) := by
  rw [layersOn_eq]
  refine ⟨_, rfl, (layAllOn_last _ base).imp_right fun later => ?_⟩
  rw [List.flatMap_append]
  exact List.mem_append_right _ later

/-- The layers do not declare the label of the joined audio. -/
theorem joinedAudio_notMem_layersOn (sequenced : Bool) (base : Option String) :
    "basea" ∉ (composition.layersOn sequenced base).1.flatMap (·.outputs) := by
  intro member
  obtain ⟨name, listed, equal⟩ := (composition.layersOn_declares sequenced base).mem member
  obtain rfl : name = .joinedAudio := LinkName.text_injective equal
  simp [layerLinks, mem_numberedLinks] at listed

end Composition

namespace FilterGraph

variable {old new : String} {statements : List Statement}

/-- Renaming a label that is declared succeeds, and then the new one is. -/
theorem renameLast?_of_mem (declared : old ∈ statements.flatMap (·.outputs)) (other : old ≠ new) :
    ∃ renamed, renameLast? old new statements = some renamed ∧
      new ∈ renamed.flatMap (·.outputs) := by
  have succeeds : ∃ renamed, renameLast? old new statements = some renamed := by
    refine Option.ne_none_iff_exists'.mp fun none => ?_
    exact renameLast?_eq_none_iff.mp none declared
  obtain ⟨renamed, result⟩ := succeeds
  refine ⟨renamed, result, ?_⟩
  have exchanged := (perm_renameLast? result).symm.subset (List.mem_cons_self ..)
  exact (List.mem_cons.mp exchanged).resolve_left (Ne.symm other)

section

variable {statement : Statement} {first second : String} {later : List Statement}
  (outputs : statement.outputs = [first, second])

include outputs

/-- Renaming the first output of a statement, or one that is declared later,
leaves the second output as it is. -/
theorem renameLast?_first (declared : old = first ∨ old ∈ later.flatMap (·.outputs))
    (earlier : List Statement) (other : old ≠ new) :
    ∃ statement' later', renameLast? old new (earlier ++ statement :: later) =
        some (earlier ++ statement' :: later') ∧
      statement'.kind = statement.kind ∧ statement'.body = statement.body ∧
        ∃ first', statement'.outputs = [first', second] ∧
          (first' = new ∨ new ∈ later'.flatMap (·.outputs)) := by
  by_cases after : old ∈ later.flatMap (·.outputs)
  · obtain ⟨later', result, found⟩ := renameLast?_of_mem after other
    have onward : renameLast? old new (statement :: later) = some (statement :: later') := by
      simp [renameLast?, result]
    exact ⟨statement, later', renameLast?_append_right onward earlier, rfl, rfl, first, outputs,
      .inr found⟩
  · obtain rfl := declared.resolve_right after
    have onward : renameLast? old new (statement :: later) =
        some (statement.renameOutput old new :: later) := by
      simp [renameLast?, renameLast?_eq_none_iff.mpr after, outputs]
    refine ⟨statement.renameOutput old new, later, renameLast?_append_right onward earlier,
      rfl, rfl, new, ?_, .inl rfl⟩
    simp [Statement.renameOutput, outputs]

/-- The second output is still there when a stream that goes by its label too
has got the label that is asked for. -/
theorem relabel_second (again : first = second ∨ second ∈ later.flatMap (·.outputs))
    (earlier : List Statement) (kind : MediaKind) (requested : Option String) :
    ∃ kept ∈ (relabel kind requested ⟨earlier ++ statement :: later⟩ (some second)).1.statements,
      kept.kind = statement.kind ∧ kept.body = statement.body ∧
        kept.outputs[1]? = some second := by
  have unchanged : ∃ kept ∈ earlier ++ statement :: later,
      kept.kind = statement.kind ∧ kept.body = statement.body ∧
        kept.outputs[1]? = some second :=
    ⟨statement, List.mem_append_right _ (List.mem_cons_self ..), rfl, rfl, by simp [outputs]⟩
  cases requested with
  | none =>
      rw [relabel_none]
      exact unchanged
  | some label =>
      by_cases same : second = label
      · simpa only [relabel, same, if_true] using unchanged
      · obtain ⟨kept, later', result, kind', body, first', outputs', -⟩ :=
          renameLast?_first outputs (again.imp_left Eq.symm) earlier same
        rw [relabel_last same result]
        exact ⟨kept, List.mem_append_right _ (List.mem_cons_self ..), kind', body,
          by simp [outputs']⟩

end

end FilterGraph

namespace Composition

variable {composition : Composition}

/-- If the video takes the label of the joined audio, the audio is renamed in a
graph where the joined clips still declare that label for it, and the video
declares it there or later. -/
theorem fullRoute_of_claims (claims : composition.ClaimsJoinedAudio) :
    ∃ (concat : Statement) (later : List Statement) (first : String),
      concat.kind = .concat ∧ concat.body = composition.concatStatement.body ∧
        concat.outputs = [first, "basea"] ∧
        (first = "basea" ∨ "basea" ∈ later.flatMap (·.outputs)) ∧
        composition.fullRoute.1 = (relabel .audio composition.output.audioLabel
          ⟨composition.clipsStatements ++ concat :: later⟩ (some "basea")).1 ∧
        composition.fullRoute.2.video = some "basea" := by
  have joined : composition.joined = (⟨composition.clipsStatements ++
      [composition.concatStatement]⟩, ⟨some "basev", some "basea"⟩) := by
    simp [Composition.joined, joinedStreams, claims.sequenced, claims.seen, claims.heard]
  have outputs : composition.concatStatement.outputs = ["basev", "basea"] := by
    simp [concatStatement, joinedStreams, Streams.labels, claims.seen, claims.heard]
  have mixing : composition.mixLayers (some "basea") = ([], some "basea") := by
    simp [mixLayers, claims.unmixed, mixStreams]
  obtain ⟨current, video, source⟩ :=
    composition.layersOn_last composition.isSequenced "basev"
  have other : current ≠ "basea" := by
    rintro rfl
    rcases source with base | layer
    · exact absurd base (by decide)
    · exact composition.joinedAudio_notMem_layersOn _ _ layer
  obtain ⟨concat, later, result, kind, body, first, outputs', again⟩ :=
    FilterGraph.renameLast?_first outputs source composition.clipsStatements other
  have named : relabel .video composition.output.videoLabel
      ((⟨composition.clipsStatements ++ [composition.concatStatement]⟩ : FilterGraph).extend
        (composition.layersOn composition.isSequenced (some "basev")).1) (some current) =
          (⟨composition.clipsStatements ++ concat :: later⟩, some "basea") := by
    rw [claims.asked]
    refine relabel_last other ?_
    rw [FilterGraph.extend, List.append_assoc, List.singleton_append, result]
  have route : composition.fullRoute =
      ((relabel .audio composition.output.audioLabel
          ⟨composition.clipsStatements ++ concat :: later⟩ (some "basea")).1,
        ⟨some "basea", (relabel .audio composition.output.audioLabel
          ⟨composition.clipsStatements ++ concat :: later⟩ (some "basea")).2⟩) := by
    unfold fullRoute finished
    simp only [joined, video, named, mixing]
    simp only [FilterGraph.extend, List.append_nil]
  exact ⟨concat, later, first, kind, body, outputs', again, by rw [route], by rw [route]⟩

/-- If the video has taken the label of the joined audio, that label names an
audio still. -/
theorem crossed_of_claims (claims : composition.ClaimsJoinedAudio) :
    composition.fullRoute.2.video = some "basea" ∧
      composition.fullRoute.1.Names "basea" .audio := by
  obtain ⟨concat, later, first, kind, body, outputs, again, graph, video⟩ :=
    fullRoute_of_claims claims
  obtain ⟨kept, member, kind', body', found⟩ := FilterGraph.relabel_second outputs again
    composition.clipsStatements .audio composition.output.audioLabel
  let kinds := segmentKinds composition.main.isVideo composition.anyClipHasAudio
  have handles : Handles kept.kind kept.body
      (List.replicate composition.sequence.length kinds).flatten kinds := by
    rw [kind', kind, body', body]
    exact .concat _ _ _
  refine ⟨video, .inr ⟨kept, graph ▸ member, _, kinds, 1, handles, found, ?_⟩⟩
  simp only [kinds, claims.seen, claims.heard]
  rfl

/-! ## Programs -/

theorem built_of_plan {program : Program} (planned : composition.plan = .ok program) :
    composition.compile = .ok program ∨ composition.singlePass = .ok program := by
  unfold plan at planned
  obtain ⟨_, -, built⟩ := bind_ok_iff.mp planned
  have route := mapError_ok_iff.mp built
  split at route
  · exact .inr route
  · exact .inl route

theorem route_of_built {program : Program} (built : composition.compile = .ok program ∨
    composition.singlePass = .ok program ∨ composition.plan = .ok program) :
    composition.compile = .ok program ∨ composition.singlePass = .ok program := by
  rcases built with compiled | passed | planned
  · exact .inl compiled
  · exact .inr passed
  · exact built_of_plan planned

/-- A program of either route, or of a plan, keeps the kinds of its streams
just when the video does not ask for the label of the joined audio. -/
theorem keepsKinds_iff {program : Program} (unfiltered : composition.fragments = [])
    (built : composition.compile = .ok program ∨ composition.singlePass = .ok program ∨
      composition.plan = .ok program) :
    program.KeepsKinds ↔ ¬ composition.ClaimsJoinedAudio := by
  rcases route_of_built built with compiled | passed
  · obtain ⟨accepted, -, accounted, rfl⟩ := (compile_plain_iff unfiltered).mp compiled
    have distinct := accounted.valid.declaredOnce
    constructor
    · intro keeps claims
      obtain ⟨video, audio⟩ := crossed_of_claims claims
      have seen := keeps.final .video "basea" video
      have same := FilterGraph.Names.unique distinct (by decide) seen audio
      exact absurd same (by decide)
    · intro straight
      obtain ⟨parts, fit, equal, seen, heard, base, mixed⟩ := fullRoute_parts accepted
      rw [equal] at distinct
      have ends := endsIn_of_distinct accepted fit distinct fun crosses =>
        straight (claims_of_crosses seen base mixed crosses)
      rw [← equal] at ends
      obtain ⟨takes, final⟩ := ends.keepsKinds
        (fun statement member => (fullRoute_writes statement member).declares)
        (seen ▸ videoSignal_hasKind) (heard ▸ audioSignal_hasKind)
      exact ⟨takes, final⟩
  · obtain ⟨accepted, simple, assembled⟩ := composition.singlePass_ok_iff.mp passed
    obtain ⟨accounted, rfl⟩ := composition.assemble_ok_iff.mp assembled
    have single := isSequenced_of_isSimple simple
    have distinct := accounted.valid.declaredOnce
    refine iff_of_true ?_ fun claims => absurd (single ▸ claims.sequenced) (by decide)
    obtain ⟨parts, fit, equal, seen, heard, base⟩ := plainRoute_parts simple
    rw [equal] at distinct
    have ends := endsIn_of_distinct accepted fit distinct <| by
      -- a single clip is a stream of an input, and no link
      rintro ⟨label, -, -, signal, signal', based, -⟩
      rw [base] at based
      obtain ⟨-, source⟩ := Option.ite_none_right_eq_some.mp based
      rw [single] at source
      exact absurd (Option.some.inj source) Feed.noConfusion
    rw [← equal] at ends
    obtain ⟨takes, final⟩ := ends.keepsKinds
      (fun statement member => (plainRoute_writes statement member).declares)
      (seen ▸ laidPlainVideoSignal_hasKind) (heard ▸ mixedPlainSignal_hasKind)
    exact ⟨takes, final⟩

/-- Two clips under a title that is heard, with labels of the routes' own for
both streams. -/
def relabelled : Composition where
  main := ⟨[1], .video, {}⟩
  append := [⟨[2], .video, {}⟩]
  overlays := [⟨⟨[3], .video, {}⟩, { start := 1, mixAudio := true }⟩]
  output := { videoLabel := some "mixa", audioLabel := some "ov0" }

theorem keepsKinds_relabelled : ∃ program, relabelled.compile = .ok program ∧
    program.KeepsKinds := by
  obtain ⟨program, compiled⟩ : ∃ program, relabelled.compile = .ok program :=
    exists_ok_of_isOk (by decide +kernel)
  refine ⟨program, compiled, (keepsKinds_iff rfl (.inl compiled)).mpr fun claims => ?_⟩
  exact absurd claims.asked (by decide)

/-- Two clips whose video asks for the label of the joined audio. -/
def swapped : Composition where
  main := ⟨[1], .video, {}⟩
  append := [⟨[2], .video, {}⟩]
  output := { videoLabel := some "basea", audioLabel := some "sound" }

/-- The program is built, and its final video is the audio. -/
theorem swapped_crosses : ∃ program, swapped.compile = .ok program ∧
    program.final.video = some "basea" ∧ program.graph.Names "basea" .audio ∧
      ¬ program.KeepsKinds := by
  have claims : swapped.ClaimsJoinedAudio := by constructor <;> decide
  obtain ⟨program, compiled⟩ : ∃ program, swapped.compile = .ok program :=
    exists_ok_of_isOk (by decide +kernel)
  obtain ⟨-, -, accounted, rfl⟩ := (compile_plain_iff rfl).mp compiled
  obtain ⟨video, audio⟩ := crossed_of_claims claims
  refine ⟨_, compiled, video, audio, fun keeps => ?_⟩
  have same := FilterGraph.Names.unique accounted.valid.declaredOnce (by decide)
    (keeps.final .video "basea" video) audio
  exact absurd same (by decide)

end Composition

end Montage
