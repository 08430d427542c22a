import Montage.Proofs.Filter.Bodies
import Montage.Proofs.Program.Routes

/-!
# What the routes write

Each statement of a route has one of a few filters, with values taken from the
composition (`Uses`), and its labels are streams of inputs, links of the routes
or labels that are asked for (`Knows`). That a final stream gets the label that
is asked for changes neither. So the labels and the body of each statement can
be told apart in its text (`fullRoute_legible`, `plainRoute_legible`).
-/

namespace Montage

open Montage.Composition Montage.Fragment

/-! ## Labels of flows -/

/-- A stream of an input, or one of some links. -/
def IsStreamOr (links : List String) (label : String) : Prop :=
  (∃ kind index, label = streamLabel kind index) ∨ label ∈ links

/-- Statements of a flow consume streams of inputs, links that are open before
and links that they declare, and no others are open after them. -/
theorem Flow.labels {n : Nat} {before after : List Link} {statements : List Statement}
    (flow : Flow n before statements after) :
    (∀ label ∈ statements.flatMap (·.inputs),
        IsStreamOr (before.map Prod.fst ++ statements.flatMap (·.outputs)) label) ∧
      ∀ label ∈ after.map Prod.fst,
        label ∈ before.map Prod.fst ++ statements.flatMap (·.outputs) := by
  induction flow with
  | done final =>
      refine ⟨by simp, fun label member => ?_⟩
      rw [List.flatMap_nil, List.append_nil]
      exact (final.map Prod.fst).mem_iff.mpr member
  | @step before after statement rest feeds others inputs within taken _ ih =>
      have labels := taken.map Prod.fst
      rw [List.map_append] at labels
      -- what is open after the statement was open before it, or is one of its outputs
      have onward : ∀ label ∈ (statement.results (feeds.map Feed.signal) ++ others).map Prod.fst ++
          rest.flatMap (·.outputs),
          label ∈ before.map Prod.fst ++ (statement :: rest).flatMap (·.outputs) := by
        intro label member
        rw [List.map_append, Flow.map_fst_results] at member
        simp only [List.mem_append, List.flatMap_cons] at member ⊢
        rcases member with (opened | kept) | later
        · exact .inr (.inl opened)
        · exact .inl (labels.mem_iff.mpr (List.mem_append_right _ kept))
        · exact .inr (.inr later)
      refine ⟨?_, fun label member => onward label (ih.2 label member)⟩
      rw [List.flatMap_cons, List.forall_mem_append]
      refine ⟨?_, fun label member => (ih.1 label member).imp_right (onward label)⟩
      intro label member
      rw [inputs, List.mem_map] at member
      obtain ⟨feed, fed, rfl⟩ := member
      cases feed with
      | source kind index => exact .inl ⟨kind, index, rfl⟩
      | link label signal =>
          refine .inr (List.mem_append_left _ (labels.mem_iff.mpr (List.mem_append_left _ ?_)))
          exact List.mem_map_of_mem (Feed.mem_links_of_mem fed)

/-! ## Final streams under their labels -/

theorem FilterGraph.forall_renameLast? {P : Statement → Prop} {old new : String}
    {statements renamed : List Statement} (all : ∀ statement ∈ statements, P statement)
    (keeps : ∀ statement, P statement → P (statement.renameOutput old new))
    (result : renameLast? old new statements = some renamed) :
    ∀ statement ∈ renamed, P statement := by
  obtain ⟨earlier, statement, later, rfl, -, rfl⟩ := exists_renameLast? result
  simp only [List.forall_mem_append, List.forall_mem_cons] at all ⊢
  exact ⟨all.1, keeps statement all.2.1, all.2.2⟩

namespace Composition

/-- What holds of the statements of a graph still holds when a final stream has
got the label that is asked for. -/
theorem forall_relabel {P : Statement → Prop} {graph : FilterGraph} {kind : MediaKind}
    {requested label : Option String} (all : ∀ statement ∈ graph.statements, P statement)
    (keeps : ∀ statement, ∀ old ∈ label, ∀ new ∈ requested,
      P statement → P (statement.renameOutput old new))
    (passes : ∀ old ∈ label, ∀ new ∈ requested,
      P (.chain .passthrough old (passingOn kind) new)) :
    ∀ statement ∈ (relabel kind requested graph label).1.statements, P statement := by
  rcases relabel_cases kind requested graph label with
    same | ⟨old, new, rfl, rfl, -, ⟨statements, renamed, equal⟩ | equal⟩
  · rwa [same]
  · rw [equal]
    exact FilterGraph.forall_renameLast? all
      (fun statement => keeps statement old rfl new rfl) renamed
  · rw [equal]
    exact List.forall_mem_append.mpr
      ⟨all, List.forall_mem_singleton.mpr (passes old rfl new rfl)⟩

variable {composition : Composition}

/-- What holds of the statements that a route is made of holds of all that it
ends in. -/
theorem forall_finished {P : Statement → Prop} {graph : FilterGraph} {video audio : Option String}
    {layering mixing : List Statement}
    (all : ∀ statement ∈ graph.statements ++ layering ++ mixing, P statement)
    (keeps : ∀ statement, ∀ old kind, ∀ new ∈ composition.requested kind,
      P statement → P (statement.renameOutput old new))
    (passes : ∀ kind, ∀ old ∈ (⟨video, audio⟩ : Streams).get kind,
      ∀ new ∈ composition.requested kind, P (.chain .passthrough old (passingOn kind) new)) :
    ∀ statement ∈ (composition.finished graph layering video mixing audio).1.statements,
      P statement := by
  rw [List.forall_mem_append] at all
  have layered : ∀ statement ∈ (relabel .video composition.output.videoLabel
      (graph.extend layering) video).1.statements, P statement :=
    forall_relabel all.1 (fun statement old _ => keeps statement old .video) (passes .video)
  exact forall_relabel (List.forall_mem_append.mpr ⟨layered, all.2⟩)
    (fun statement old _ => keeps statement old .audio) (passes .audio)

/-! ## Filters -/

/-- The filters that the routes write for a composition. -/
inductive Uses (composition : Composition) : FilterKind → String → Prop
  | clipVideo : Uses composition .normalize
      (Filter.normalizeVideo ((composition.baseResolution true).getD .fullHD)
        composition.sequenceFps)
  | clipAudio : Uses composition .normalizeAudio (Filter.normalizeAudio composition.sequenceRate)
  | silence {clip : Asset} : clip ∈ composition.sequence → clip.hasAudio = false →
      composition.anyClipHasAudio = true → Uses composition .silentAudio
        (Filter.silentAudio composition.sequenceRate (clip.metadata.duration.getD 0))
  | joining : Uses composition .concat
      (Filter.concat composition.sequence.length composition.main.isVideo
        composition.anyClipHasAudio)
  | preparing {item : Layer × Nat} (base : Resolution) {step : PreparationStep} :
      item ∈ composition.visualLayers → step ∈ preparation base item.1.spec →
        Uses composition step.kind step.body
  | fading {item : Layer × Nat} : item ∈ composition.visualLayers →
      Uses composition .alpha (Filter.alpha item.1.spec.opacity)
  | fitting {item : Layer × Nat} (base : Resolution) : item ∈ composition.visualLayers →
      plainSteps base item.1.spec ≠ [] →
        Uses composition (plainKind item.1.spec) (",".intercalate (plainSteps base item.1.spec))
  | laying {item : Layer × Nat} {window : Option String} : item ∈ composition.visualLayers →
      window = none ∨ window = layerWindow item.1.spec →
        Uses composition .overlay (Filter.overlay item.1.spec.position window)
  | timing {item : Layer × Nat} : item ∈ composition.audibleLayers →
      item.1.spec.isTimed = true →
        Uses composition .audioTiming (Filter.audioTiming item.1.spec.start item.1.spec.finish)
  | mixing (inputs : Nat) : Uses composition .mix (Filter.mix inputs)
  | passing (kind : MediaKind) : Uses composition .passthrough (passingOn kind)

/-- A statement with such a filter that declares something. -/
structure Writes (composition : Composition) (statement : Statement) : Prop where
  filter : composition.Uses statement.kind statement.body
  declares : statement.outputs ≠ []

theorem Writes.chain {kind : FilterKind} {body : String} (filter : composition.Uses kind body)
    (input output : String) : composition.Writes (.chain kind input body output) :=
  ⟨filter, List.cons_ne_nil _ _⟩

theorem Writes.renameOutput {statement : Statement} (written : composition.Writes statement)
    (old new : String) : composition.Writes (statement.renameOutput old new) := by
  refine ⟨written.filter, fun none => written.declares ?_⟩
  have length : (statement.outputs.replace old new).length = statement.outputs.length :=
    List.length_replace
  rw [show statement.outputs.replace old new = [] from none] at length
  exact List.length_eq_zero_iff.mp length.symm

theorem joinedStreams_labels_ne_nil (composition : Composition) :
    composition.joinedStreams.labels ≠ [] := by
  unfold joinedStreams Streams.labels
  cases video : composition.main.isVideo with
  | true => simp
  | false => simp [composition.anyClipHasAudio_of_audio video]

theorem joined_writes : ∀ statement ∈ composition.joined.1.statements,
    composition.Writes statement := by
  unfold joined
  cases composition.isSequenced with
  | false => simp
  | true =>
      refine List.forall_mem_append.mpr ⟨?_, List.forall_mem_singleton.mpr
        ⟨.joining, composition.joinedStreams_labels_ne_nil⟩⟩
      intro statement member
      obtain ⟨⟨clip, index⟩, listed, inside⟩ := List.mem_flatMap.mp member
      unfold joinable at inside
      rcases List.mem_append.mp inside with video | audio
      · obtain ⟨-, found⟩ := List.mem_ite_nil_right.mp video
        rw [List.mem_singleton.mp found]
        exact .chain .clipVideo _ _
      · obtain ⟨some, found⟩ := List.mem_ite_nil_right.mp audio
        rw [List.mem_singleton.mp found]
        unfold clipAudioStatement
        cases heard : clip.hasAudio with
        | true => exact .chain .clipAudio _ _
        | false =>
            exact ⟨.silence (List.fst_mem_of_mem_zipIdx listed) heard some, List.cons_ne_nil _ _⟩

theorem linkSteps_writes {steps : List PreparationStep} (place : Nat) (input : String)
    (uses : ∀ step ∈ steps, composition.Uses step.kind step.body) :
    ∀ statement ∈ (linkSteps place input steps).1, composition.Writes statement := by
  induction steps generalizing input with
  | nil => simp [linkSteps]
  | cons step rest ih =>
      rw [List.forall_mem_cons] at uses
      cases rest with
      | nil => exact List.forall_mem_singleton.mpr (.chain uses.1 _ _)
      | cons next others => exact List.forall_mem_cons.mpr ⟨.chain uses.1 _ _, ih _ uses.2⟩

theorem layOn_writes {item : Layer × Nat} (visual : item ∈ composition.visualLayers)
    (current prepared : String) :
    ∀ statement ∈ (layOn current item.1 item.2 prepared).1, composition.Writes statement := by
  have laid : ∀ below above output, composition.Writes ⟨.overlay, [below, above], [output],
      Filter.overlay item.1.spec.position (layerWindow item.1.spec)⟩ := fun _ _ _ =>
    ⟨.laying visual (.inr rfl), List.cons_ne_nil _ _⟩
  unfold layOn
  by_cases translucent : item.1.spec.opacity < 1
  · simp only [translucent, if_true, List.forall_mem_cons]
    exact ⟨.chain (.fading visual) _ _, laid _ _ _, by simp⟩
  · simp only [translucent, if_false, List.forall_mem_singleton]
    exact laid _ _ _

theorem layAllOn_writes {layers : List PreparedLayer}
    (visual : ∀ item ∈ layers, (item.1, item.2.1) ∈ composition.visualLayers) (current : String) :
    ∀ statement ∈ (layAllOn current (labelled layers)).1, composition.Writes statement := by
  induction layers generalizing current with
  | nil => simp [labelled, layAllOn]
  | cons item rest ih =>
      rw [List.forall_mem_cons] at visual
      exact List.forall_mem_append.mpr ⟨layOn_writes visual.1 _ _, ih visual.2 _⟩

theorem layersOn_writes (sequenced : Bool) (base : Option String) :
    ∀ statement ∈ (composition.layersOn sequenced base).1, composition.Writes statement := by
  have preparing : ∀ statement ∈ composition.visualLayers.flatMap fun item =>
      (composition.prepareLayer ((composition.baseResolution sequenced).getD .fullHD) item.1
        item.2).1, composition.Writes statement := by
    intro statement member
    obtain ⟨item, visual, inside⟩ := List.mem_flatMap.mp member
    exact linkSteps_writes _ _ (fun step listed => .preparing _ visual listed) statement inside
  rw [layersOn_eq]
  cases base with
  | none => exact preparing
  | some current =>
      refine List.forall_mem_append.mpr ⟨preparing, layAllOn_writes ?_ current⟩
      intro item member
      obtain ⟨original, visual, rfl⟩ := List.mem_map.mp member
      exact visual

theorem mixStreams_writes (sources : List String) :
    ∀ statement ∈ (mixStreams sources).1, composition.Writes statement := by
  rcases sources with _ | ⟨first, _ | ⟨second, rest⟩⟩
  · simp [mixStreams]
  · simp [mixStreams]
  · exact List.forall_mem_singleton.mpr ⟨.mixing _, List.cons_ne_nil _ _⟩

theorem mixLayers_writes (base : Option String) :
    ∀ statement ∈ (composition.mixLayers base).1, composition.Writes statement := by
  refine List.forall_mem_append.mpr ⟨fun statement member => ?_, mixStreams_writes _⟩
  rw [List.flatMap_map] at member
  obtain ⟨item, audible, inside⟩ := List.mem_flatMap.mp member
  unfold layerAudio at inside
  cases timed : item.1.spec.isTimed with
  | false => simp [timed] at inside
  | true =>
      simp only [timed, if_true, List.mem_singleton] at inside
      rw [inside]
      exact .chain (.timing audible timed) _ _

theorem layPlainOn_writes {item : Layer × Nat} (visual : item ∈ composition.visualLayers)
    (base : Resolution) (current : String) :
    ∀ statement ∈ (composition.layPlainOn base current item.1 item.2).1,
      composition.Writes statement := by
  have laid : ∀ below above output, composition.Writes ⟨.overlay, [below, above], [output],
      Filter.overlay item.1.spec.position none⟩ := fun _ _ _ =>
    ⟨.laying visual (.inl rfl), List.cons_ne_nil _ _⟩
  have fitted : plainSteps base item.1.spec ≠ [] → composition.Uses _ _ := .fitting base visual
  rw [layPlainOn_eq]
  cases steps : plainSteps base item.1.spec with
  | nil => exact List.forall_mem_singleton.mpr (laid _ _ _)
  | cons step rest =>
      rw [steps] at fitted
      simp only [List.forall_mem_cons]
      exact ⟨.chain (fitted (List.cons_ne_nil _ _)) _ _, laid _ _ _, by simp⟩

theorem layAllPlainOn_writes {layers : List (Layer × Nat)}
    (visual : ∀ item ∈ layers, item ∈ composition.visualLayers) (base : Resolution)
    (current : String) :
    ∀ statement ∈ (composition.layAllPlainOn base current layers).1,
      composition.Writes statement := by
  induction layers generalizing current with
  | nil => simp [layAllPlainOn]
  | cons item rest ih =>
      rw [List.forall_mem_cons] at visual
      exact List.forall_mem_append.mpr
        ⟨layPlainOn_writes visual.1 _ _, ih visual.2 _⟩

theorem plainLayersOn_writes (base : Option String) :
    ∀ statement ∈ (composition.plainLayersOn base).1, composition.Writes statement := by
  unfold plainLayersOn
  split
  · exact layAllPlainOn_writes (fun _ member => member) _ _
  · simp

/-- What the routes are made of they write, and so they do what they end in. -/
theorem finished_writes {graph : FilterGraph} {video audio : Option String}
    {layering mixing : List Statement}
    (joins : ∀ statement ∈ graph.statements, composition.Writes statement)
    (lays : ∀ statement ∈ layering, composition.Writes statement)
    (mixes : ∀ statement ∈ mixing, composition.Writes statement) :
    ∀ statement ∈ (composition.finished graph layering video mixing audio).1.statements,
      composition.Writes statement := by
  refine forall_finished ?_ (fun _ old _ new _ written => written.renameOutput old new)
    fun kind old _ new _ => .chain (.passing kind) old new
  rw [List.forall_mem_append, List.forall_mem_append]
  exact ⟨⟨joins, lays⟩, mixes⟩

theorem fullRoute_writes : ∀ statement ∈ composition.fullRoute.1.statements,
    composition.Writes statement :=
  finished_writes joined_writes (layersOn_writes _ _) (mixLayers_writes _)

theorem plainRoute_writes : ∀ statement ∈ composition.plainRoute.1.statements,
    composition.Writes statement :=
  finished_writes (by simp) (plainLayersOn_writes _) (mixStreams_writes _)

/-! ## Labels -/

/-- The labels that the routes write for a composition. -/
def Knows (composition : Composition) (label : String) : Prop :=
  (∃ kind index, label = streamLabel kind index) ∨ (∃ name : LinkName, name.text = label) ∨
    ∃ kind, label ∈ composition.requested kind

/-- A statement all of whose labels are such. -/
def KnowsLabels (composition : Composition) (statement : Statement) : Prop :=
  ∀ label ∈ statement.inputs ++ statement.outputs, composition.Knows label

theorem knowsLabels_renameOutput {statement : Statement} {kind : MediaKind} {new : String}
    (asked : new ∈ composition.requested kind) (old : String)
    (known : composition.KnowsLabels statement) :
    composition.KnowsLabels (statement.renameOutput old new) := by
  unfold KnowsLabels at known ⊢
  rw [List.forall_mem_append] at known ⊢
  refine ⟨known.1, fun label member => ?_⟩
  by_cases declared : old ∈ statement.outputs
  · have exchanged : label ∈ new :: statement.outputs :=
      (perm_replace declared).subset (List.mem_cons_of_mem _ member)
    rcases List.mem_cons.mp exchanged with rfl | kept
    · exact .inr (.inr ⟨kind, asked⟩)
    · exact known.2 label kept
  · rw [show (statement.renameOutput old new).outputs = statement.outputs from
      List.replace_of_not_mem declared] at member
    exact known.2 label member

/-- Statements of a flow know their labels if they know the links that are open
before and those that they declare. -/
theorem knowsLabels_of_flow (composition : Composition) {n : Nat} {before after : List Link}
    {statements : List Statement} {names : List LinkName}
    (flow : Flow n before statements after)
    (opened : ∀ label ∈ before.map Prod.fst, composition.Knows label)
    (declares : Declares statements names) :
    (∀ statement ∈ statements, composition.KnowsLabels statement) ∧
      ∀ label ∈ after.map Prod.fst, composition.Knows label := by
  have declared : ∀ label ∈ statements.flatMap (·.outputs), composition.Knows label := by
    intro label member
    obtain ⟨name, -, equal⟩ := declares.mem member
    exact .inr (.inl ⟨name, equal⟩)
  have links := List.forall_mem_append.mpr ⟨opened, declared⟩
  obtain ⟨inputs, last⟩ := flow.labels
  refine ⟨fun statement member => ?_, fun label member => links label (last label member)⟩
  refine List.forall_mem_append.mpr ⟨fun label consumed => ?_, fun label output => ?_⟩
  · rcases inputs label (List.mem_flatMap.mpr ⟨statement, member, consumed⟩) with stream | link
    · exact .inl stream
    · exact links label link
  · exact declared label (List.mem_flatMap.mpr ⟨statement, member, output⟩)

/-- The label of a feed is known if its link is. -/
theorem knows_feed {feed : Option Feed}
    (opened : ∀ label ∈ (feed.toList.flatMap Feed.links).map Prod.fst, composition.Knows label) :
    ∀ label ∈ feed.map Feed.label, composition.Knows label := by
  intro label member
  obtain ⟨given, rfl, rfl⟩ := Option.map_eq_some_iff.mp member
  cases given with
  | source kind index => exact .inl ⟨kind, index, rfl⟩
  | link label signal => exact opened label (by simp [Feed.links])

theorem finish_knowsLabels (composition : Composition) {parts : RouteParts} {n : Nat}
    (fit : parts.Fit n) :
    ∀ statement ∈ (parts.finish composition).1.statements,
      composition.KnowsLabels statement := by
  obtain ⟨joins, base⟩ := composition.knowsLabels_of_flow fit.base.flow (by simp) fit.declares
  rw [List.map_append, List.forall_mem_append] at base
  obtain ⟨lays, video⟩ := composition.knowsLabels_of_flow fit.layered base.1 fit.declaresLayers
  obtain ⟨mixes, audio⟩ := composition.knowsLabels_of_flow fit.mixed base.2 fit.declaresMix
  have current : ∀ kind, ∀ label ∈ (streamsOf parts.video parts.audio).get kind,
      composition.Knows label := by
    intro kind
    cases kind with
    | video => exact knows_feed video
    | audio => exact knows_feed audio
  refine forall_finished ?_
    (fun _ old _ _ asked known => knowsLabels_renameOutput asked old known)
    fun kind old final new asked => ?_
  · rw [List.forall_mem_append, List.forall_mem_append]
    exact ⟨⟨joins, lays⟩, mixes⟩
  · refine List.forall_mem_cons.mpr ⟨current kind old final, List.forall_mem_singleton.mpr ?_⟩
    exact .inr (.inr ⟨kind, asked⟩)

/-! ## Legible statements -/

theorem isMadeOf_streamLabel (kind : MediaKind) (index : Nat) :
    IsMadeOf isWordChar (streamLabel kind index) := by
  refine List.all_eq_true.mpr ?_
  rw [streamLabel_toList, List.forall_mem_append]
  refine ⟨fun c member => ?_, List.all_eq_true.mp (by cases kind <;> decide)⟩
  simp [isWordChar, Char.isAlphanum, toDigits_isDigit member]

theorem isMadeOf_text (name : LinkName) : IsMadeOf isWordChar name.text := by
  cases name with
  | numbered family number =>
      have stem : IsMadeOf isWordChar family.stem := by cases family <;> decide
      have tail : IsMadeOf isWordChar family.tail := by cases family <;> decide
      exact isMadeOf_append.mpr ⟨isMadeOf_append.mpr ⟨stem, isMadeOf_nat number⟩, tail⟩
  | _ => decide

theorem isMadeOf_of_isLinkLabel {label : String} (valid : isLinkLabel label = true) :
    IsMadeOf isWordChar label := by
  unfold isLinkLabel at valid
  rw [Bool.and_eq_true, List.all_eq_true] at valid
  refine List.all_eq_true.mpr fun c member => ?_
  have allowed := valid.2 c member
  simp only [Bool.or_eq_true, decide_eq_true_eq] at allowed
  rcases allowed with ((letter | rfl) | rfl) | rfl
  · simp [isWordChar, letter]
  all_goals decide

theorem isName_of_word {label : String} (made : IsMadeOf isWordChar label) : IsName label := by
  intro c member
  obtain ⟨ordinary, plain⟩ := isOrdinary_of_isFilterChar (made.filters.mem member)
  exact ⟨ordinary, fun comma => made.comma_notMem (comma ▸ member), plain.2⟩

theorem isName_of_knows (accepted : composition.check = .ok ()) {label : String}
    (known : composition.Knows label) : IsName label := by
  rcases known with ⟨kind, index, rfl⟩ | ⟨name, rfl⟩ | ⟨kind, asked⟩
  · exact isName_of_word (isMadeOf_streamLabel kind index)
  · exact isName_of_word (isMadeOf_text name)
  · exact isName_of_word (isMadeOf_of_isLinkLabel (requested_isLinkLabel accepted kind label asked))

/-- The steps that prepare a layer. -/
theorem mem_preparation {base : Resolution} {spec : OverlaySpec} {step : PreparationStep}
    (listed : step ∈ preparation base spec) :
    (0 < spec.start ∧ step = ⟨.timePad, Filter.timePad spec.start, "pad"⟩) ∨
      (∃ color ∈ spec.colorKey, step = ⟨.colorKey,
        Filter.colorKey color spec.effectiveSimilarity spec.effectiveBlend, "key"⟩) ∨
      step = ⟨.scale, scaleBody base spec, "scaled"⟩ := by
  unfold preparation at listed
  simp only [List.mem_append, List.mem_ite_nil_right, List.mem_singleton, Option.mem_toList,
    Option.map_eq_some_iff] at listed
  rcases listed with (delayed | ⟨color, keyed, rfl⟩) | ⟨-, rfl⟩
  · exact .inl delayed
  · exact .inr (.inl ⟨color, keyed, rfl⟩)
  · exact .inr (.inr rfl)

theorem isBody_of_uses {kind : FilterKind} {body : String} (uses : composition.Uses kind body) :
    IsBody body.toList := by
  cases uses with
  | clipVideo => exact Filter.isBody_normalizeVideo _ _
  | clipAudio => exact Filter.isBody_normalizeAudio _
  | silence _ _ _ => exact Filter.isBody_silentAudio _ _
  | joining => exact Filter.isBody_concat _ _ _
  | @preparing item base step _ listed =>
      rcases mem_preparation listed with ⟨-, rfl⟩ | ⟨color, -, rfl⟩ | rfl
      · exact Filter.isBody_timePad _
      · exact Filter.isBody_colorKey _ _ _
      · exact isBody_of_filters (Filter.isMadeOf_scale _ _) (Filter.endsInFilter_scale _ _)
  | fading _ => exact isBody_of_filters (Filter.isMadeOf_alpha _) (Filter.endsInFilter_alpha _)
  | @fitting item base _ some =>
      have each : ∀ step ∈ plainSteps base item.1.spec,
          IsMadeOf isFilterChar step ∧ EndsInFilter step := by
        unfold plainSteps
        simp only [List.mem_append, List.mem_ite_nil_right, List.mem_singleton]
        rintro step (⟨-, rfl⟩ | ⟨-, rfl⟩)
        · exact ⟨Filter.isMadeOf_scale _ _, Filter.endsInFilter_scale _ _⟩
        · exact ⟨Filter.isMadeOf_alpha _, Filter.endsInFilter_alpha _⟩
      exact isBody_of_filters (isMadeOf_intercalate fun step listed => (each step listed).1)
        (.intercalate some fun step listed => (each step listed).2)
  | @laying item window _ shown =>
      refine Filter.isBody_overlay _ fun text member => ?_
      rcases shown with rfl | rfl
      · exact absurd member (by simp)
      · unfold layerWindow at member
        obtain ⟨-, equal⟩ := Option.ite_none_right_eq_some.mp member
        rw [← Option.some.inj equal]
        exact isMadeOf_enableWindow _ _
  | timing _ timed =>
      refine Filter.isBody_audioTiming ?_
      unfold OverlaySpec.isTimed at timed
      simpa [OverlaySpec.finish] using timed
  | mixing _ => exact Filter.isBody_mix _
  | passing kind => exact isBody_of_filters (by cases kind <;> decide) (by cases kind <;> decide)

theorem ne_raw_of_uses {kind : FilterKind} {body : String} (uses : composition.Uses kind body) :
    kind ≠ .raw := by
  cases uses with
  | @preparing item base step _ listed =>
      rcases mem_preparation listed with ⟨-, rfl⟩ | ⟨color, -, rfl⟩ | rfl <;>
        exact FilterKind.noConfusion
  | fitting _ _ _ =>
      unfold plainKind
      split <;> decide
  | _ => decide

/-- A statement that is written with known labels can be read. -/
theorem Writes.isLegible {statement : Statement} (accepted : composition.check = .ok ())
    (written : composition.Writes statement) (known : composition.KnowsLabels statement) :
    statement.IsLegible where
  written := ne_raw_of_uses written.filter
  inputs := fun label member =>
    isName_of_knows accepted (known label (List.mem_append_left _ member))
  outputs := fun label member =>
    isName_of_knows accepted (known label (List.mem_append_right _ member))
  body := isBody_of_uses written.filter

theorem fullRoute_legible (accepted : composition.check = .ok ()) :
    ∀ statement ∈ composition.fullRoute.1.statements, statement.IsLegible := by
  obtain ⟨parts, fit, equal, -, -⟩ := fullRoute_parts accepted
  have known := composition.finish_knowsLabels fit
  rw [← equal] at known
  exact fun statement member =>
    (fullRoute_writes statement member).isLegible accepted (known statement member)

theorem plainRoute_legible (accepted : composition.check = .ok ())
    (simple : composition.isSimple = true) :
    ∀ statement ∈ composition.plainRoute.1.statements, statement.IsLegible := by
  obtain ⟨parts, fit, equal, -, -⟩ := plainRoute_parts simple
  have known := composition.finish_knowsLabels fit
  rw [← equal] at known
  exact fun statement member =>
    (plainRoute_writes statement member).isLegible accepted (known statement member)

end Composition

end Montage
