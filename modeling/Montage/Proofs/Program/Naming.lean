import Montage.Proofs.Program.Ends
import Montage.Proofs.Program.Writing

/-!
# Labels that are asked for

The label that is asked for a final stream may be one that the route declares
itself. Renaming never takes a declaration away, so a label that is declared
once too often stays so unless the other stream goes by it and is renamed in
turn. If the last graph declares each label once, both streams have therefore
got their labels (`endsIn_of_distinct`), but for one case: the video asks for
the label of the base audio, which the audio still goes by
(`RouteParts.Crosses`).
-/

namespace Montage

open Montage.Composition

/-! ## Counting declarations -/

/-- A label that is asked for is declared once more, and the label it takes the
place of once less. -/
theorem count_le_relabel (kind : MediaKind) (graph : FilterGraph) (current requested : String)
    (label : String) :
    graph.declared.count label + [requested].count label ≤
      (relabel kind (some requested) graph (some current)).1.declared.count label +
        [current].count label := by
  by_cases same : current = requested
  · simp only [relabel, same, if_true, le_refl]
  · cases result : graph.renameOutput? current requested with
    | some graph' =>
        rw [relabel_renamed same result]
        obtain ⟨statements, renamed, rfl⟩ := Option.map_eq_some_iff.mp result
        have exchanged := (FilterGraph.perm_renameLast? renamed).count_eq label
        rw [List.count_cons, List.count_cons] at exchanged
        rw [List.count_singleton, List.count_singleton]
        exact (Nat.le_of_eq exchanged.symm)
    | none =>
        rw [relabel_passed same result, FilterGraph.Wired.declared_extend, List.count_append]
        exact Nat.le_add_right _ _

namespace FilterGraph.Wired

variable {graph : FilterGraph} {n : Nat} {others : List Link}

/-- A wired graph stays wired when a final stream gets a label that it has
already or that is new. -/
theorem relabel_settled {feed : Option Feed} (kind : MediaKind)
    (wired : graph.Wired n (feed.toList.flatMap Feed.links ++ others))
    (within : ∀ given ∈ feed, given.Within n) {requested : Option String}
    (plain : ∀ label ∈ requested, ':' ∉ label.toList)
    (fresh : ∀ label ∈ requested, ∀ given ∈ feed, given.label ≠ label →
      label ∉ graph.declared) :
    ∃ graph', Composition.relabel kind requested graph (feed.map Feed.label) =
        (graph', (feed.map (Feed.named kind requested)).map Feed.label) ∧
      graph'.Wired n
        ((feed.map (Feed.named kind requested)).toList.flatMap Feed.links ++ others) := by
  by_cases settled : ∃ label ∈ requested, ∃ given ∈ feed, given.label = label
  · obtain ⟨label, rfl, given, rfl, rfl⟩ := settled
    cases given with
    | source kind' index => exact absurd (colon_mem_streamLabel kind' index) (plain _ rfl)
    | link label signal =>
        refine ⟨graph, ?_, wired⟩
        simp [Composition.relabel, Feed.named, Feed.label]
  · simp only [not_exists, not_and] at settled
    cases feed with
    | none =>
        refine ⟨graph, ?_, wired⟩
        cases requested <;> rfl
    | some given =>
        obtain ⟨graph', equal, wired', -⟩ := wired.relabel kind within plain
          fun label asked => fresh label asked given rfl (settled label asked given rfl)
        exact ⟨graph', equal, wired'⟩

end FilterGraph.Wired

namespace Composition

section

variable {graph : FilterGraph} {kind : MediaKind} {requested label : Option String}
  (distinct : (relabel kind requested graph label).1.declared.Nodup)

include distinct

/-- If a label is declared once after all, it was not declared before a stream
under another label asked for it. -/
theorem relabel_fresh : ∀ new ∈ requested, ∀ current ∈ label, current ≠ new →
    new ∉ graph.declared := by
  rintro new rfl current rfl other declared
  have counts := count_le_relabel kind graph current new new
  have once := List.nodup_iff_count_le_one.mp distinct new
  have before := List.count_pos_iff.mpr declared
  rw [List.count_singleton_self, List.count_singleton, beq_eq_false_iff_ne.mpr other] at counts
  simp only [Bool.false_eq_true, if_false] at counts
  omega

/-- If a label that was declared twice is declared once after all, it was the
label of the stream, and another one was asked for. -/
theorem relabel_twice (old : String) (twice : 2 ≤ graph.declared.count old) :
    label = some old ∧ ∃ new ∈ requested, new ≠ old := by
  have once := List.nodup_iff_count_le_one.mp distinct old
  cases requested with
  | none =>
      rw [relabel_none] at once
      exact absurd (Nat.le_trans twice once) (by decide)
  | some new =>
      cases label with
      | none => exact absurd (Nat.le_trans twice once) (by decide)
      | some current =>
          have counts := count_le_relabel kind graph current new old
          rw [List.count_singleton, List.count_singleton] at counts
          by_cases same : current = old
          · by_cases asked : new = old
            · simp only [same, asked, beq_self_eq_true, if_true] at counts
              rw [same, asked] at once
              omega
            · simp only [same, beq_self_eq_true, if_true] at counts
              rw [same] at once
              exact ⟨congrArg some same, new, rfl, asked⟩
          · simp only [beq_eq_false_iff_ne.mpr same, Bool.false_eq_true, if_false] at counts
            omega

end

variable {composition : Composition} {parts : RouteParts}

/-! ## Straight streams -/

/-- The video asks for the label of the base audio, which is also the label
that the last audio goes by. -/
def RouteParts.Crosses (composition : Composition) (parts : RouteParts) : Prop :=
  ∃ label ∈ composition.requested .video, parts.video.isSome = true ∧
    ∃ signal signal', parts.baseAudio = some (.link label signal) ∧
      parts.audio = some (.link label signal')

/-- A feed under a label without a colon is a link. -/
theorem exists_link {feed : Option Feed} {label : String} (plain : ':' ∉ label.toList)
    (current : feed.map Feed.label = some label) : ∃ signal, feed = some (.link label signal) := by
  obtain ⟨given, rfl, equal⟩ := Option.map_eq_some_iff.mp current
  cases given with
  | source kind index => exact absurd (equal ▸ colon_mem_streamLabel kind index) plain
  | link name signal =>
      obtain rfl : name = label := equal
      exact ⟨signal, rfl⟩

theorem exists_link_of_mem {feed : Option Feed} {label : String}
    (opened : label ∈ (feed.toList.flatMap Feed.links).map Prod.fst) :
    ∃ signal, feed = some (.link label signal) := by
  obtain ⟨⟨name, signal⟩, carried, rfl⟩ := List.mem_map.mp opened
  obtain ⟨given, present, inside⟩ := List.mem_flatMap.mp carried
  cases given with
  | source kind index => exact absurd inside (by simp [Feed.links])
  | link name' signal' =>
      rw [List.mem_singleton.mp inside]
      exact ⟨signal', Option.mem_toList.mp present⟩

/-- The layers and the mix side by side, with none of the labels that are asked
for. -/
theorem RouteParts.Fit.wiredMix {n : Nat} (fit : parts.Fit n) :
    ((parts.graph.extend parts.layering).extend parts.mixing).Wired n
      (parts.audio.toList.flatMap Feed.links ++ parts.video.toList.flatMap Feed.links) := by
  obtain ⟨-, distinct, apart⟩ := List.nodup_append'.mp fit.distinct
  refine (fit.wiredLayers.perm List.perm_append_comm).extendWith fit.mixed fit.declaresMix
    distinct ?_
  intro name listed declared
  obtain ⟨other, listed', equal⟩ := (fit.declares.append fit.declaresLayers).mem declared
  exact apart (LinkName.text_injective equal ▸ listed') listed

/-- What a route declares for its layers it does not declare for its mix. -/
theorem RouteParts.Fit.notMem_mixing {n : Nat} (fit : parts.Fit n) {label : String}
    (declared : label ∈ (parts.graph.extend parts.layering).declared) :
    label ∉ parts.mixing.flatMap (·.outputs) := by
  have distinct := fit.wiredMix.distinct
  rw [FilterGraph.Wired.declared_extend] at distinct
  exact fun again => (List.nodup_append.mp distinct).2.2 label declared label again rfl

/-- The video asks for a label that is new, unless it has it already or the
streams are crossed. -/
theorem fresh_of_distinct (accepted : composition.check = .ok ()) {n : Nat} (fit : parts.Fit n)
    (distinct : (parts.finish composition).1.declared.Nodup)
    (straight : ¬ parts.Crosses composition) :
    ∀ label ∈ composition.requested .video, ∀ given ∈ parts.video, given.label ≠ label →
      label ∉ (parts.graph.extend parts.layering).declared := by
  intro label asked given seen other declared
  have plain := requested_plain accepted .video label asked
  -- the label is declared twice from now on
  have counts := count_le_relabel .video (parts.graph.extend parts.layering) given.label label label
  rw [List.count_singleton_self, List.count_singleton, beq_eq_false_iff_ne.mpr other] at counts
  simp only [Bool.false_eq_true, if_false] at counts
  have before := List.count_pos_iff.mpr declared
  have named : (relabel .video (composition.requested .video)
      (parts.graph.extend parts.layering) (parts.video.map Feed.label)) =
        relabel .video (some label) (parts.graph.extend parts.layering) (some given.label) := by
    rw [show composition.requested .video = some label from asked,
      show parts.video = some given from seen]
    rfl
  have last : (relabel .audio (composition.requested .audio)
      ((relabel .video (composition.requested .video) (parts.graph.extend parts.layering)
        (parts.video.map Feed.label)).1.extend parts.mixing)
      (parts.audio.map Feed.label)).1.declared.Nodup := distinct
  rw [named] at last
  -- so the audio goes by it, and the mix does not declare it
  obtain ⟨current, -⟩ := relabel_twice last label (by
    rw [FilterGraph.Wired.declared_extend, List.count_append]
    omega)
  obtain ⟨signal', heard⟩ := exists_link plain current
  have opened : label ∈ (parts.audio.toList.flatMap Feed.links).map Prod.fst := by
    simp [heard, Feed.links]
  rcases List.mem_append.mp (fit.mixed.labels.2 label opened) with base | mixing
  · obtain ⟨signal, based⟩ := exists_link_of_mem base
    exact straight ⟨label, asked, by rw [seen]; rfl, signal, signal', based, heard⟩
  · exact fit.notMem_mixing declared mixing

/-- A mix that ends in a link, with this link under another label. -/
theorem renamed_mixing {n : Nat} (fit : parts.Fit n) {old : String} {signal : MediaSignal}
    (heard : parts.audio = some (.link old signal))
    (declared : old ∈ parts.mixing.flatMap (·.outputs)) (new : String) :
    FilterGraph.renameLast? old new parts.mixing =
        some (parts.mixing.map (Statement.relabelled (renamed old new))) ∧
      Flow n (parts.baseAudio.toList.flatMap Feed.links)
        (parts.mixing.map (Statement.relabelled (renamed old new))) [(new, signal)] := by
  have distinct := (List.nodup_append'.mp fit.distinct).2.1
  have opened : old ∈ (parts.audio.toList.flatMap Feed.links ++
      parts.video.toList.flatMap Feed.links).map Prod.fst := by
    simp [heard, Feed.links]
  have unused : old ∉ parts.mixing.flatMap (·.inputs) := by
    intro consumed
    refine (fit.wiredMix.mem_links_iff.mp opened).2 ?_
    exact List.mem_flatMap.mpr (List.mem_flatMap.mp consumed |>.imp fun statement member =>
      ⟨List.mem_append_right _ member.1, member.2⟩)
  refine ⟨FilterGraph.renameLast?_eq declared (fit.declaresMix.nodup distinct) unused, ?_⟩
  have streams : ∀ kind index,
      renamed old new (streamLabel kind index) = streamLabel kind index := fun kind index =>
    renamed_of_ne fun equal =>
      fit.declaresMix.colon_notMem old declared (equal ▸ colon_mem_streamLabel kind index)
  -- the base audio goes by another label, since the layers leave it open
  have kept : relabelLinks (renamed old new) (parts.baseAudio.toList.flatMap Feed.links) =
      parts.baseAudio.toList.flatMap Feed.links := by
    refine relabelLinks_of_notMem fun base => ?_
    refine fit.notMem_mixing (fit.wiredLayers.mem_links_iff.mp ?_).1 declared
    rw [List.map_append]
    exact List.mem_append_right _ base
  have flow := fit.mixed.relabelled streams
  rw [kept, heard] at flow
  simpa [Feed.links, relabelLinks] using flow

/-- A graph to which the mix is added ends wired when the audio has got its
label, if each label is declared once then. -/
theorem relabel_mixed (accepted : composition.check = .ok ()) {n : Nat} (fit : parts.Fit n)
    {graph : FilterGraph} {others : List Link}
    (wired : graph.Wired n (others ++ parts.baseAudio.toList.flatMap Feed.links))
    (distinct : (relabel .audio (composition.requested .audio) (graph.extend parts.mixing)
      (parts.audio.map Feed.label)).1.declared.Nodup) :
    ∃ graph', relabel .audio (composition.requested .audio) (graph.extend parts.mixing)
        (parts.audio.map Feed.label) =
          (graph', (composition.asked .audio parts.audio).map Feed.label) ∧
      graph'.Wired n
        ((composition.asked .audio parts.audio).toList.flatMap Feed.links ++ others) := by
  have based := wired.perm List.perm_append_comm
  by_cases apart : ∃ label ∈ graph.declared, label ∈ parts.mixing.flatMap (·.outputs)
  · -- the mix declares a label of the graph, and gives it up when the audio is renamed
    obtain ⟨old, before, again⟩ := apart
    obtain ⟨current, new, sought, other⟩ := relabel_twice distinct old (by
      rw [FilterGraph.Wired.declared_extend, List.count_append]
      have first := List.count_pos_iff.mpr before
      have second := List.count_pos_iff.mpr again
      omega)
    obtain ⟨signal, heard⟩ := exists_link (fit.declaresMix.colon_notMem old again) current
    obtain ⟨result, flow⟩ := renamed_mixing fit heard again new
    have named : composition.asked .audio parts.audio = some (.link new signal) := by
      unfold asked
      rw [heard, show composition.requested .audio = some new from sought]
      rfl
    have equal : relabel .audio (composition.requested .audio) (graph.extend parts.mixing)
        (parts.audio.map Feed.label) =
          (graph.extend (parts.mixing.map (Statement.relabelled (renamed old new))),
            some new) := by
      rw [show composition.requested .audio = some new from sought, current]
      exact relabel_last (Ne.symm other)
        (FilterGraph.renameLast?_append_right result graph.statements)
    rw [equal, FilterGraph.Wired.declared_extend] at distinct
    obtain ⟨-, own, fresh⟩ := List.nodup_append.mp distinct
    have plain : ∀ label ∈ (parts.mixing.map
        (Statement.relabelled (renamed old new))).flatMap (·.outputs), ':' ∉ label.toList := by
      intro label member
      rw [outputs_relabelled] at member
      obtain ⟨original, inside, rfl⟩ := List.mem_map.mp member
      unfold renamed
      split
      · exact requested_plain accepted .audio new sought
      · exact fit.declaresMix.colon_notMem original inside
    rw [equal, named]
    exact ⟨_, rfl, based.extend flow own plain
      fun label member present => fresh label present label member rfl⟩
  · simp only [not_exists, not_and] at apart
    have own := fit.declaresMix.nodup (List.nodup_append'.mp fit.distinct).2.1
    have mixed := based.extend fit.mixed own fit.declaresMix.colon_notMem
      fun label member old => apart label old member
    exact mixed.relabel_settled .audio (fun feed member => (fit.audioFits feed member).within)
      (requested_plain accepted .audio) fun label asked given heard other =>
        relabel_fresh distinct label asked given.label
          (by rw [show parts.audio = some given from heard]; rfl) other

/-- If a route's last graph declares each label once, it ends in a wired graph,
unless its streams are crossed. -/
theorem endsIn_of_distinct (accepted : composition.check = .ok ())
    (fit : parts.Fit composition.inputs.length)
    (distinct : (parts.finish composition).1.declared.Nodup)
    (straight : ¬ parts.Crosses composition) :
    composition.EndsIn (parts.finish composition) parts.video parts.audio := by
  obtain ⟨graph₁, equal₁, wired₁⟩ := fit.wiredLayers.relabel_settled .video
    (fun feed member => (fit.videoFits feed member).within) (requested_plain accepted .video)
    (fresh_of_distinct accepted fit distinct straight)
  have last : (relabel .audio (composition.requested .audio) (graph₁.extend parts.mixing)
      (parts.audio.map Feed.label)).1.declared.Nodup := by
    rw [show graph₁ = _ from (congrArg Prod.fst equal₁).symm]
    exact distinct
  obtain ⟨graph₂, equal₂, wired₂⟩ := relabel_mixed accepted fit wired₁ last
  have result : parts.finish composition =
      (graph₂, streamsOf (composition.asked .video parts.video)
        (composition.asked .audio parts.audio)) := by
    unfold RouteParts.finish finished
    rw [show composition.output.videoLabel = composition.requested .video from rfl,
      show composition.output.audioLabel = composition.requested .audio from rfl, equal₁]
    simp only [equal₂]
    rfl
  rw [result]
  exact ⟨rfl, wired₂.perm List.perm_append_comm, fit.videoFits, fit.audioFits⟩

end Composition

end Montage
