import Montage.Proofs.Graph.Relabelling
import Montage.Proofs.Program.Agreement
import Montage.Proofs.Program.Naming

/-!
# What a label changes

A label that is asked for changes one place of a graph: the output that
declares the final stream is renamed, or a stream of an input is passed through
to the label (`TakesLabel`). More statements may follow, as the mix follows the
layers (`TakesLabel.extend`). Both routes therefore build the same program with
labels and without them, but for these places (`labels_only_rename`).
-/

namespace Montage

open Montage.Composition

/-! ## One label -/

/-- A final stream takes the label that is asked for, from one graph to
another. If no label is asked for, or if there is no stream, nothing changes. -/
inductive TakesLabel (kind : MediaKind) (graph : FilterGraph) :
    Option String → Option String → FilterGraph → Option String → Prop where
  | unasked (current : Option String) : TakesLabel kind graph none current graph current
  | absent (requested : String) : TakesLabel kind graph (some requested) none graph none
  /-- the one output that declares the stream is renamed -/
  | renamed {requested current : String} {graph' : FilterGraph}
      (place : graph.Renames current requested graph') :
      TakesLabel kind graph (some requested) (some current) graph' (some requested)
  /-- one statement passes a stream of an input through -/
  | passed {requested current : String} {earlier later : List Statement}
      (whole : graph.statements = earlier ++ later) (stream : isInputStream current = true) :
      TakesLabel kind graph (some requested) (some current)
        ⟨earlier ++ .chain .passthrough current (passingOn kind) requested :: later⟩
        (some requested)

namespace TakesLabel

variable {kind : MediaKind} {graph graph' : FilterGraph} {requested current named : Option String}

/-- There is a stream after all just if there was one before. -/
theorem isSome_eq (takes : TakesLabel kind graph requested current graph' named) :
    named.isSome = current.isSome := by
  cases takes <;> rfl

/-- Statements that follow leave the place alone, unless they declare the
stream once more. -/
theorem extend (takes : TakesLabel kind graph requested current graph' named)
    {more : List Statement} (apart : ∀ label ∈ current, label ∉ more.flatMap (·.outputs)) :
    TakesLabel kind (graph.extend more) requested current (graph'.extend more) named := by
  cases takes with
  | unasked => exact .unasked current
  | absent label => exact .absent label
  | renamed place =>
      obtain ⟨earlier, statement, later, before, after, whole, outputs, result, gone⟩ := place
      refine .renamed ⟨earlier, statement, later ++ more, before, after, ?_, outputs, ?_, ?_⟩
      · simp only [FilterGraph.extend, whole, List.append_assoc, List.cons_append]
      · simp only [FilterGraph.extend, result, List.append_assoc, List.cons_append]
      · rw [FilterGraph.Wired.declared_extend, List.mem_append, not_or]
        exact ⟨gone, apart _ rfl⟩
  | @passed label old earlier later whole stream =>
      have longer : (graph.extend more).statements = earlier ++ (later ++ more) := by
        simp only [FilterGraph.extend, whole, List.append_assoc]
      have takes : TakesLabel kind (graph.extend more) (some label) (some old)
          ⟨earlier ++ .chain .passthrough old (passingOn kind) label :: (later ++ more)⟩
          (some label) := .passed longer stream
      simpa only [FilterGraph.extend, List.append_assoc, List.cons_append] using takes

end TakesLabel

/-- In a wired graph a feed takes a new label. -/
theorem FilterGraph.Wired.takesLabel {graph graph' : FilterGraph} {n : Nat} {others : List Link}
    {feed : Option Feed} {kind : MediaKind} {requested named : Option String}
    (wired : graph.Wired n (feed.toList.flatMap Feed.links ++ others)) (bound : n ≤ UInt64.size)
    (within : ∀ given ∈ feed, given.Within n) (plain : ∀ label ∈ requested, ':' ∉ label.toList)
    (fresh : ∀ label ∈ requested, label ∉ graph.declared)
    (result : Composition.relabel kind requested graph (feed.map Feed.label) = (graph', named)) :
    TakesLabel kind graph requested (feed.map Feed.label) graph' named := by
  cases requested with
  | none =>
      rw [relabel_none] at result
      obtain ⟨rfl, rfl⟩ := Prod.mk.inj result
      exact .unasked _
  | some label =>
      cases feed with
      | none =>
          obtain ⟨rfl, rfl⟩ := Prod.mk.inj result
          exact .absent label
      | some given =>
          cases given with
          | source kind' index =>
              -- streams of inputs have a colon, and no statement declares them
              have colon := colon_mem_streamLabel kind' index
              have other : streamLabel kind' index ≠ label := fun equal =>
                plain label rfl (equal ▸ colon)
              have undeclared : streamLabel kind' index ∉ graph.declared := fun declared =>
                wired.plain _ declared colon
              have passed : Composition.relabel kind (some label) graph
                  (some (streamLabel kind' index)) = _ :=
                relabel_passed other (renameOutput?_eq_none_iff.mpr undeclared)
              obtain ⟨rfl, rfl⟩ := Prod.mk.inj (passed.symm.trans result)
              exact .passed (List.append_nil _).symm
                (Flow.isInputStream_streamLabel bound (within _ rfl) kind')
          | link old signal =>
              have opened : old ∈ ((Option.some (Feed.link old signal)).toList.flatMap Feed.links ++
                  others).map Prod.fst := by
                simp [Feed.links]
              obtain ⟨declared, unused⟩ := wired.mem_links_iff.mp opened
              have other : old ≠ label := fun equal => fresh label rfl (equal ▸ declared)
              have renamed : Composition.relabel kind (some label) graph (some old) = _ :=
                relabel_renamed other (renameOutput?_eq declared wired.distinct unused)
              obtain ⟨rfl, rfl⟩ := Prod.mk.inj (renamed.symm.trans result)
              exact .renamed (renames_relabelled declared wired.distinct unused (fresh label rfl))

/-! ## Both labels -/

/-- Both final streams take the labels that are asked for, first the video and
then the audio. -/
def TakesLabels (video audio : Option String) (route route' : FilterGraph × Streams) : Prop :=
  ∃ graph, TakesLabel .video route.1 video route.2.video graph route'.2.video ∧
    TakesLabel .audio graph audio route.2.audio route'.1 route'.2.audio

/-- A program that is another one with labels for its final streams. The same
arguments follow the mappings of these streams. -/
structure Program.Labels (program plain : Program) (video audio : Option String) : Prop where
  inputs : program.inputs = plain.inputs
  baseResolution : program.baseResolution = plain.baseResolution
  format : program.format = plain.format
  singlePass : program.singlePass = plain.singlePass
  outputKind : program.outputKind = plain.outputKind
  encoding : ∃ flags, program.args = mapArgs program.final ++ flags ∧
    plain.args = mapArgs plain.final ++ flags
  streams : TakesLabels video audio (plain.graph, plain.final) (program.graph, program.final)

namespace Composition

variable {composition : Composition}

/-- The composition with no label asked for. -/
def withoutLabels (composition : Composition) : Composition := composition.asking none none

theorem unlabelled_withoutLabels : composition.withoutLabels.Unlabelled := by
  intro kind
  cases kind <;> rfl

/-- Labels have no part in what else is checked. -/
theorem check_withoutLabels (accepted : composition.check = .ok ()) :
    composition.withoutLabels.check = .ok () := by
  rw [check_ok_iff] at accepted ⊢
  unfold violations outputViolations at accepted ⊢
  simp only [List.append_eq_nil_iff] at accepted ⊢
  obtain ⟨rest, ⟨⟨-, format⟩, size⟩, fps⟩ := accepted
  exact ⟨rest, ⟨⟨⟨⟨rfl, rfl⟩, rfl⟩, format⟩, size⟩, fps⟩

/-- From parts that go together a route takes the labels that are asked for. -/
theorem takesLabels_of_fit {parts : RouteParts} (accepted : composition.check = .ok ())
    (addressable : composition.Addressable) (own : composition.AsksNewLabels)
    (fit : parts.Fit composition.inputs.length) :
    TakesLabels (composition.requested .video) (composition.requested .audio)
      (parts.finish composition.withoutLabels) (parts.finish composition) := by
  obtain ⟨layered, last, stages⟩ := stages_of_fit accepted own fit
  rw [stages.finish, RouteParts.finish, finished_of_unlabelled unlabelled_withoutLabels]
  have layers := fit.wiredLayers.takesLabel addressable
    (fun feed member => (fit.videoFits feed member).within) (requested_plain accepted .video)
    stages.newVideo stages.video
  refine ⟨layered.extend parts.mixing, layers.extend ?_, ?_⟩
  · -- the mix does not declare the video, a link of the layers or a stream of an input
    intro label current
    obtain ⟨given, seen, rfl⟩ := Option.map_eq_some_iff.mp current
    cases given with
    | source kind index =>
        exact fun declared =>
          fit.declaresMix.colon_notMem _ declared (colon_mem_streamLabel kind index)
    | link name signal =>
        refine fit.notMem_mixing (fit.wiredLayers.mem_links_iff.mp ?_).1
        rw [seen]
        simp [Feed.links, Feed.label]
  · exact stages.mixed.takesLabel addressable
      (fun feed member => (fit.audioFits feed member).within) (requested_plain accepted .audio)
      stages.newAudio stages.audio

theorem takesLabels_fullRoute (accepted : composition.check = .ok ())
    (addressable : composition.Addressable) (own : composition.AsksNewLabels) :
    TakesLabels (composition.requested .video) (composition.requested .audio)
      composition.withoutLabels.fullRoute composition.fullRoute := by
  obtain ⟨parts, fit, finish, -⟩ := fullRoute_asking_parts accepted
  have bare : composition.withoutLabels.fullRoute = parts.finish composition.withoutLabels :=
    finish none none
  have labelled : composition.fullRoute = parts.finish composition :=
    finish composition.output.videoLabel composition.output.audioLabel
  rw [bare, labelled]
  exact takesLabels_of_fit accepted addressable own fit

theorem takesLabels_plainRoute (accepted : composition.check = .ok ())
    (addressable : composition.Addressable) (own : composition.AsksNewLabels)
    (simple : composition.isSimple = true) :
    TakesLabels (composition.requested .video) (composition.requested .audio)
      composition.withoutLabels.plainRoute composition.plainRoute := by
  obtain ⟨parts, fit, finish, -⟩ := plainRoute_asking_parts simple
  have bare : composition.withoutLabels.plainRoute = parts.finish composition.withoutLabels :=
    finish none none
  have labelled : composition.plainRoute = parts.finish composition :=
    finish composition.output.videoLabel composition.output.audioLabel
  rw [bare, labelled]
  exact takesLabels_of_fit accepted addressable own fit

/-- The programs that are assembled from a route and from the route with its
labels. -/
theorem labels_assembled {route route' : FilterGraph × Streams} {video audio : Option String}
    (takes : TakesLabels video audio route route') (size : Option Resolution) (single : Bool) :
    (composition.assembled route'.1 route'.2 size single).Labels
      (composition.withoutLabels.assembled route.1 route.2 size single) video audio := by
  obtain ⟨graph, seen, heard⟩ := takes
  refine ⟨rfl, rfl, rfl, rfl, ?_, ⟨_, rfl, ?_⟩, graph, seen, heard⟩
  · show (if route'.2.video.isSome then MediaKind.video else .audio) =
      if route.2.video.isSome then MediaKind.video else .audio
    rw [seen.isSome_eq]
  · rw [seen.isSome_eq, heard.isSome_eq]
    rfl

/-- A route builds a program with the labels that are asked for just if it builds
one without them, and the labels are all that is different then. -/
def OnlyLabels (composition : Composition) (build : Composition → Except BuildFault Program) :
    Prop :=
  ((∃ program, build composition = .ok program) ↔
    ∃ plain, build composition.withoutLabels = .ok plain) ∧
  ∀ program plain, build composition = .ok program → build composition.withoutLabels = .ok plain →
    program.Labels plain (composition.requested .video) (composition.requested .audio)

/-- Labels that are none of the routes' own only rename: either route builds a
program with them just if it does without them. Its inputs, its flags and its
statements are then the same, but for the output that declares a final stream,
which is renamed, or a stream of an input, which is passed through to its label. -/
theorem labels_only_rename (accepted : composition.check = .ok ())
    (addressable : composition.Addressable) (own : composition.AsksNewLabels)
    (unfiltered : composition.fragments = []) :
    composition.OnlyLabels compile ∧ composition.OnlyLabels singlePass := by
  have bare : composition.withoutLabels.check = .ok () := check_withoutLabels accepted
  have free : composition.withoutLabels.AsksNewLabels :=
    asksNewLabels_of_unlabelled unlabelled_withoutLabels
  have unfiltered' : composition.withoutLabels.fragments = [] := unfiltered
  constructor
  · -- the full route needs no more than clips that can be joined
    refine ⟨⟨?_, ?_⟩, ?_⟩
    · rintro ⟨program, built⟩
      obtain ⟨-, sounds, -⟩ := (compile_plain_iff unfiltered).mp built
      exact ⟨_, compile_eq bare addressable free unfiltered sounds⟩
    · rintro ⟨plain, built⟩
      obtain ⟨-, sounds, -⟩ := (compile_plain_iff unfiltered').mp built
      exact ⟨_, compile_eq accepted addressable own unfiltered sounds⟩
    · intro program plain built built'
      obtain ⟨-, -, -, rfl⟩ := (compile_plain_iff unfiltered).mp built
      obtain ⟨-, -, -, rfl⟩ := (compile_plain_iff unfiltered').mp built'
      exact labels_assembled (takesLabels_fullRoute accepted addressable own) _ _
  · -- the single-pass route needs to be open, which no label changes
    refine ⟨⟨?_, ?_⟩, ?_⟩
    · rintro ⟨program, built⟩
      obtain ⟨-, simple, -⟩ := singlePass_plain_iff.mp built
      exact ⟨_, singlePass_eq bare addressable free simple⟩
    · rintro ⟨plain, built⟩
      obtain ⟨-, simple, -⟩ := singlePass_plain_iff.mp built
      exact ⟨_, singlePass_eq accepted addressable own simple⟩
    · intro program plain built built'
      obtain ⟨-, simple, -, rfl⟩ := singlePass_plain_iff.mp built
      obtain ⟨-, -, -, rfl⟩ := singlePass_plain_iff.mp built'
      exact labels_assembled (takesLabels_plainRoute accepted addressable own simple) _ _

/-- A clip with a layer over it, whose video is a link and whose audio is the
clip's own. -/
def stamped : Composition where
  main := ⟨[1], .video, {}⟩
  overlays := [⟨⟨[2], .video, {}⟩, {}⟩]
  output := { videoLabel := some "picture", audioLabel := some "sound" }

theorem labels_stamped : ∃ full full' single single',
    stamped.compile = .ok full ∧ stamped.withoutLabels.compile = .ok full' ∧
      stamped.singlePass = .ok single ∧ stamped.withoutLabels.singlePass = .ok single' ∧
        full.Labels full' (some "picture") (some "sound") ∧
          single.Labels single' (some "picture") (some "sound") := by
  have addressable : stamped.Addressable := by
    show stamped.inputs.length ≤ UInt64.size
    decide
  have own : stamped.AsksNewLabels := by
    intro kind label member
    cases kind <;> cases member <;> exact LinkName.text_ne (by decide) (by decide)
  have accepted : stamped.check = .ok () := by decide +kernel
  obtain ⟨full, built⟩ : ∃ program, stamped.compile = .ok program :=
    exists_ok_of_isOk (by decide +kernel)
  obtain ⟨single, passed⟩ : ∃ program, stamped.singlePass = .ok program :=
    exists_ok_of_isOk (by decide +kernel)
  obtain ⟨⟨agree, labels⟩, agree', labels'⟩ := labels_only_rename accepted addressable own rfl
  obtain ⟨full', built'⟩ := agree.mp ⟨full, built⟩
  obtain ⟨single', passed'⟩ := agree'.mp ⟨single, passed⟩
  exact ⟨full, full', single, single', built, built', passed, passed',
    labels full full' built built', labels' single single' passed passed'⟩

end Composition

end Montage
