import Montage.Program.Basic
import Montage.Proofs.Graph.Wiring
import Montage.Proofs.Outcome

/-!
# Assembling programs

The last step of both routes accounts for all labels. `assemble_ok_iff` says
what it accepts and what it makes of it; a wired graph whose open links are the
final streams is always accepted (`accounted_wired`).
-/

namespace Montage

variable {graph : FilterGraph} {streams : Streams}

/-- A final stream that can be mapped to the output: a stream of an input, or a
link that nothing consumes. -/
def FilterGraph.IsMapped (graph : FilterGraph) (label : String) : Prop :=
  isInputStream label = true ∨ (label ∈ graph.declared ∧ label ∉ graph.consumed)

namespace Composition

/-- The mapping of a final stream to the output. -/
def mappingArgs (kind : MediaKind) (label : String) : List String :=
  if isInputStream label then
    ["-map", mapTarget label ++ match kind with
      | .video => ""
      | .audio => "?"]
  else ["-map", mapTarget label]

/-- The mappings of the final streams to the output. -/
def mapArgs (streams : Streams) : List String :=
  (streams.video.map (mappingArgs .video)).getD [] ++
    (streams.audio.map (mappingArgs .audio)).getD []

theorem mappingOf_ok_iff {kind : MediaKind} {label : String} {args : List String} :
    mappingOf graph kind label = .ok args ↔
      graph.IsMapped label ∧ args = mappingArgs kind label := by
  unfold mappingOf FilterGraph.IsMapped mappingArgs FilterGraph.declares FilterGraph.consumes
  cases isInputStream label with
  | true => cases kind <;> simp [eq_comm]
  | false =>
      by_cases declared : label ∈ graph.declared <;> by_cases consumed : label ∈ graph.consumed <;>
        simp [declared, consumed, eq_comm]

theorem mapping_ok_iff {kind : MediaKind} {stream : Option String} {args : List String} :
    (stream.map (mappingOf graph kind)).getD (.ok []) = .ok args ↔
      (∀ label ∈ stream, graph.IsMapped label) ∧
        args = (stream.map (mappingArgs kind)).getD [] := by
  cases stream with
  | none => simp [eq_comm]
  | some label => simp [mappingOf_ok_iff]

theorem mappings_ok_iff {args : List String} :
    mappings graph streams = .ok args ↔
      (∀ label ∈ streams.labels, graph.IsMapped label) ∧ args = mapArgs streams := by
  unfold mappings Streams.labels mapArgs
  simp only [bind_ok_iff, mapping_ok_iff, List.forall_mem_append, Option.mem_toList]
  constructor
  · rintro ⟨_, ⟨video, rfl⟩, _, ⟨audio, rfl⟩, last⟩
    cases last
    exact ⟨⟨video, audio⟩, rfl⟩
  · rintro ⟨⟨video, audio⟩, rfl⟩
    exact ⟨_, ⟨video, rfl⟩, _, ⟨audio, rfl⟩, rfl⟩

variable (composition : Composition)

/-- The program around a graph with its final streams. -/
def assembled (graph : FilterGraph) (streams : Streams) (baseResolution : Option Resolution)
    (singlePass : Bool) : Program where
  graph := graph
  final := streams
  args := mapArgs streams ++
    composition.output.encoderArgs streams.video.isSome streams.audio.isSome
  inputs := composition.inputs
  format := composition.output.format
  baseResolution := baseResolution
  singlePass := singlePass

/-- All labels are accounted for: the graph is valid, there is a final stream,
each final stream can be mapped, and each link is consumed or final. -/
structure Accounted (graph : FilterGraph) (streams : Streams) (n : Nat) : Prop where
  valid : graph.Valid n
  some : streams.labels ≠ []
  mapped : ∀ label ∈ streams.labels, graph.IsMapped label
  used : ∀ label ∈ graph.declared, label ∈ graph.consumed ∨ label ∈ streams.labels

theorem find?_dangling_eq_none :
    (graph.dangling.find? fun label => !streams.labels.contains label) = none ↔
      ∀ label ∈ graph.declared, label ∈ graph.consumed ∨ label ∈ streams.labels := by
  have unused : ∀ label, (!graph.consumes label) = true ↔ label ∉ graph.consumed := by
    simp [FilterGraph.consumes]
  simp only [FilterGraph.dangling, List.find?_eq_none, List.mem_filter, unused, and_imp]
  refine forall₂_congr fun label _ => ?_
  by_cases consumed : label ∈ graph.consumed <;> simp [consumed]

/-- A program is assembled just when all labels are accounted for. -/
theorem assemble_ok_iff {size : Option Resolution} {singlePass : Bool} {program : Program} :
    composition.assemble graph streams size singlePass = .ok program ↔
      Accounted graph streams composition.inputs.length ∧
        program = composition.assembled graph streams size singlePass := by
  unfold assemble
  rw [bind_ok_iff]
  constructor
  · rintro ⟨⟨⟩, validated, rest⟩
    rw [mapError_ok_iff, FilterGraph.validate_ok_iff] at validated
    cases empty : streams.labels.isEmpty with
    | true =>
        simp only [empty, if_true] at rest
        cases rest
    | false =>
        simp only [empty, Bool.false_eq_true, if_false] at rest
        obtain ⟨_, mapping, last⟩ := bind_ok_iff.mp rest
        obtain ⟨mapped, rfl⟩ := mappings_ok_iff.mp mapping
        split at last
        · cases last
        · rename_i used
          cases last
          have some := List.isEmpty_eq_false_iff.mp empty
          exact ⟨⟨validated, some, mapped, find?_dangling_eq_none.mp used⟩, rfl⟩
  · rintro ⟨accounted, rfl⟩
    have some : streams.labels.isEmpty = false := List.isEmpty_eq_false_iff.mpr accounted.some
    have mapping := mappings_ok_iff.mpr ⟨accounted.mapped, rfl⟩
    have used := find?_dangling_eq_none.mpr accounted.used
    refine ⟨(), mapError_ok_iff.mpr (FilterGraph.validate_ok_iff.mpr accounted.valid), ?_⟩
    simp only [some, mapping, used]
    rfl

/-! ## Assembling wired graphs -/

/-- Two feeds as final streams. -/
def streamsOf (video audio : Option Feed) : Streams :=
  ⟨video.map Feed.label, audio.map Feed.label⟩

theorem labels_streamsOf (video audio : Option Feed) :
    (streamsOf video audio).labels = (video.toList ++ audio.toList).map Feed.label := by
  cases video <;> cases audio <;> rfl

/-- A wired graph whose open links are those of its final streams leaves no
label unaccounted for. -/
theorem accounted_wired {n : Nat} {video audio : Option Feed} (bound : n ≤ UInt64.size)
    (wired : graph.Wired n (video.toList.flatMap Feed.links ++ audio.toList.flatMap Feed.links))
    (within : ∀ feed ∈ video.toList ++ audio.toList, feed.Within n)
    (some : video.toList ++ audio.toList ≠ []) :
    Accounted graph (streamsOf video audio) n := by
  rw [← List.flatMap_append] at wired
  have held : ∀ label, label ∈ ((video.toList ++ audio.toList).flatMap Feed.links).map Prod.fst →
      label ∈ (streamsOf video audio).labels := by
    intro label member
    rw [labels_streamsOf]
    obtain ⟨link, carried, rfl⟩ := List.mem_map.mp member
    obtain ⟨feed, final, inside⟩ := List.mem_flatMap.mp carried
    refine List.mem_map.mpr ⟨feed, final, ?_⟩
    cases feed with
    | source kind index => exact absurd inside (by simp [Feed.links])
    | link label signal => rw [List.mem_singleton.mp inside]; rfl
  refine ⟨wired.valid bound, ?_, ?_, ?_⟩
  · rw [labels_streamsOf]
    simpa using some
  · intro label member
    rw [labels_streamsOf] at member
    obtain ⟨feed, final, rfl⟩ := List.mem_map.mp member
    cases feed with
    | source kind index =>
        exact .inl (Flow.isInputStream_streamLabel bound (within _ final) kind)
    | link label signal =>
        exact .inr ((wired.mem_links_iff).mp (List.mem_map_of_mem (Feed.mem_links_of_mem final)))
  · intro label declared
    by_cases consumed : label ∈ graph.consumed
    · exact .inl consumed
    · exact .inr (held label ((wired.mem_links_iff).mpr ⟨declared, consumed⟩))

end Composition

end Montage
