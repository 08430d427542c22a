import Montage.Proofs.Program.Anchoring
import Montage.Proofs.Program.Rendering
import Montage.Proofs.Program.Usage

/-!
# Programs with and without fragments

The fragments of a composition only add to its program. What is valid at the end
is valid up to any statement, and the full route consumes or leaves all that it
declares (`fullRoute_conserves`), so it needs no fragment to use up its labels:
if a composition compiles, it also does without its fragments, to a program of
which this one is an extension (`extends_of_compile`). A raw chain may hand a
final stream over, but it neither takes one away nor adds one.
-/

namespace Montage

open Montage.Composition

/-! ## Graphs without their last statements -/

/-- A valid graph is valid up to any statement. -/
theorem FilterGraph.Valid.of_extend {graph : FilterGraph} {more : List Statement} {n : Nat}
    (valid : (graph.extend more).Valid n) : graph.Valid n := by
  have declared : (graph.extend more).declared = graph.declared ++ more.flatMap (·.outputs) :=
    List.flatMap_append
  have consumed : (graph.extend more).consumed = graph.consumed ++ more.flatMap (·.inputs) :=
    List.flatMap_append
  refine ⟨fun earlier statement later split => ?_, ?_, fun label member => ?_, ?_⟩
  · refine valid.supplied earlier statement (later ++ more) ?_
    rw [FilterGraph.extend, split, List.append_assoc, List.cons_append]
  · exact (List.nodup_append.mp (declared ▸ valid.declaredOnce)).1
  · exact valid.declaredPlain label (declared ▸ List.mem_append_left _ member)
  · have once := valid.consumedOnce
    rw [consumed, linksOf_append] at once
    exact (List.nodup_append.mp once).1

/-- A valid graph that is given streams of inputs only and leaves its final
streams accounts for all labels. -/
theorem accounted_of_conserves {graph : FilterGraph} {streams : Streams} {n : Nat}
    {given : List String} (valid : graph.Valid n) (some : streams.labels ≠ [])
    (conserves : Conserves given graph.statements streams.labels)
    (stream : ∀ label ∈ given, isInputStream label = true) : Accounted graph streams n := by
  have new : ∀ label ∈ graph.declared, label ∉ given := fun label declared member => by
    have plain := valid.declaredPlain label declared
    rw [stream label member] at plain
    cases plain
  refine ⟨valid, some, fun label final => ?_, fun label declared => ?_⟩
  · rcases conserves.mem_of_used (List.mem_append_right _ final) with member | declared
    · exact .inl (stream label member)
    · refine .inr ⟨declared, fun consumed => ?_⟩
      rcases conserves.consumed_or_left valid.declaredOnce declared (new label declared) with
        ⟨-, notLeft⟩ | ⟨unused, -⟩
      · exact notLeft final
      · exact unused consumed
  · exact (conserves.consumed_or_left valid.declaredOnce declared (new label declared)).imp
      And.left And.right

/-! ## Handing final streams over -/

namespace Composition

/-- A stream that is handed over is still there. -/
theorem isSome_handOver {statement : Statement} {kind : MediaKind} {free rest : List String}
    {label next : Option String} (result : handOver statement kind free label = .ok (rest, next)) :
    next.isSome = label.isSome := by
  unfold handOver at result
  cases label with
  | none =>
      cases result
      rfl
  | some current =>
      dsimp only at result
      split at result
      · split at result
        · cases result
          rfl
        · cases result
      · cases result
        rfl

theorem isSome_afterChain {streams next : Streams} {statement : Statement}
    (result : afterChain streams statement = .ok next) (kind : MediaKind) :
    (next.get kind).isSome = (streams.get kind).isSome := by
  unfold afterChain at result
  obtain ⟨⟨free, video⟩, first, others⟩ := bind_ok_iff.mp result
  obtain ⟨⟨rest, audio⟩, second, last⟩ := bind_ok_iff.mp others
  cases last
  cases kind with
  | video => exact isSome_handOver first
  | audio => exact isSome_handOver second

/-- Raw chains neither take a final stream away nor add one. -/
theorem isSome_afterChains {streams next : Streams} {statements : List Statement}
    (result : statements.foldlM afterChain streams = .ok next) (kind : MediaKind) :
    (next.get kind).isSome = (streams.get kind).isSome := by
  induction statements generalizing streams with
  | nil =>
      cases result
      rfl
  | cons statement rest ih =>
      rw [List.foldlM_cons] at result
      obtain ⟨middle, first, others⟩ := bind_ok_iff.mp result
      exact (ih others).trans (isSome_afterChain first kind)

end Composition

theorem Streams.labels_eq_nil {streams : Streams} :
    streams.labels = [] ↔ ∀ kind, (streams.get kind).isSome = false := by
  rw [List.eq_nil_iff_forall_not_mem]
  constructor
  · intro none kind
    refine Bool.eq_false_iff.mpr fun present => ?_
    obtain ⟨label, current⟩ := Option.isSome_iff_exists.mp present
    exact none label (Streams.mem_labels.mpr ⟨kind, current⟩)
  · intro none label member
    obtain ⟨kind, current⟩ := Streams.mem_labels.mp member
    have present := none kind
    rw [Option.mem_def.mp current] at present
    cases present

/-! ## Extensions -/

/-- A program that adds statements to another one. It may map other labels to
the output, but all else is as it is there. -/
structure Program.Extends (program base : Program) (more : List Statement) : Prop where
  statements : program.graph.statements = base.graph.statements ++ more
  inputs : program.inputs = base.inputs
  baseResolution : program.baseResolution = base.baseResolution
  format : program.format = base.format
  outputKind : program.outputKind = base.outputKind
  /-- the same arguments follow the mappings -/
  encoding : ∃ flags, program.args = mapArgs program.final ++ flags ∧
    base.args = mapArgs base.final ++ flags
  present : ∀ kind, (program.final.get kind).isSome = (base.final.get kind).isSome

namespace Composition

variable {composition : Composition} {program : Program}

/-- The composition without its fragments. -/
def withoutFragments (composition : Composition) : Composition :=
  { composition with fragments := [] }

/-- Fragments have no part in what else is checked. -/
theorem check_withoutFragments (accepted : composition.check = .ok ()) :
    composition.withoutFragments.check = .ok () := by
  rw [check_ok_iff] at accepted ⊢
  unfold violations at accepted ⊢
  simp only [List.append_eq_nil_iff] at accepted ⊢
  exact ⟨⟨accepted.1.1, rfl⟩, accepted.2⟩

/-- If the graph of the full route can be extended to a valid one, the route
itself already accounts for all its labels. -/
theorem fullRoute_accounted_of_extend (addressable : composition.Addressable)
    (accepted : composition.check = .ok ()) {more : List Statement}
    (valid : (composition.fullRoute.1.extend more).Valid composition.inputs.length)
    (some : composition.fullRoute.2.labels ≠ []) :
    Accounted composition.fullRoute.1 composition.fullRoute.2 composition.inputs.length := by
  refine accounted_of_conserves valid.of_extend some (fullRoute_conserves accepted) ?_
  intro label member
  obtain ⟨⟨kind, index⟩, given, rfl⟩ := List.mem_map.mp member
  have inRange := ((mem_inputStreams accepted).mp given).lt
  exact Flow.isInputStream_streamLabel addressable inRange kind

/-- A composition that compiles also does without its fragments, and what is
read from each of them, in order, only extends its program. -/
theorem extends_of_compile (addressable : composition.Addressable)
    (compiled : composition.compile = .ok program) :
    ∃ base, composition.withoutFragments.compile = .ok base ∧
      program.Extends base (composition.fragments.flatMap Fragment.statements) := by
  obtain ⟨accepted, sounds, streams, chains, assembled⟩ := composition.compile_ok_iff.mp compiled
  obtain ⟨accounted, rfl⟩ := composition.assemble_ok_iff.mp assembled
  have present := isSome_afterChains chains
  have some : composition.fullRoute.2.labels ≠ [] := by
    intro none
    refine accounted.some (Streams.labels_eq_nil.mpr fun kind => ?_)
    rw [present kind]
    exact Streams.labels_eq_nil.mp none kind
  have alone := fullRoute_accounted_of_extend addressable accepted accounted.valid some
  refine ⟨composition.withoutFragments.fullProgram, ?_, ?_⟩
  · exact (compile_plain_iff rfl).mpr ⟨check_withoutFragments accepted, sounds, alone, rfl⟩
  · have video : streams.video.isSome = composition.fullRoute.2.video.isSome := present .video
    have audio : streams.audio.isSome = composition.fullRoute.2.audio.isSome := present .audio
    refine ⟨rfl, rfl, rfl, rfl, ?_, ⟨_, rfl, ?_⟩, present⟩
    · show (if streams.video.isSome then MediaKind.video else .audio) =
        if composition.fullRoute.2.video.isSome then MediaKind.video else .audio
      rw [video]
    · rw [video, audio]
      rfl

/-- Two clips under a label that is asked for, whose joined video goes through
two chains of one fragment and whose audio goes through another one. -/
def filtered : Composition where
  main := ⟨[1], .video, {}⟩
  append := [⟨[2], .video, {}⟩]
  fragments := ["[picture]hflip[turned];[turned]vflip[done]", "[basea]volume=2[loud]"]
  output := { videoLabel := some "picture" }

theorem extends_filtered : ∃ program base, filtered.compile = .ok program ∧
    filtered.withoutFragments.compile = .ok base ∧
      program.Extends base (filtered.fragments.flatMap Fragment.statements) := by
  obtain ⟨program, compiled⟩ : ∃ program, filtered.compile = .ok program :=
    exists_ok_of_isOk (by decide +kernel)
  obtain ⟨base, built, extended⟩ := extends_of_compile (by unfold Addressable; decide) compiled
  exact ⟨program, base, compiled, built, extended⟩

end Composition

end Montage
