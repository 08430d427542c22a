import Montage.Proofs.Program.Routes

/-!
# What is rejected, and how

All ways to a program look for violations first and report the same one
(`rejections_agree`). After that a route fails at one of its own steps. None of
these is the routing itself: a plan takes the single-pass route just where it
can be taken (`compile_faults`, `singlePass_faults`), so a plan that fails has
started nothing yet, and a program tells which route it came by.
-/

namespace Montage.Composition

variable {composition : Composition}

/-! ## Faults of the steps -/

/-- A fault of the graph, not of the routing. -/
def IsOfGraph (fault : BuildFault) : Prop := fault ≠ .notSimple

/-- A fault of the graph is reported as one. -/
theorem IsOfGraph.error {fault : BuildFault} (graph : IsOfGraph fault) :
    Error.ofFault fault =
      .graphBuild fault.message (fault.statement?.map Statement.text) := by
  cases fault with
  | notSimple => exact absurd rfl graph
  | _ => rfl

theorem clipStatements_faults (clip : Asset) (index : Nat) :
    FailsOnly IsOfGraph (composition.clipStatements clip index) := by
  have audio : FailsOnly IsOfGraph (composition.clipAudio clip index) := by
    unfold clipAudio
    dsimp only
    split
    · exact .ok _
    · split
      · exact .ok _
      · exact .error nofun
  unfold clipStatements
  dsimp only
  split
  · exact audio.bind fun _ => .ok _
  · exact .ok _

theorem join_faults : FailsOnly IsOfGraph composition.join := by
  unfold join
  split
  · exact .ok _
  · exact FailsOnly.bind (.mapM fun item => clipStatements_faults item.1 item.2) fun _ => .ok _

theorem handOver_faults (statement : Statement) (kind : MediaKind) (free : List String)
    (label : Option String) : FailsOnly IsOfGraph (handOver statement kind free label) := by
  unfold handOver
  split
  · exact .ok _
  · split
    · split
      · exact .ok _
      · exact .error nofun
    · exact .ok _

theorem afterChain_faults (streams : Streams) (statement : Statement) :
    FailsOnly IsOfGraph (afterChain streams statement) := by
  unfold afterChain
  refine (handOver_faults ..).bind fun _ => ?_
  exact (handOver_faults ..).bind fun _ => .ok _

theorem mappings_faults (graph : FilterGraph) (streams : Streams) :
    FailsOnly IsOfGraph (mappings graph streams) := by
  have one : ∀ kind label, FailsOnly IsOfGraph (mappingOf graph kind label) := by
    intro kind label
    unfold mappingOf
    split
    · exact .ok _
    · split
      · exact .error nofun
      · split
        · exact .error nofun
        · exact .ok _
  have each : ∀ kind (stream : Option String),
      FailsOnly IsOfGraph ((stream.map (mappingOf graph kind)).getD (.ok [])) := by
    intro kind stream
    cases stream with
    | none => exact .ok []
    | some label => exact one kind label
  unfold mappings
  refine (each .video _).bind fun _ => ?_
  exact (each .audio _).bind fun _ => .ok _

theorem assemble_faults (graph : FilterGraph) (streams : Streams)
    (baseResolution : Option Resolution) (singlePass : Bool) :
    FailsOnly IsOfGraph
      (composition.assemble graph streams baseResolution singlePass) := by
  unfold assemble
  refine FailsOnly.bind (.mapError fun _ => nofun) fun _ => ?_
  by_cases empty : streams.labels.isEmpty = true
  · simp only [empty, if_true]
    exact FailsOnly.error (show IsOfGraph .noOutput from nofun)
  · simp only [empty]
    refine (mappings_faults graph streams).bind fun _ => ?_
    split
    · exact .error nofun
    · exact .ok _

/-! ## Faults of the routes -/

/-- The full route never fails for want of a simple composition. -/
theorem compile_faults : FailsOnly IsOfGraph composition.compile := by
  unfold compile
  refine FailsOnly.bind (.mapError fun _ => nofun) fun _ => ?_
  refine join_faults.bind fun _ => ?_
  exact FailsOnly.bind (.foldlM afterChain_faults) fun _ => assemble_faults ..

/-- Nor does the single-pass route, if it can be taken. -/
theorem singlePass_faults (simple : composition.isSimple = true) :
    FailsOnly IsOfGraph composition.singlePass := by
  unfold singlePass
  refine FailsOnly.bind (.mapError fun _ => nofun) fun _ => ?_
  simp only [simple]
  exact assemble_faults ..

/-- The route of a plan is marked on its program. -/
theorem singlePass_of_assemble {graph : FilterGraph} {streams : Streams}
    {baseResolution : Option Resolution} {singlePass : Bool} {program : Program}
    (assembled : composition.assemble graph streams baseResolution singlePass = .ok program) :
    program.singlePass = singlePass := by
  obtain ⟨-, rfl⟩ := composition.assemble_ok_iff.mp assembled
  rfl

/-- What a plan comes to once the composition is accepted. -/
theorem plan_of_check (accepted : composition.check = .ok ()) :
    composition.plan = (if composition.isSimple then composition.singlePass
      else composition.compile).mapError Error.ofFault := by
  unfold plan validate
  rw [accepted]
  rfl

theorem route_faults : FailsOnly IsOfGraph
    (if composition.isSimple then composition.singlePass else composition.compile) := by
  split
  · rename_i simple
    exact singlePass_faults simple
  · exact compile_faults

/-- A composition with a violation is refused on every way to a program, with
the message of this violation. A plan fails for a violation or for a fault of
the graph, and a program that is planned came by the single-pass route just if
the composition is simple. -/
theorem rejections_agree (composition : Composition) :
    (∀ violation, composition.check = .error violation →
      composition.validate = .error (.invalidComposition violation.message) ∧
      composition.plan = .error (.invalidComposition violation.message) ∧
      composition.compile.mapError Error.ofFault =
        .error (.graphBuild violation.message none) ∧
      composition.singlePass.mapError Error.ofFault =
        .error (.graphBuild violation.message none)) ∧
    (∀ error, composition.plan = .error error → error.isPreExecution = true ∧
      ((∃ violation, composition.check = .error violation ∧
          error = .invalidComposition violation.message) ∨
        (composition.check = .ok () ∧
          ∃ message statement, error = .graphBuild message statement))) ∧
    ∀ program, composition.plan = .ok program →
      program.singlePass = composition.isSimple := by
  have refused : ∀ violation, composition.check = .error violation →
      composition.plan = .error (.invalidComposition violation.message) := by
    intro violation found
    unfold plan validate
    rw [found]
    rfl
  refine ⟨fun violation found => ⟨?_, refused violation found, ?_, ?_⟩, fun error failed => ?_,
    fun program planned => ?_⟩
  · unfold validate
    rw [found]
    rfl
  · unfold compile
    rw [found]
    rfl
  · unfold singlePass
    rw [found]
    rfl
  · cases check : composition.check with
    | error violation =>
        rw [refused violation check] at failed
        cases failed
        exact ⟨rfl, .inl ⟨violation, rfl, rfl⟩⟩
    | ok accepted =>
        rw [plan_of_check check] at failed
        cases route : (if composition.isSimple then composition.singlePass
            else composition.compile) with
        | ok program =>
            rw [route] at failed
            cases failed
        | error fault =>
            have reported := IsOfGraph.error (route_faults.fault fault route)
            rw [route] at failed
            cases failed
            rw [reported]
            exact ⟨rfl, .inr ⟨rfl, _, _, rfl⟩⟩
  · cases check : composition.check with
    | error violation =>
        rw [refused violation check] at planned
        cases planned
    | ok accepted =>
        rw [plan_of_check check, mapError_ok_iff] at planned
        cases simple : composition.isSimple with
        | true =>
            rw [simple, if_pos rfl, singlePass_ok_iff] at planned
            exact singlePass_of_assemble planned.2.2
        | false =>
            rw [simple, if_neg Bool.false_ne_true, compile_ok_iff] at planned
            obtain ⟨-, -, _, -, assembled⟩ := planned
            exact singlePass_of_assemble assembled

/-- A video under a layer of some opacity that starts at the negative zero. -/
def unsteady (opacity : Binary64) : Composition where
  main := ⟨[1], .video, {}⟩
  overlays := [⟨⟨[2], .video, {}⟩, { opacity, start := .zero true }⟩]

theorem rejections_agree_unsteady :
    (let message := (Violation.opacity 0 .nan).message;
      (unsteady .nan).validate = .error (.invalidComposition message) ∧
      (unsteady .nan).plan = .error (.invalidComposition message) ∧
      (unsteady .nan).compile.mapError Error.ofFault = .error (.graphBuild message none) ∧
      (unsteady .nan).singlePass.mapError Error.ofFault = .error (.graphBuild message none) ∧
      (Error.invalidComposition message).isPreExecution = true) ∧
    ∃ program, (unsteady 1).plan = .ok program ∧ program.singlePass = true := by
  obtain ⟨refuses, fails, -⟩ := rejections_agree (unsteady .nan)
  obtain ⟨validated, planned, compiled, single⟩ :=
    refuses (.opacity 0 .nan) (by decide +kernel)
  refine ⟨⟨validated, planned, compiled, single, (fails _ planned).1⟩, ?_⟩
  obtain ⟨program, steady⟩ :=
    exists_ok_of_isOk (show (unsteady 1).plan.isOk = true by decide +kernel)
  refine ⟨program, steady, ?_⟩
  rw [(rejections_agree (unsteady 1)).2.2 program steady]
  decide +kernel

end Montage.Composition
