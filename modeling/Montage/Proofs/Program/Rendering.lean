import Montage.Proofs.Program.Ends
import Montage.Proofs.Program.Writing

/-!
# Texts of programs

The engine gets the text of a graph, while the last step of a route has only
looked at its statements. What the routes write by themselves is read back from
the text as it is (`reads_of_built`). A fragment's chain is read back just when
it ends outside quotes and escapes: after one that does not, the semicolon that
is put between statements belongs to the chain, and the statement that follows
is never seen (`reads_fragments_iff`).
-/

namespace Montage

open Montage.Fragment

variable {composition : Composition} {program : Program}

/-! ## Texts of graphs -/

namespace FilterGraph

/-- A graph of statements that can be read is read back from its text, with any
blanks after the semicolons. -/
theorem reads_of_legible {graph : FilterGraph} (blanks : String)
    (blank : Text.AllBlank blanks.toList)
    (legible : ∀ statement ∈ graph.statements, statement.IsLegible) :
    Fragment.statements (graph.textWith (";" ++ blanks)) =
      graph.statements.map Statement.asRead :=
  (graph.readsAs_iff blanks blank fun statement member => (legible statement member).readsBack).mpr
    fun statement member => (legible statement (List.dropLast_subset _ member)).endsUnquoted

end FilterGraph

namespace Fragment

/-- Each chain of the fragments but the last ends outside quotes and escapes. -/
def ChainsEndUnquoted (fragments : List String) : Prop :=
  ∀ statement ∈ (fragments.flatMap Fragment.statements).dropLast,
    EndsUnquoted statement.text.toList

instance (fragments : List String) : Decidable (ChainsEndUnquoted fragments) :=
  List.decidableBAll _ _

/-- Only chains that end so are read back from their texts. -/
theorem reads_chains_iff (fragments : List String) :
    Fragment.statements (";".intercalate
        ((fragments.flatMap Fragment.statements).map Statement.text)) =
          fragments.flatMap Fragment.statements ↔ ChainsEndUnquoted fragments := by
  have each : ∀ statement ∈ fragments.flatMap Fragment.statements,
      statement.ReadsBack ∧ statement.asRead = id statement := by
    intro statement member
    obtain ⟨text, -, inside⟩ := List.mem_flatMap.mp member
    exact readsBack_of_mem inside
  have reads := FilterGraph.readsAs_iff ⟨fragments.flatMap Fragment.statements⟩ "" (by decide)
    fun statement member => (each statement member).1
  rw [String.append_empty, List.map_congr_left fun statement member => (each statement member).2,
    List.map_id] at reads
  exact reads

end Fragment

namespace Composition

/-! ## Programs without fragments -/

/-- Without fragments the statements of a program are read back from both of
its texts, in their order and with their labels. -/
theorem reads_of_built (unfiltered : composition.fragments = [])
    (built : composition.compile = .ok program ∨ composition.singlePass = .ok program) :
    Fragment.statements program.graphText = program.graph.statements.map Statement.asRead ∧
      Fragment.statements program.prettyGraph =
        program.graph.statements.map Statement.asRead := by
  have legible : ∀ statement ∈ program.graph.statements, statement.IsLegible := by
    rcases built with compiled | passed
    · obtain ⟨accepted, -, -, rfl⟩ := (compile_plain_iff unfiltered).mp compiled
      exact fullRoute_legible accepted
    · obtain ⟨accepted, simple, assembled⟩ := composition.singlePass_ok_iff.mp passed
      obtain ⟨-, rfl⟩ := composition.assemble_ok_iff.mp assembled
      exact plainRoute_legible accepted simple
  have text := FilterGraph.reads_of_legible "" (by decide) legible
  have pretty := FilterGraph.reads_of_legible "\n" (by decide) legible
  rw [String.append_empty] at text
  rw [show (";" ++ "\n" : String) = ";\n" by decide] at pretty
  exact ⟨text, pretty⟩

/-- A video under a picture that is keyed out and shown for some time. -/
def badged : Composition where
  main := ⟨[1], .video, {}⟩
  overlays := [⟨⟨[2], .video, {}⟩,
    { start := 1, duration := some 2, colorKey := some ⟨0, 255, 0⟩, opacity := 0.5 }⟩]
  output := { videoLabel := some "out.v-1" }

theorem reads_badged : ∃ program, badged.compile = .ok program ∧
    Fragment.statements program.graphText = program.graph.statements.map Statement.asRead ∧
      Fragment.statements program.prettyGraph =
        program.graph.statements.map Statement.asRead := by
  obtain ⟨program, compiled⟩ : ∃ program, badged.compile = .ok program :=
    exists_ok_of_isOk (by decide +kernel)
  exact ⟨program, compiled, reads_of_built rfl (.inl compiled)⟩

/-! ## Fragments -/

/-- The statements that a program is compiled to. -/
theorem statements_of_compile (compiled : composition.compile = .ok program) :
    program.graph.statements =
      composition.fullRoute.1.statements ++ composition.fragmentStatements := by
  obtain ⟨-, -, streams, -, assembled⟩ := composition.compile_ok_iff.mp compiled
  obtain ⟨-, rfl⟩ := composition.assemble_ok_iff.mp assembled
  rfl

/-- Only with fragments whose chains end so is a compiled graph read back from
its text. -/
theorem reads_of_compile_iff (compiled : composition.compile = .ok program) :
    Fragment.statements program.graphText = program.graph.statements.map Statement.asRead ↔
      ChainsEndUnquoted composition.fragments := by
  obtain ⟨accepted, -, -, -, -⟩ := composition.compile_ok_iff.mp compiled
  have legible := fullRoute_legible accepted
  have each : ∀ statement ∈ program.graph.statements, statement.ReadsBack := by
    rw [statements_of_compile compiled, List.forall_mem_append]
    refine ⟨fun statement member => (legible statement member).readsBack, ?_⟩
    intro statement member
    obtain ⟨text, -, inside⟩ := List.mem_flatMap.mp member
    exact (readsBack_of_mem inside).1
  have reads := program.graph.readsAs_iff "" (by decide) each
  rw [String.append_empty] at reads
  refine reads.trans ?_
  show _ ↔ ∀ statement ∈ composition.fragmentStatements.dropLast,
    EndsUnquoted statement.text.toList
  rw [statements_of_compile compiled]
  cases some : composition.fragmentStatements with
  | nil =>
      -- the statements of the route are closed in any case
      rw [List.append_nil]
      refine iff_of_true (fun statement member => ?_) (by simp)
      exact (legible statement (List.dropLast_subset _ member)).endsUnquoted
  | cons first rest =>
      rw [List.dropLast_append_of_ne_nil (List.cons_ne_nil first rest), List.forall_mem_append]
      exact and_iff_right fun statement member => (legible statement member).endsUnquoted

/-- Fragments reach the engine as the chains that were checked just when each
chain but the last ends outside quotes and escapes: so it is with their chains
alone, and with every program that is compiled with them. -/
theorem reads_fragments_iff (fragments : List String) :
    (Fragment.statements (";".intercalate
        ((fragments.flatMap Fragment.statements).map Statement.text)) =
          fragments.flatMap Fragment.statements ↔ ChainsEndUnquoted fragments) ∧
      ∀ (composition : Composition) (program : Program), composition.fragments = fragments →
        composition.compile = .ok program →
          (Fragment.statements program.graphText =
              program.graph.statements.map Statement.asRead ↔ ChainsEndUnquoted fragments) := by
  refine ⟨reads_chains_iff fragments, fun composition program added compiled => ?_⟩
  rw [← added]
  exact reads_of_compile_iff compiled

/-- A video that two fragments of three chains go through, with a semicolon in
quotes. -/
def graded : Composition where
  main := ⟨[1], .video, {}⟩
  fragments := ["[0:v]split[a][b]; [a]hue=s=0[gray]",
    "[gray][b]overlay,drawtext=text='now; then'[out]"]

theorem reads_fragments_graded : ChainsEndUnquoted graded.fragments ∧
    Fragment.statements (";".intercalate
        ((graded.fragments.flatMap Fragment.statements).map Statement.text)) =
          graded.fragments.flatMap Fragment.statements ∧
      ∃ program, graded.compile = .ok program ∧
        Fragment.statements program.graphText =
          program.graph.statements.map Statement.asRead := by
  have closed : ChainsEndUnquoted graded.fragments := by decide +kernel
  obtain ⟨chains, programs⟩ := reads_fragments_iff graded.fragments
  obtain ⟨program, compiled⟩ : ∃ program, graded.compile = .ok program :=
    exists_ok_of_isOk (by decide +kernel)
  exact ⟨closed, chains.mpr closed, program, compiled,
    (programs graded program rfl compiled).mpr closed⟩

/-- A video with a caption whose quote is never closed, and one more chain. -/
def captioned : Composition where
  main := ⟨[1], .video, {}⟩
  fragments := ["[0:v]drawtext=text='hi[out]", "[out]null[o2]"]

/-- The program is built, and the engine is given the two chains as one. -/
theorem captioned_reads_wrong : ∃ program, captioned.compile = .ok program ∧
    Fragment.statements program.graphText ≠ program.graph.statements.map Statement.asRead := by
  have open_ : ¬ ChainsEndUnquoted captioned.fragments := by decide +kernel
  obtain ⟨program, compiled⟩ : ∃ program, captioned.compile = .ok program :=
    exists_ok_of_isOk (by decide +kernel)
  exact ⟨program, compiled, fun same => open_ ((reads_of_compile_iff compiled).mp same)⟩

end Composition

end Montage
