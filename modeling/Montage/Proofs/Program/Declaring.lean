import Montage.Proofs.Program.Rendering
import Mathlib.Data.List.Basic

/-!
# Labels that fragments declare

A link that begins and ends in one chain is internal to it: no statement shows
it, and the last step never sees it. What the filters of a chain declare
besides (`openLabels`) is declared by the chain's statement, so it is new
(`apart_of_compile`). The internal links may have any label, even one that the
routes declare (`shadowing_redefines`).
-/

namespace Montage

open Montage.Fragment

/-! ## Labels of chains -/

namespace Fragment

/-- The labels that the filters of a chain declare. -/
def declaredBy (filters : List (List Char)) : List String :=
  filters.flatMap fun filter => (filterLabels filter).2

/-- The labels that are open after some more filters of a chain: each label
before a filter uses up an open one of its name, if there is one, and the
labels after it are opened. -/
def openAfter (opened : List String) : List (List Char) → List String
  | [] => opened
  | filter :: rest =>
    openAfter (opened.diff (filterLabels filter).1 ++ (filterLabels filter).2) rest

theorem ChainLabels.outputs_consume (labels : ChainLabels) (label : String) :
    (labels.consume label).outputs = labels.outputs.erase label := by
  unfold consume
  by_cases member : label ∈ labels.outputs
  · simp [member]
  · simp [member, List.erase_of_not_mem]

theorem ChainLabels.outputs_foldl_consume (labels : ChainLabels) (leading : List String) :
    (leading.foldl consume labels).outputs = labels.outputs.diff leading := by
  induction leading generalizing labels with
  | nil => rw [List.foldl_nil, List.diff_nil]
  | cons label rest ih => rw [List.foldl_cons, ih, outputs_consume, List.diff_cons]

theorem ChainLabels.outputs_foldl_readFilter (labels : ChainLabels) (filters : List (List Char)) :
    (filters.foldl readFilter labels).outputs = openAfter labels.outputs filters := by
  induction filters generalizing labels with
  | nil => rfl
  | cons filter rest ih =>
      have read : (labels.readFilter filter).outputs =
          labels.outputs.diff (filterLabels filter).1 ++ (filterLabels filter).2 := by
        rw [← outputs_foldl_consume]
        rfl
      rw [List.foldl_cons, ih, read]
      rfl

/-- A chain's statement declares what its filters leave open. -/
theorem outputs_statement (chain : List Char) :
    (statement chain).outputs = openAfter [] (splitUnquoted ',' chain) :=
  ChainLabels.outputs_foldl_readFilter {} (splitUnquoted ',' chain)

end Fragment

namespace Composition

/-- The chains of all fragments. -/
def fragmentChains (composition : Composition) : List (List Char) :=
  composition.fragments.flatMap fun text => chains text.toList

/-- The labels that the text of the fragments declares, internal links
included. -/
def declaredLabels (composition : Composition) : List String :=
  composition.fragmentChains.flatMap fun chain => declaredBy (splitUnquoted ',' chain)

/-- The labels that the text of the fragments declares but for links that begin
and end in one chain. -/
def openLabels (composition : Composition) : List String :=
  composition.fragmentChains.flatMap fun chain => openAfter [] (splitUnquoted ',' chain)

variable {composition : Composition} {program : Program}

theorem fragmentStatements_eq (composition : Composition) :
    composition.fragmentStatements = composition.fragmentChains.map Fragment.statement := by
  unfold fragmentStatements fragmentChains
  rw [List.map_flatMap]
  rfl

/-- The statements of the fragments declare the open labels. -/
theorem outputs_fragmentStatements (composition : Composition) :
    composition.fragmentStatements.flatMap (·.outputs) = composition.openLabels := by
  rw [fragmentStatements_eq, List.flatMap_map]
  exact List.flatMap_congr fun chain _ => outputs_statement chain

end Composition

/-! ## New labels -/

/-- Labels that differ from each other, from the outputs of the statements that
are not raw, and from streams of inputs. -/
structure Program.KeepsApart (program : Program) (labels : List String) : Prop where
  distinct : labels.Nodup
  new : ∀ label ∈ labels, ∀ statement ∈ program.graph.statements,
    statement.kind ≠ .raw → label ∉ statement.outputs
  plain : ∀ label ∈ labels, isInputStream label = false

namespace Composition

variable {composition : Composition} {program : Program}

/-- What a compiled composition's fragments declare, internal links excepted,
is new. -/
theorem apart_of_compile (compiled : composition.compile = .ok program) :
    program.KeepsApart composition.openLabels := by
  have valid : program.graph.Valid composition.inputs.length := by
    obtain ⟨-, -, streams, -, assembled⟩ := composition.compile_ok_iff.mp compiled
    obtain ⟨accounted, rfl⟩ := composition.assemble_ok_iff.mp assembled
    exact accounted.valid
  have declared : program.graph.declared =
      composition.fullRoute.1.declared ++ composition.openLabels := by
    rw [FilterGraph.declared, statements_of_compile compiled, List.flatMap_append,
      outputs_fragmentStatements]
    rfl
  have distinct := valid.declaredOnce
  rw [declared] at distinct
  obtain ⟨-, own, apart⟩ := List.nodup_append.mp distinct
  refine ⟨own, ?_, ?_⟩
  · intro label open_ statement member written output
    rw [statements_of_compile compiled, fragmentStatements_eq] at member
    rcases List.mem_append.mp member with route | raw
    · exact apart label (List.mem_flatMap.mpr ⟨statement, route, output⟩) label open_ rfl
    · obtain ⟨chain, -, rfl⟩ := List.mem_map.mp raw
      exact written rfl
  · intro label open_
    exact valid.declaredPlain label (declared ▸ List.mem_append_right _ open_)

/-- A video that goes through a chain with a link of its own. -/
def relayed : Composition where
  main := ⟨[1], .video, {}⟩
  fragments := ["[0:v]split[a][b],[b]hflip[tmp],[tmp]vflip[c];[a][c]overlay[out]"]

theorem apart_relayed : ∃ program, relayed.compile = .ok program ∧
    program.KeepsApart relayed.openLabels := by
  obtain ⟨program, compiled⟩ : ∃ program, relayed.compile = .ok program :=
    exists_ok_of_isOk (by decide +kernel)
  exact ⟨program, compiled, apart_of_compile compiled⟩

/-- Two clips whose joined video goes through a chain with internal links that
have a label of the routes, twice, and that of a stream of an input. -/
def shadowing : Composition where
  main := ⟨[1], .video, {}⟩
  append := [⟨[2], .video, {}⟩]
  fragments := ["[basev]hflip[v0],[v0]vflip[v0],[v0]null[1:v],[1:v]null[out]"]

/-- The program is built although its fragment declares a label twice, a label
of another statement and a stream of an input. -/
theorem shadowing_redefines : ∃ program, shadowing.compile = .ok program ∧
    ¬ shadowing.declaredLabels.Nodup ∧
      (∃ label ∈ shadowing.declaredLabels, ∃ statement ∈ program.graph.statements,
        statement.kind ≠ .raw ∧ label ∈ statement.outputs) ∧
      ∃ label ∈ shadowing.declaredLabels, isInputStream label = true := by
  have twice : ¬ shadowing.declaredLabels.Nodup := by decide +kernel
  have generated : ∃ label ∈ shadowing.declaredLabels,
      ∃ statement ∈ shadowing.fullRoute.1.statements,
        statement.kind ≠ .raw ∧ label ∈ statement.outputs := by decide +kernel
  have stream : ∃ label ∈ shadowing.declaredLabels, isInputStream label = true := by
    decide +kernel
  obtain ⟨program, compiled⟩ : ∃ program, shadowing.compile = .ok program :=
    exists_ok_of_isOk (by decide +kernel)
  obtain ⟨label, declared, statement, route, written, output⟩ := generated
  refine ⟨program, compiled, twice, ⟨label, declared, statement, ?_, written, output⟩, stream⟩
  rw [statements_of_compile compiled]
  exact List.mem_append_left _ route

end Composition

end Montage
