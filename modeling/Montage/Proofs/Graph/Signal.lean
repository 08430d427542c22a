import Montage.Proofs.Graph.Validity

/-!
# Signals

What a label of a graph stands for once its links are followed back: a tree of
filters with streams of inputs at its leaves. `FilterGraph.signal` reads it off
the statements; in a valid graph it unfolds a label through the one statement
that declares it (`signal_declared`) and leaves every other label as it is
(`signal_undeclared`).
-/

namespace Montage

/-- A stream as a tree: a label that no statement declares, or the output
number `pad` of the `pads` outputs of a filter over other streams. -/
inductive MediaSignal where
  | input (label : String)
  | output (kind : FilterKind) (body : String) (sources : List MediaSignal) (pads pad : Nat)

namespace MediaSignal

/-- A filter with one input and one output after a stream. -/
def chain (kind : FilterKind) (body : String) (source : MediaSignal) : MediaSignal :=
  .output kind body [source] 1 0

/-- A filter with one input and one output after a stream, joined to the
filter that the stream comes from if that one has one input and one output
too. -/
def followedBy (kind : FilterKind) (body : String) : MediaSignal → MediaSignal
  | .output _ before [inner] 1 pad => .output kind (before ++ "," ++ body) [inner] 1 pad
  | source => .chain kind body source

mutual

/-- A tree with each run of filters of one input and one output joined into a
single one. The kind is that of the last filter of the run. -/
def fused : MediaSignal → MediaSignal
  | .input label => .input label
  | .output kind body sources pads pad =>
    match fusedAll sources, pads with
    | [source], 1 => source.followedBy kind body
    | sources, pads => .output kind body sources pads pad

/-- Trees with their runs joined. -/
def fusedAll : List MediaSignal → List MediaSignal
  | [] => []
  | signal :: rest => signal.fused :: fusedAll rest

end

end MediaSignal

/-- What the outputs of a statement stand for over given sources. -/
def Statement.outputSignal (statement : Statement) (sources : List MediaSignal) (pad : Nat) :
    MediaSignal :=
  .output statement.kind statement.body sources statement.outputs.length pad

/-- What labels stand for after one more statement. -/
def Statement.define (meaning : String → MediaSignal) (statement : Statement) (label : String) :
    MediaSignal :=
  match statement.outputs.idxOf? label with
  | some pad => statement.outputSignal (statement.inputs.map meaning) pad
  | none => meaning label

/-- What labels stand for after some statements. -/
def defineAll (meaning : String → MediaSignal) (statements : List Statement) :
    String → MediaSignal :=
  statements.foldl Statement.define meaning

/-- What a label stands for in a graph. -/
def FilterGraph.signal (graph : FilterGraph) : String → MediaSignal :=
  defineAll MediaSignal.input graph.statements

/-! ## Following links -/

@[simp] theorem defineAll_nil (meaning : String → MediaSignal) :
    defineAll meaning [] = meaning := rfl

@[simp] theorem defineAll_cons (meaning : String → MediaSignal) (statement : Statement)
    (rest : List Statement) :
    defineAll meaning (statement :: rest) = defineAll (statement.define meaning) rest := rfl

theorem defineAll_append (meaning : String → MediaSignal) (statements more : List Statement) :
    defineAll meaning (statements ++ more) = defineAll (defineAll meaning statements) more :=
  List.foldl_append

theorem Statement.define_of_notMem {meaning : String → MediaSignal} {statement : Statement}
    {label : String} (absent : label ∉ statement.outputs) :
    statement.define meaning label = meaning label := by
  unfold Statement.define
  rw [List.idxOf?_eq_none_iff.mpr absent]

theorem Statement.define_output {meaning : String → MediaSignal} {statement : Statement}
    (distinct : statement.outputs.Nodup) {pad : Nat} {label : String}
    (found : statement.outputs[pad]? = some label) :
    statement.define meaning label =
      statement.outputSignal (statement.inputs.map meaning) pad := by
  obtain ⟨bound, equal⟩ := List.getElem?_eq_some_iff.mp found
  have place : statement.outputs.idxOf? label = some pad := by
    refine List.idxOf?_eq_some_iff.mpr ⟨bound, equal, fun other before same => ?_⟩
    exact absurd ((List.Nodup.getElem_inj_iff distinct).mp (same.trans equal.symm)) (by omega)
  unfold Statement.define
  rw [place]

/-- Statements leave the labels that they do not declare as they are. -/
theorem defineAll_of_notMem {meaning : String → MediaSignal} {statements : List Statement}
    {label : String} (absent : label ∉ statements.flatMap (·.outputs)) :
    defineAll meaning statements label = meaning label := by
  induction statements generalizing meaning with
  | nil => rfl
  | cons statement rest ih =>
      rw [List.flatMap_cons, List.mem_append, not_or] at absent
      rw [defineAll_cons, ih absent.2, Statement.define_of_notMem absent.1]

theorem FilterGraph.signal_undeclared {graph : FilterGraph} {label : String}
    (absent : label ∉ graph.declared) : graph.signal label = .input label :=
  defineAll_of_notMem absent

/-- In a valid graph a declared label stands for the output of the statement
that declares it, over what the inputs of that statement stand for. -/
theorem FilterGraph.signal_declared {graph : FilterGraph} {n : Nat} (valid : graph.Valid n)
    {earlier later : List Statement} {statement : Statement}
    (split : graph.statements = earlier ++ statement :: later) {pad : Nat} {label : String}
    (found : statement.outputs[pad]? = some label) :
    graph.signal label = statement.outputSignal (statement.inputs.map graph.signal) pad := by
  have declared : graph.declared =
      earlier.flatMap (·.outputs) ++ (statement.outputs ++ later.flatMap (·.outputs)) := by
    simp [FilterGraph.declared, split]
  have distinct := valid.declaredOnce
  rw [declared, List.nodup_append, List.nodup_append] at distinct
  obtain ⟨-, ⟨own, -, apart⟩, before⟩ := distinct
  -- what the statement consumes is settled by the statements before it
  have settled : ∀ input ∈ statement.inputs,
      defineAll MediaSignal.input earlier input = graph.signal input := by
    intro input consumed
    have whole : graph.signal =
        defineAll (defineAll MediaSignal.input earlier) (statement :: later) := by
      unfold FilterGraph.signal
      rw [split, defineAll_append]
    rw [whole]
    refine (defineAll_of_notMem fun again => ?_).symm
    rw [List.flatMap_cons] at again
    rcases valid.supplied earlier statement later split input consumed with
      ⟨index, stream, -⟩ | ⟨-, known⟩
    · have plain := valid.declaredPlain input (by rw [declared]; simp [again])
      simp [isInputStream, stream] at plain
    · exact before input known input again rfl
  have here : label ∈ statement.outputs := List.mem_of_getElem? found
  calc graph.signal label
      = defineAll (statement.define (defineAll MediaSignal.input earlier)) later label := by
        unfold FilterGraph.signal
        rw [split, defineAll_append, defineAll_cons]
    _ = statement.define (defineAll MediaSignal.input earlier) label :=
        defineAll_of_notMem fun again => apart label here label again rfl
    _ = statement.outputSignal (statement.inputs.map (defineAll MediaSignal.input earlier)) pad :=
        Statement.define_output own found
    _ = statement.outputSignal (statement.inputs.map graph.signal) pad := by
        rw [List.map_congr_left settled]

end Montage
