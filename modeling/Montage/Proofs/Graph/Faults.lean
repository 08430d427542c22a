import Montage.Engine.Error
import Montage.Proofs.Graph.Validity
import Mathlib.Data.List.Perm.Basic

/-!
# Faults of graphs

The validator stops at the first statement that spoils the graph up to it
(`validate_error`). What it accepts is a condition on all labels of the graph
(`FilterGraph.Ordered`), and in an accepted graph each declared label is either
consumed once or left over (`Valid.perm_declared`).
-/

namespace Montage

/-! ## Reading up to a fault -/

/-- Statements are read one after the other, so a part of them can be read
first. -/
theorem readStatements_append (n : Nat) (scope : LabelScope) (statements more : List Statement) :
    readStatements n scope (statements ++ more) =
      (readStatements n scope statements).bind fun next => readStatements n next more := by
  induction statements generalizing scope with
  | nil => rfl
  | cons statement rest ih =>
      rw [List.cons_append, readStatements, readStatements]
      cases scope.read n statement with
      | error fault => rfl
      | ok next => exact ih next

/-- A fault stands in the first statement that cannot be read. -/
theorem readStatements_error {n : Nat} {scope : LabelScope} {statements : List Statement}
    {fault : StatementFault} (refused : readStatements n scope statements = .error fault) :
    ∃ earlier later next, statements = earlier ++ fault.statement :: later ∧
      readStatements n scope earlier = .ok next ∧
        next.read n fault.statement = .error fault.fault := by
  induction statements generalizing scope with
  | nil => cases refused
  | cons statement rest ih =>
      rw [readStatements] at refused
      cases first : scope.read n statement with
      | error cause =>
          simp only [first, Except.error.injEq] at refused
          subst refused
          exact ⟨[], rest, scope, rfl, rfl, first⟩
      | ok middle =>
          simp only [first] at refused
          obtain ⟨earlier, later, next, rfl, before, stops⟩ := ih refused
          have reads : readStatements n scope (statement :: earlier) = .ok next := by
            rw [readStatements, first]
            exact before
          exact ⟨statement :: earlier, later, next, rfl, reads, stops⟩

namespace FilterGraph

variable {graph : FilterGraph} {n : Nat}

theorem validate_ok_iff_read :
    graph.validate n = .ok () ↔ ∃ scope, readStatements n {} graph.statements = .ok scope := by
  unfold validate
  rw [map_ok_iff]
  exact ⟨fun ⟨scope, accepted, _⟩ => ⟨scope, accepted⟩, fun ⟨scope, accepted⟩ =>
    ⟨scope, accepted, rfl⟩⟩

/-- The beginning of an accepted graph is accepted. -/
theorem validate_of_append {statements more : List Statement}
    (accepted : validate ⟨statements ++ more⟩ n = .ok ()) :
    validate ⟨statements⟩ n = .ok () := by
  obtain ⟨last, accepted⟩ := validate_ok_iff_read.mp accepted
  rw [readStatements_append] at accepted
  obtain ⟨next, before, -⟩ := bind_ok_iff.mp accepted
  exact validate_ok_iff_read.mpr ⟨next, before⟩

/-- A graph that is refused is accepted up to the statement of the fault, and no
further. -/
theorem validate_error {fault : StatementFault} (refused : graph.validate n = .error fault) :
    ∃ earlier later, graph.statements = earlier ++ fault.statement :: later ∧
      validate ⟨earlier⟩ n = .ok () ∧
        validate ⟨earlier ++ [fault.statement]⟩ n ≠ .ok () := by
  have stopped : readStatements n {} graph.statements = .error fault := by
    unfold validate at refused
    cases read : readStatements n {} graph.statements with
    | error other =>
        rw [read] at refused
        cases refused
        rfl
    | ok scope =>
        rw [read] at refused
        cases refused
  obtain ⟨earlier, later, next, split, before, stops⟩ := readStatements_error stopped
  refine ⟨earlier, later, split, validate_ok_iff_read.mpr ⟨next, before⟩, fun accepted => ?_⟩
  obtain ⟨last, whole⟩ := validate_ok_iff_read.mp accepted
  have ends : readStatements n {} (earlier ++ [fault.statement]) =
      .error ⟨fault.fault, fault.statement⟩ := by
    rw [readStatements_append, before]
    show readStatements n next [fault.statement] = _
    rw [readStatements, stops]
  rw [ends] at whole
  cases whole

/-! ## Declared labels -/

/-- Each link that is consumed is declared, and no declared label but a link is
consumed. -/
theorem Valid.mem_linksOf_consumed (valid : graph.Valid n) (label : String) :
    label ∈ linksOf graph.consumed ↔ label ∈ graph.declared ∧ label ∈ graph.consumed := by
  rw [mem_linksOf]
  constructor
  · rintro ⟨consumed, link⟩
    refine ⟨?_, consumed⟩
    obtain ⟨statement, member, input⟩ := List.mem_flatMap.mp consumed
    obtain ⟨earlier, later, split⟩ := List.append_of_mem member
    rcases valid.supplied earlier statement later split label input with
      ⟨index, stream, -⟩ | ⟨-, declared⟩
    · simp [isInputStream, stream] at link
    · unfold FilterGraph.declared
      rw [split, List.flatMap_append]
      exact List.mem_append_left _ declared
  · rintro ⟨declared, consumed⟩
    exact ⟨consumed, valid.declaredPlain label declared⟩

/-- In a valid graph a declared label is consumed, once, or left over. -/
theorem Valid.perm_declared (valid : graph.Valid n) :
    graph.declared.Perm (linksOf graph.consumed ++ graph.dangling) := by
  have used : (graph.declared.filter graph.consumes).Perm (linksOf graph.consumed) := by
    rw [List.perm_ext_iff_of_nodup (valid.declaredOnce.filter _) valid.consumedOnce]
    intro label
    rw [valid.mem_linksOf_consumed, List.mem_filter, consumes, List.contains_iff_mem]
  exact (List.filter_append_perm graph.consumes graph.declared).symm.trans
    (used.append_right graph.dangling)

/-! ## The whole graph -/

/-- A graph each of whose labels is in order where it stands. -/
structure Ordered (graph : FilterGraph) (inputCount : Nat) : Prop where
  /-- what a statement consumes is a stream of an existing input, or is declared
  before it -/
  supplied : ∀ earlier statement later,
    graph.statements = earlier ++ statement :: later → ∀ label ∈ statement.inputs,
      (∃ index, inputStreamIndex? label = some index ∧ index < inputCount) ∨
        label ∈ earlier.flatMap (·.outputs)
  declaredOnce : graph.declared.Nodup
  declaredPlain : ∀ label ∈ graph.declared, isInputStream label = false
  consumedOnce : (graph.consumed.filter (!isInputStream ·)).Nodup

/-- No stream of an input is declared, so what is declared before is a link. -/
theorem ordered_iff_valid : graph.Ordered n ↔ graph.Valid n := by
  constructor
  · intro ordered
    refine ⟨fun earlier statement later split label input => ?_, ordered.declaredOnce,
      ordered.declaredPlain, ordered.consumedOnce⟩
    refine (ordered.supplied earlier statement later split label input).imp_right fun declared => ?_
    have among : label ∈ graph.declared := by
      unfold FilterGraph.declared
      rw [split, List.flatMap_append]
      exact List.mem_append_left _ declared
    exact ⟨ordered.declaredPlain label among, declared⟩
  · intro valid
    exact ⟨fun earlier statement later split label input =>
      (valid.supplied earlier statement later split label input).imp_right And.right,
      valid.declaredOnce, valid.declaredPlain, valid.consumedOnce⟩

/-- The validator accepts just the ordered graphs, in which every declared label
is consumed or left over, and names the first statement with which a graph is no
longer ordered. -/
theorem validate_decides (graph : FilterGraph) (n : Nat) :
    (graph.validate n = .ok () ↔ graph.Ordered n) ∧
    (graph.validate n = .ok () →
      graph.declared.Perm (graph.consumed.filter (!isInputStream ·) ++ graph.dangling)) ∧
    ∀ fault, graph.validate n = .error fault →
      ∃ earlier statement later, graph.statements = earlier ++ statement :: later ∧
        Error.ofFault (.badLabel fault) =
          .graphBuild fault.fault.message (some statement.text) ∧
        (∀ front, front <+: earlier → Ordered ⟨front⟩ n) ∧
          ¬ Ordered ⟨earlier ++ [statement]⟩ n := by
  have decides : ∀ graph : FilterGraph, graph.validate n = .ok () ↔ graph.Ordered n :=
    fun _ => validate_ok_iff.trans ordered_iff_valid.symm
  refine ⟨decides graph, fun accepted => (validate_ok_iff.mp accepted).perm_declared,
    fun fault refused => ?_⟩
  obtain ⟨earlier, later, split, before, stops⟩ := validate_error refused
  refine ⟨earlier, fault.statement, later, split, rfl, ?_, fun ordered =>
    stops ((decides _).mpr ordered)⟩
  rintro front ⟨rest, rfl⟩
  exact (decides _).mp (validate_of_append before)

/-- A stream that is scaled and made transparent. -/
def relayed : FilterGraph :=
  ⟨[.chain .scale "0:v" "scale=2:2" "a", .chain .alpha "a" "format=rgba" "b"]⟩

/-- A statement that consumes what it declares itself, after one that is in
order. -/
def looped : FilterGraph :=
  ⟨[.chain .scale "0:v" "scale=2:2" "a", .chain .alpha "b" "format=rgba" "b"]⟩

theorem validate_decides_relayed :
    (relayed.validate 1 = .ok () ∧ relayed.Ordered 1 ∧
      relayed.declared.Perm (relayed.consumed.filter (!isInputStream ·) ++ relayed.dangling)) ∧
    ∃ fault, looped.validate 1 = .error fault ∧
      ∃ earlier statement later, looped.statements = earlier ++ statement :: later ∧
        Error.ofFault (.badLabel fault) =
          .graphBuild fault.fault.message (some statement.text) ∧
        (∀ front, front <+: earlier → Ordered ⟨front⟩ 1) ∧
          ¬ Ordered ⟨earlier ++ [statement]⟩ 1 := by
  have accepted : relayed.validate 1 = .ok () := by decide +kernel
  have refused : looped.validate 1 =
      .error ⟨.notDeclared "b", .chain .alpha "b" "format=rgba" "b"⟩ := by decide +kernel
  obtain ⟨decides, conserves, -⟩ := validate_decides relayed 1
  exact ⟨⟨accepted, decides.mp accepted, conserves accepted⟩, _, refused,
    (validate_decides looped 1).2.2 _ refused⟩

end FilterGraph

end Montage
