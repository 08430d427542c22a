import Montage.Proofs.Graph.Wiring

/-!
# Conservation of streams

Nothing is lost between the labels that some statements are given and those
that they leave: what is given or declared is consumed or left, each label as
often (`Conserves`). This holds whether labels are new or not, so it goes
through every step of a route, the renaming of a final stream included
(`Conserves.relabel`).
-/

namespace Montage

open Montage.Composition

/-- Statements that are given some labels and leave others. What is given or
declared is consumed or left, each label as often. -/
def Conserves (given : List String) (statements : List Statement) (left : List String) : Prop :=
  (given ++ statements.flatMap (·.outputs)).Perm (statements.flatMap (·.inputs) ++ left)

theorem conserves_iff_count {given left : List String} {statements : List Statement} :
    Conserves given statements left ↔ ∀ label,
      given.count label + (statements.flatMap (·.outputs)).count label =
        (statements.flatMap (·.inputs)).count label + left.count label := by
  simp only [Conserves, List.perm_iff_count, List.count_append]

namespace Conserves

variable {given left last : List String} {statements more : List Statement}

theorem nil (given : List String) : Conserves given [] given := by
  simp [Conserves]

/-- Statements that are given all they consume leave all they declare. -/
theorem whole (statements : List Statement) :
    Conserves (statements.flatMap (·.inputs)) statements (statements.flatMap (·.outputs)) :=
  List.Perm.refl _

theorem one {statement : Statement} (consumed : statement.inputs = given)
    (declared : statement.outputs = left) : Conserves given [statement] left := by
  rw [← consumed, ← declared]
  simpa only [List.flatMap_singleton] using whole [statement]

theorem perm {given' left' : List String} (same : given.Perm given') (same' : left.Perm left')
    (conserves : Conserves given statements left) : Conserves given' statements left' :=
  ((same.symm.append_right _).trans conserves).trans (same'.append_left _)

theorem append (first : Conserves given statements left) (second : Conserves left more last) :
    Conserves given (statements ++ more) last := by
  rw [conserves_iff_count] at first second ⊢
  intro label
  have here := first label
  have there := second label
  rw [List.flatMap_append, List.flatMap_append, List.count_append, List.count_append]
  omega

/-- Labels that the statements do not touch are handed on. -/
theorem frame (besides : List String) (conserves : Conserves given statements left) :
    Conserves (given ++ besides) statements (left ++ besides) := by
  rw [conserves_iff_count] at conserves ⊢
  intro label
  have counts := conserves label
  rw [List.count_append, List.count_append]
  omega

theorem flatMap {α : Type} {items : List α} {f : α → List Statement}
    {before after : α → List String}
    (each : ∀ item ∈ items, Conserves (before item) (f item) (after item)) :
    Conserves (items.flatMap before) (items.flatMap f) (items.flatMap after) := by
  induction items with
  | nil => exact nil []
  | cons item rest ih =>
      rw [List.forall_mem_cons] at each
      simp only [List.flatMap_cons]
      -- the labels of the other items wait while the first one is dealt with
      have others := (ih each.2).frame (after item)
      exact (each.1.frame _).append
        (others.perm List.perm_append_comm List.perm_append_comm)

/-! ## What follows from it -/

/-- A label that is not declared is used as often as it is given. -/
theorem count_uses (conserves : Conserves given statements left) {label : String}
    (undeclared : label ∉ statements.flatMap (·.outputs)) :
    (statements.flatMap (·.inputs) ++ left).count label = given.count label := by
  have counts := conserves_iff_count.mp conserves label
  rw [List.count_eq_zero.mpr undeclared] at counts
  rw [List.count_append]
  omega

/-- A label that is used is given or declared. -/
theorem mem_of_used (conserves : Conserves given statements left) {label : String}
    (used : label ∈ statements.flatMap (·.inputs) ++ left) :
    label ∈ given ∨ label ∈ statements.flatMap (·.outputs) :=
  List.mem_append.mp (conserves.mem_iff.mpr used)

/-- A label that is declared once and not given is either consumed or left. -/
theorem consumed_or_left (conserves : Conserves given statements left) {label : String}
    (distinct : (statements.flatMap (·.outputs)).Nodup)
    (declared : label ∈ statements.flatMap (·.outputs)) (other : label ∉ given) :
    (label ∈ statements.flatMap (·.inputs) ∧ label ∉ left) ∨
      (label ∉ statements.flatMap (·.inputs) ∧ label ∈ left) := by
  have counts := conserves_iff_count.mp conserves label
  rw [List.count_eq_zero.mpr other, List.count_eq_one_of_mem distinct declared] at counts
  simp only [← List.count_pos_iff]
  omega

end Conserves

/-! ## Renaming a final stream -/

/-- Renaming an output changes no input. -/
theorem FilterGraph.inputs_renameLast? {old new : String} {statements renamed : List Statement}
    (result : renameLast? old new statements = some renamed) :
    renamed.flatMap (·.inputs) = statements.flatMap (·.inputs) := by
  obtain ⟨earlier, statement, later, rfl, -, rfl⟩ := exists_renameLast? result
  simp only [List.flatMap_append, List.flatMap_cons]
  rfl

/-- A final stream that gets the label that is asked for is left under it,
whatever that label is. -/
theorem Conserves.relabel {graph : FilterGraph} {given others : List String}
    {current : Option String} (kind : MediaKind) (requested : Option String)
    (conserves : Conserves given graph.statements (current.toList ++ others)) :
    Conserves given (Composition.relabel kind requested graph current).1.statements
      ((Composition.relabel kind requested graph current).2.toList ++ others) := by
  rcases relabel_cases kind requested graph current with
    same | ⟨old, new, rfl, rfl, -, ⟨statements, renamed, equal⟩ | equal⟩
  · rwa [same]
  · -- one declaration takes the place of another, and so does the final stream
    rw [equal]
    rw [conserves_iff_count] at conserves ⊢
    intro label
    have before := conserves label
    have exchanged := (FilterGraph.perm_renameLast? renamed).count_eq label
    simp only [FilterGraph.inputs_renameLast? renamed, Option.toList_some,
      List.singleton_append, List.count_cons] at before exchanged ⊢
    omega
  · -- the stream is consumed on its way to the new label
    rw [equal]
    rw [conserves_iff_count] at conserves ⊢
    intro label
    have before := conserves label
    simp only [FilterGraph.extend, List.flatMap_append, List.flatMap_singleton,
      Statement.chain, List.count_append, Option.toList_some, List.singleton_append,
      List.count_cons, List.count_nil] at before ⊢
    omega

end Montage
