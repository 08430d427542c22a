import Montage.Graph.Validation
import Montage.Proofs.Outcome
import Mathlib.Data.List.Basic
import Mathlib.Data.List.Nodup

/-!
# Valid graphs

The validator reads statements with the labels seen so far in its hands. Here
stands what it accepts, said of the whole graph at once (`FilterGraph.Valid`):
everything that is consumed is there before, everything that is declared is
new, and no link is consumed twice. `validate_ok_iff` joins the two.
-/

namespace Montage

/-! ## Links and supplies -/

/-- The labels among some that are links, not streams of inputs. -/
def linksOf (labels : List String) : List String := labels.filter (!isInputStream ·)

@[simp] theorem linksOf_nil : linksOf [] = [] := rfl

@[simp] theorem linksOf_append (labels more : List String) :
    linksOf (labels ++ more) = linksOf labels ++ linksOf more := List.filter_append ..

theorem linksOf_cons_stream {label : String} (stream : isInputStream label = true)
    (labels : List String) : linksOf (label :: labels) = linksOf labels := by
  simp [linksOf, stream]

theorem linksOf_cons_link {label : String} (link : isInputStream label = false)
    (labels : List String) : linksOf (label :: labels) = label :: linksOf labels := by
  simp [linksOf, link]

theorem mem_linksOf {label : String} {labels : List String} :
    label ∈ linksOf labels ↔ label ∈ labels ∧ isInputStream label = false := by
  simp [linksOf, List.mem_filter]

/-- A label that can be consumed: a stream of an existing input, or a link that
is already declared. -/
def IsSupplied (inputCount : Nat) (declared : List String) (label : String) : Prop :=
  (∃ index, inputStreamIndex? label = some index ∧ index < inputCount) ∨
    (isInputStream label = false ∧ label ∈ declared)

theorem isSupplied_stream {n index : Nat} {declared : List String} {label : String}
    (stream : inputStreamIndex? label = some index) :
    IsSupplied n declared label ↔ index < n := by
  simp [IsSupplied, isInputStream, stream]

theorem isSupplied_link {n : Nat} {declared : List String} {label : String}
    (link : inputStreamIndex? label = none) :
    IsSupplied n declared label ↔ label ∈ declared := by
  simp [IsSupplied, isInputStream, link]

/-- A graph whose labels are in order. -/
structure FilterGraph.Valid (graph : FilterGraph) (inputCount : Nat) : Prop where
  /-- what a statement consumes is there before it -/
  supplied : ∀ earlier statement later,
    graph.statements = earlier ++ statement :: later →
      ∀ label ∈ statement.inputs,
        IsSupplied inputCount (earlier.flatMap (·.outputs)) label
  declaredOnce : graph.declared.Nodup
  declaredPlain : ∀ label ∈ graph.declared, isInputStream label = false
  consumedOnce : (linksOf graph.consumed).Nodup

/-! ## Reading one statement -/

namespace LabelScope

/-- No label is noted twice. -/
structure Distinct (scope : LabelScope) : Prop where
  declared : scope.declared.Nodup
  consumed : scope.consumed.Nodup

/-- The scope with more labels consumed. -/
def consuming (scope : LabelScope) (labels : List String) : LabelScope :=
  { scope with consumed := (linksOf labels).reverse ++ scope.consumed }

/-- The scope with more labels declared. -/
def declaring (scope : LabelScope) (labels : List String) : LabelScope :=
  { scope with declared := labels.reverse ++ scope.declared }

theorem consume_ok_iff {n : Nat} {scope next : LabelScope} {label : String}
    (distinct : scope.Distinct) :
    scope.consume n label = .ok next ↔
      IsSupplied n scope.declared label ∧ next = scope.consuming [label] ∧ next.Distinct := by
  cases index : inputStreamIndex? label with
  | some found =>
      -- a stream of an input is not noted, however often it is consumed
      have stream : isInputStream label = true := by simp [isInputStream, index]
      have same : scope.consuming [label] = scope := by
        simp [consuming, linksOf_cons_stream stream]
      rw [isSupplied_stream index, same]
      by_cases inRange : found < n
      · simp only [consume, index, inRange, if_true, Except.ok.injEq, true_and]
        constructor
        · rintro rfl
          exact ⟨rfl, distinct⟩
        · rintro ⟨rfl, -⟩
          rfl
      · simp [consume, index, inRange]
  | none =>
      have link : isInputStream label = false := by simp [isInputStream, index]
      have grown : scope.consuming [label] = ⟨scope.declared, label :: scope.consumed⟩ := by
        simp [consuming, linksOf_cons_link link]
      rw [isSupplied_link index, grown]
      by_cases declared : label ∈ scope.declared
      · by_cases consumed : label ∈ scope.consumed
        · have refused : scope.consume n label = .error (.consumedTwice label) := by
            simp [consume, index, declared, consumed]
          rw [refused]
          constructor
          · intro impossible
            cases impossible
          · rintro ⟨-, rfl, distinct'⟩
            exact absurd consumed (List.nodup_cons.mp distinct'.consumed).1
        · have accepted : scope.consume n label =
              .ok ⟨scope.declared, label :: scope.consumed⟩ := by
            simp [consume, index, declared, consumed]
          rw [accepted, Except.ok.injEq]
          constructor
          · rintro rfl
            exact ⟨declared, rfl, distinct.declared,
              List.nodup_cons.mpr ⟨consumed, distinct.consumed⟩⟩
          · rintro ⟨-, rfl, -⟩
            rfl
      · simp [consume, index, declared]

theorem declare_ok_iff {scope next : LabelScope} {label : String} (distinct : scope.Distinct) :
    scope.declare label = .ok next ↔
      isInputStream label = false ∧ next = scope.declaring [label] ∧ next.Distinct := by
  cases stream : isInputStream label with
  | true => simp [declare, stream]
  | false =>
      by_cases declared : label ∈ scope.declared
      · have refused : scope.declare label = .error (.declaredTwice label) := by
          simp [declare, stream, declared]
        rw [refused]
        constructor
        · intro impossible
          cases impossible
        · rintro ⟨-, rfl, distinct'⟩
          exact absurd declared (List.nodup_cons.mp distinct'.declared).1
      · have accepted : scope.declare label = .ok (scope.declaring [label]) := by
          simp [declare, stream, declared, declaring]
        rw [accepted, Except.ok.injEq]
        constructor
        · rintro rfl
          exact ⟨rfl, rfl, List.nodup_cons.mpr ⟨declared, distinct.declared⟩, distinct.consumed⟩
        · rintro ⟨-, rfl, -⟩
          rfl

/-- A way to note labels one after the other, which forgets none that is noted
already. -/
structure Notes (note : LabelScope → List String → LabelScope) : Prop where
  nil : ∀ scope, note scope [] = scope
  cons : ∀ scope label labels, note (note scope [label]) labels = note scope (label :: labels)
  distinct : ∀ scope labels, (note scope labels).Distinct → scope.Distinct

theorem notes_consuming : Notes consuming where
  nil := fun _ => rfl
  cons := by
    intro scope label labels
    show _ = scope.consuming ([label] ++ labels)
    simp only [consuming, linksOf_append, List.reverse_append, List.append_assoc]
  distinct := fun _ _ distinct =>
    ⟨distinct.declared, (List.nodup_append.mp distinct.consumed).2.1⟩

theorem notes_declaring : Notes declaring where
  nil := fun _ => rfl
  cons := by
    intro scope label labels
    simp [declaring]
  distinct := fun _ _ distinct =>
    ⟨(List.nodup_append.mp distinct.declared).2.1, distinct.consumed⟩

/-- Steps that each accept a label on a condition, and note it, accept all
labels that meet the condition, if none is noted twice in the end. -/
theorem foldlM_ok_iff {step : LabelScope → String → Except LabelFault LabelScope}
    {note : LabelScope → List String → LabelScope} (notes : Notes note)
    (accepts : LabelScope → String → Prop)
    (each : ∀ scope next label, scope.Distinct →
      (step scope label = .ok next ↔
        accepts scope label ∧ next = note scope [label] ∧ next.Distinct))
    (same : ∀ scope label, accepts (note scope [label]) = accepts scope)
    {scope next : LabelScope} {labels : List String} (distinct : scope.Distinct) :
    labels.foldlM step scope = .ok next ↔
      (∀ label ∈ labels, accepts scope label) ∧
        next = note scope labels ∧ next.Distinct := by
  induction labels generalizing scope with
  | nil =>
      rw [notes.nil]
      constructor
      · intro accepted
        cases accepted
        exact ⟨by simp, rfl, distinct⟩
      · rintro ⟨-, rfl, -⟩
        rfl
  | cons label rest ih =>
      rw [List.foldlM_cons, bind_ok_iff, List.forall_mem_cons, ← notes.cons]
      constructor
      · rintro ⟨middle, first, remaining⟩
        obtain ⟨accepted, rfl, distinct'⟩ := (each _ _ _ distinct).mp first
        obtain ⟨others, rfl, last⟩ := (ih distinct').mp remaining
        rw [same] at others
        exact ⟨⟨accepted, others⟩, rfl, last⟩
      · rintro ⟨⟨accepted, others⟩, rfl, last⟩
        -- no label is noted twice on the way, since none is in the end
        have distinct' := notes.distinct _ _ last
        rw [← same scope label] at others
        exact ⟨_, (each _ _ _ distinct).mpr ⟨accepted, rfl, distinct'⟩,
          (ih distinct').mpr ⟨others, rfl, last⟩⟩

theorem foldlM_consume_ok_iff {n : Nat} {scope next : LabelScope} {labels : List String}
    (distinct : scope.Distinct) :
    labels.foldlM (consume n) scope = .ok next ↔
      (∀ label ∈ labels, IsSupplied n scope.declared label) ∧
        next = scope.consuming labels ∧ next.Distinct :=
  foldlM_ok_iff notes_consuming (fun scope => IsSupplied n scope.declared)
    (fun _ _ _ => consume_ok_iff) (fun _ _ => rfl) distinct

theorem foldlM_declare_ok_iff {scope next : LabelScope} {labels : List String}
    (distinct : scope.Distinct) :
    labels.foldlM declare scope = .ok next ↔
      (∀ label ∈ labels, isInputStream label = false) ∧
        next = scope.declaring labels ∧ next.Distinct :=
  foldlM_ok_iff notes_declaring (fun _ label => isInputStream label = false)
    (fun _ _ _ => declare_ok_iff) (fun _ _ => rfl) distinct

/-- The scope after a statement that is in order. -/
def after (scope : LabelScope) (statement : Statement) : LabelScope :=
  (scope.consuming statement.inputs).declaring statement.outputs

theorem read_ok_iff {n : Nat} {scope next : LabelScope} {statement : Statement}
    (distinct : scope.Distinct) :
    scope.read n statement = .ok next ↔
      (∀ label ∈ statement.inputs, IsSupplied n scope.declared label) ∧
        (∀ label ∈ statement.outputs, isInputStream label = false) ∧
          next = scope.after statement ∧ next.Distinct := by
  unfold read
  rw [bind_ok_iff]
  constructor
  · rintro ⟨middle, inputs, outputs⟩
    obtain ⟨supplied, rfl, distinct'⟩ := (foldlM_consume_ok_iff distinct).mp inputs
    obtain ⟨plain, rfl, last⟩ := (foldlM_declare_ok_iff distinct').mp outputs
    exact ⟨supplied, plain, rfl, last⟩
  · rintro ⟨supplied, plain, rfl, last⟩
    have distinct' : (scope.consuming statement.inputs).Distinct :=
      notes_declaring.distinct _ _ last
    exact ⟨_, (foldlM_consume_ok_iff distinct).mpr ⟨supplied, rfl, distinct'⟩,
      (foldlM_declare_ok_iff distinct').mpr ⟨plain, rfl, last⟩⟩

/-! ## Reading all statements -/

/-- The scope after statements that are in order. -/
def afterAll (scope : LabelScope) (statements : List Statement) : LabelScope where
  declared := (statements.flatMap (·.outputs)).reverse ++ scope.declared
  consumed := (linksOf (statements.flatMap (·.inputs))).reverse ++ scope.consumed

theorem afterAll_cons (scope : LabelScope) (statement : Statement) (rest : List Statement) :
    (scope.after statement).afterAll rest = scope.afterAll (statement :: rest) := by
  simp [afterAll, after, consuming, declaring]

theorem Distinct.of_afterAll {scope : LabelScope} {statements : List Statement}
    (distinct : (scope.afterAll statements).Distinct) : scope.Distinct :=
  ⟨(List.nodup_append.mp distinct.declared).2.1, (List.nodup_append.mp distinct.consumed).2.1⟩

end LabelScope

/-- Each of some statements finds what it consumes, in a scope or among what
the statements before it declare. -/
def SuppliedIn (n : Nat) (declared : List String) (statements : List Statement) : Prop :=
  ∀ earlier statement later, statements = earlier ++ statement :: later →
    ∀ label ∈ statement.inputs,
      IsSupplied n ((earlier.flatMap (·.outputs)).reverse ++ declared) label

theorem suppliedIn_cons {n : Nat} {declared : List String} {statement : Statement}
    {rest : List Statement} :
    SuppliedIn n declared (statement :: rest) ↔
      (∀ label ∈ statement.inputs, IsSupplied n declared label) ∧
        SuppliedIn n (statement.outputs.reverse ++ declared) rest := by
  constructor
  · intro supplied
    refine ⟨supplied [] statement rest rfl, ?_⟩
    rintro earlier other later rfl label member
    have found := supplied (statement :: earlier) other later rfl label member
    simpa [List.append_assoc] using found
  · rintro ⟨first, others⟩ earlier other later split label member
    cases earlier with
    | nil =>
        obtain ⟨rfl, rfl⟩ := List.cons.inj split
        exact first label member
    | cons head tail =>
        obtain ⟨rfl, rfl⟩ := List.cons.inj split
        have found := others tail other later rfl label member
        simpa [List.append_assoc] using found

theorem readStatements_ok_iff {n : Nat} {scope next : LabelScope} {statements : List Statement}
    (distinct : scope.Distinct) :
    readStatements n scope statements = .ok next ↔
      SuppliedIn n scope.declared statements ∧
        (∀ label ∈ statements.flatMap (·.outputs), isInputStream label = false) ∧
          next = scope.afterAll statements ∧ next.Distinct := by
  induction statements generalizing scope with
  | nil =>
      constructor
      · intro accepted
        cases accepted
        refine ⟨?_, by simp, rfl, distinct⟩
        intro earlier statement later split
        exact absurd split (by simp)
      · rintro ⟨-, -, rfl, -⟩
        rfl
  | cons statement rest ih =>
      rw [suppliedIn_cons, List.flatMap_cons, List.forall_mem_append, ← LabelScope.afterAll_cons]
      unfold readStatements
      constructor
      · intro accepted
        cases first : scope.read n statement with
        | error fault => simp [first] at accepted
        | ok middle =>
            simp only [first] at accepted
            obtain ⟨supplied, plain, rfl, distinct'⟩ := (LabelScope.read_ok_iff distinct).mp first
            obtain ⟨others, plains, rfl, last⟩ := (ih distinct').mp accepted
            exact ⟨⟨supplied, others⟩, ⟨plain, plains⟩, rfl, last⟩
      · rintro ⟨⟨supplied, others⟩, ⟨plain, plains⟩, rfl, last⟩
        have distinct' := last.of_afterAll
        have first := (LabelScope.read_ok_iff distinct).mpr ⟨supplied, plain, rfl, distinct'⟩
        simp only [first]
        exact (ih distinct').mpr ⟨others, plains, rfl, last⟩

/-- The validator accepts just the graphs whose labels are in order. -/
theorem FilterGraph.validate_ok_iff {graph : FilterGraph} {n : Nat} :
    graph.validate n = .ok () ↔ graph.Valid n := by
  have distinct : LabelScope.Distinct {} := ⟨List.nodup_nil, List.nodup_nil⟩
  have noted : (LabelScope.afterAll {} graph.statements).Distinct ↔
      graph.declared.Nodup ∧ (linksOf graph.consumed).Nodup := by
    constructor
    · rintro ⟨declared, consumed⟩
      simp only [LabelScope.afterAll, List.append_nil, List.nodup_reverse] at declared consumed
      exact ⟨declared, consumed⟩
    · rintro ⟨declared, consumed⟩
      constructor <;> simpa [LabelScope.afterAll, List.nodup_reverse]
  have supplies : SuppliedIn n [] graph.statements ↔
      ∀ earlier statement later, graph.statements = earlier ++ statement :: later →
        ∀ label ∈ statement.inputs, IsSupplied n (earlier.flatMap (·.outputs)) label := by
    simp [SuppliedIn, IsSupplied]
  unfold FilterGraph.validate
  rw [map_ok_iff]
  constructor
  · rintro ⟨last, accepted, -⟩
    obtain ⟨supplied, plain, rfl, last⟩ := (readStatements_ok_iff distinct).mp accepted
    obtain ⟨declared, consumed⟩ := noted.mp last
    exact ⟨supplies.mp supplied, declared, plain, consumed⟩
  · rintro ⟨supplied, declared, plain, consumed⟩
    exact ⟨_, (readStatements_ok_iff distinct).mpr
      ⟨supplies.mpr supplied, plain, rfl, noted.mpr ⟨declared, consumed⟩⟩, rfl⟩

end Montage
